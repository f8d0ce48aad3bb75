import Mathlib.Data.Finset.Card
import Xacml.Proofs.Load.Conversion

/-!
# The stack of open definitions

Variables can be resolved with one stack that every resolution shares: a name is put on it before
its definition is converted and is taken off after that, whatever came of the conversion.  This
resolution fails where `Scope.resolve` fails and otherwise finds the same, it always ends, and it
leaves the stack as it was.

* `LoadState` is what is kept: the variables that are known, and the stack,
* `Scope.resolveStacked` resolves a variable, unless it is cut off before it ends,
* `Resolving.Follows` relates such a computation to one of `Loading`; `resolveStacked_follows` and
  `loadVariablesStacked_follows` are the results.
-/

namespace Xacml

/-! ## Computations with a stack -/

/-- The variables that are known, and the names of the definitions that are open, with the one
that was opened last at the head. -/
structure LoadState where
  known : List VariableDefinition
  opened : List String

/-- A computation that may fail, and that may also be cut off before it has ended (`none`).  What
is kept outlasts a failure. -/
abbrev Resolving (α : Type) : Type :=
  ExceptT LoadError (StateT LoadState Option) α

namespace Resolving

variable {α β : Type}

/-- Runs a computation from what is kept. -/
def runFrom (x : Resolving α) (state : LoadState) :
    Option (Except LoadError α × LoadState) :=
  x.run.run state

/-- A computation that is cut off. -/
def cutOff : Resolving α :=
  ExceptT.mk fun _ => none

/-- A computation during which a name is on the stack.  The name is taken off whether the
computation succeeds or fails. -/
def opening (id : String) (x : Resolving α) : Resolving α :=
  ExceptT.mk do
    modify fun state => { state with opened := id :: state.opened }
    let result ← x.run
    modify fun state => { state with opened := state.opened.tail }
    return result

end Resolving

namespace Scope

/-- The definition of a variable, when at most as many definitions as given can be open at a
time. -/
def resolveStacked (scope : Scope) : Nat → String → Resolving Expr
  | 0, _ => Resolving.cutOff
  | depth + 1, id => do
      let state ← get
      match state.known.find? fun loaded => loaded.id = id with
      | some loaded => return loaded.expr
      | none =>
          -- The definition of this name is being converted, so it has led to itself.
          if state.opened.contains id then throw (.cyclicVariable id)
          else
            match scope.definition? id with
            | none => throw (.undefinedVariable id)
            | some written =>
                let expr ← Resolving.opening id
                  (written.expr.convert scope.functions (scope.resolveStacked depth))
                -- A conversion that fails adds nothing under this name.
                modify fun state => { state with known := state.known ++ [⟨id, expr⟩] }
                return expr

/-- The variables of a policy, in the order of their definitions. -/
def loadVariablesStacked (scope : Scope) (depth : Nat) :
    List Document.VariableDefinition → Resolving (List VariableDefinition)
  | [] => pure []
  | definition :: rest => do
      let expr ← scope.resolveStacked depth definition.variableId
      let rest ← loadVariablesStacked scope depth rest
      return ⟨definition.variableId, expr⟩ :: rest

end Scope

/-! ## Agreement -/

namespace Resolving

variable {α β : Type} {opened : List String}

/-- Whether a computation with a stack has ended as one without it, and with this stack. -/
inductive Ended (opened : List String) :
    Except LoadError (α × List VariableDefinition) →
      Option (Except LoadError α × LoadState) → Prop
  | ok (a : α) (known : List VariableDefinition) :
      Ended opened (.ok (a, known)) (some (.ok a, ⟨known, opened⟩))
  | error (error : LoadError) (known : List VariableDefinition) :
      Ended opened (.error error) (some (.error error, ⟨known, opened⟩))

/-- A computation that has ended has the same result, and leaves its stack. -/
theorem Ended.exists_eq {x : Except LoadError (α × List VariableDefinition)}
    {y : Option (Except LoadError α × LoadState)} (h : Ended opened x y) :
    ∃ known, y = some (x.map Prod.fst, ⟨known, opened⟩) := by
  cases h with
  | ok a known => exact ⟨known, rfl⟩
  | error error known => exact ⟨known, rfl⟩

/-- Whether a computation with a stack ends as one without it, and leaves this stack as it was. -/
def Follows (opened : List String) (α : Type) (x : Loading α) (y : Resolving α) : Prop :=
  ∀ known, Ended opened (x.run known) (y.runFrom ⟨known, opened⟩)

theorem Follows.throw (error : LoadError) : Follows opened α (throw error) (throw error) :=
  fun known => .error error known

theorem runFrom_get_bind (f : LoadState → Resolving β) (state : LoadState) :
    (get >>= f).runFrom state = (f state).runFrom state :=
  rfl

theorem runFrom_bind (x : Resolving α) (f : α → Resolving β) (state : LoadState) :
    (x >>= f).runFrom state = (x.runFrom state).bind fun
      | (.ok a, state) => (f a).runFrom state
      | (.error error, state) => some (.error error, state) := by
  unfold runFrom ExceptT.run StateT.run
  simp only [bind, ExceptT.bind, ExceptT.mk, StateT.bind, ExceptT.bindCont]
  cases x state with
  | none => rfl
  | some ended =>
      rcases ended with ⟨_ | _, _⟩ <;> rfl

theorem follows_simulation (opened : List String) : Simulation (Follows opened) := by
  refine ⟨fun a known => .ok a known, fun {α β x y f g} hfirst hnext known => ?_⟩
  rw [StateT.run_bind, runFrom_bind]
  have hended := hfirst known
  generalize x.run known = result at hended
  generalize y.runFrom ⟨known, opened⟩ = result' at hended
  cases hended with
  | ok a known' => exact hnext a known'
  | error error known' => exact .error error known'

theorem runFrom_opening (id : String) (x : Resolving α) (known : List VariableDefinition)
    (opened : List String) :
    (opening id x).runFrom ⟨known, opened⟩ = (x.runFrom ⟨known, id :: opened⟩).map fun
      | (result, state) => (result, ⟨state.known, state.opened.tail⟩) := by
  unfold runFrom opening
  simp only [ExceptT.run_mk, StateT.run_bind, StateT.run_modify, pure_bind]
  show Option.bind _ _ = _
  cases (ExceptT.run x).run ⟨known, id :: opened⟩ with
  | none => rfl
  | some ended => rfl

/-- An opened name is off the stack again in the end. -/
theorem Follows.opening {id : String} {x : Loading α} {y : Resolving α}
    (h : Follows (id :: opened) α x y) : Follows opened α x (Resolving.opening id y) := by
  intro known
  rw [runFrom_opening]
  have hended := h known
  generalize x.run known = result at hended
  generalize y.runFrom ⟨known, id :: opened⟩ = result' at hended
  cases hended with
  | ok a known' => exact .ok a known'
  | error error known' => exact .error error known'

end Resolving

namespace Scope

/-- The names of the definitions of a scope. -/
def names (scope : Scope) : List String :=
  scope.definitions.map Document.VariableDefinition.variableId

/-- How many names of a scope are not open. -/
def unopened (scope : Scope) (opened : List String) : Nat :=
  (scope.names.toFinset \ opened.toFinset).card

variable {scope : Scope} {opened : List String} {id : String}

theorem mem_of_definition? {written : Document.VariableDefinition}
    (h : scope.definition? id = some written) :
    written ∈ scope.definitions ∧ written.variableId = id :=
  ⟨List.mem_of_find?_eq_some h, by simpa using List.find?_some h⟩

theorem mem_names_of_definition? {written : Document.VariableDefinition}
    (h : scope.definition? id = some written) : id ∈ scope.names :=
  List.mem_map.2 ⟨written, mem_of_definition? h⟩

theorem unopened_le (scope : Scope) (opened : List String) :
    scope.unopened opened ≤ scope.definitions.length :=
  calc
    scope.unopened opened ≤ scope.names.toFinset.card :=
      Finset.card_le_card Finset.sdiff_subset
    _ ≤ scope.names.length := List.toFinset_card_le _
    _ = scope.definitions.length := List.length_map _

/-- Opening a definition leaves fewer names. -/
theorem unopened_cons_lt (hid : id ∉ opened) (hname : id ∈ scope.names) :
    scope.unopened (id :: opened) < scope.unopened opened := by
  unfold unopened
  rw [List.toFinset_cons, Finset.sdiff_insert]
  refine Finset.card_erase_lt_of_mem ?_
  simp [hid, hname]

/-- Resolving a variable with a stack ends as resolving it without one, if at least as many
definitions can be opened as are not open. -/
theorem resolveStacked_follows {left depth : Nat} (hleft : scope.unopened opened ≤ left)
    (hdepth : left < depth) (id : String) :
    Resolving.Follows opened Expr (scope.resolveWithin left opened id)
      (scope.resolveStacked depth id) := by
  induction depth generalizing left opened id with
  | zero => omega
  | succ depth ih =>
      intro known
      -- Both look at what is known, then at what is open, and only then for a definition.
      unfold resolveWithin resolveStacked
      rw [Loading.run_get_bind, Resolving.runFrom_get_bind]
      cases known.find? fun loaded => loaded.id = id with
      | some loaded => exact .ok loaded.expr known
      | none =>
          by_cases hopened : id ∈ opened
          · simp only [List.contains_eq_mem, hopened, decide_true, if_true]
            exact .error (.cyclicVariable id) known
          · simp only [List.contains_eq_mem, hopened, decide_false, Bool.false_eq_true, if_false]
            cases hwritten : scope.definition? id with
            | none => exact .error (.undefinedVariable id) known
            | some written =>
                -- This name is not open, so some definition can still be opened.
                have hfewer := unopened_cons_lt hopened (mem_names_of_definition? hwritten)
                cases left with
                | zero => omega
                | succ left =>
                    -- The definition is converted with its name on the stack.
                    have hconvert : Resolving.Follows (id :: opened) Expr
                        (written.expr.load scope.functions
                          (scope.resolveWithin left (id :: opened)))
                        (written.expr.convert scope.functions (scope.resolveStacked depth)) := by
                      rw [Document.Expr.load_eq_convert]
                      exact Document.Expr.convert_simulation (Resolving.follows_simulation _)
                        (fun _ => .throw) written.expr
                        fun name _ => ih (by omega) (by omega) name
                    exact (Resolving.follows_simulation opened).bind hconvert.opening
                      (fun expr known => .ok expr (known ++ [⟨id, expr⟩])) known

/-- Resolving the variables of a policy with a stack ends as loading them. -/
theorem loadVariablesStacked_follows {depth : Nat} (hdepth : scope.definitions.length < depth)
    (definitions : List Document.VariableDefinition) :
    Resolving.Follows [] _ (scope.loadVariables definitions)
      (scope.loadVariablesStacked depth definitions) := by
  have hR := Resolving.follows_simulation []
  induction definitions with
  | nil => exact hR.pure []
  | cons definition rest ih =>
      refine hR.bind ?_ fun expr => hR.bind ih fun rest => hR.pure _
      exact resolveStacked_follows (scope.unopened_le []) hdepth definition.variableId

end Scope

end Xacml
