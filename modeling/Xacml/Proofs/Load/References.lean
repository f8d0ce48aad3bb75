import Mathlib.Logic.Relation
import Xacml.Proofs.Load.Stack

/-!
# References between definitions

Variables are loaded one after another, each when it is first named.  If every name is defined, no
name is defined in terms of itself and every definition fits the types of the variables in it, then
all of them are loaded.

* `Scope.RefersTo` is the graph of references, and `Scope.IsResolvable` is the condition,
* `Scope.resolveWithin_provides`: the open names all lead to the one that is resolved, so none of
  them is met again,
* `Scope.IsResolvable.exists_policyVariables` is the result.
-/

namespace Xacml

namespace Scope

/-! ## References -/

/-- Whether the definition of one name refers to another name. -/
def RefersTo (scope : Scope) (a b : String) : Prop :=
  ∃ written ∈ scope.definitions, written.variableId = a ∧ b ∈ written.expr.references

/-- Whether every definition has the type that its name is given, when the variables in it have
those that their names are given. -/
def IsTypedBy (scope : Scope) (types : String → ArgType) : Prop :=
  ∀ written ∈ scope.definitions,
    written.expr.typeIn scope.functions types = .ok (types written.variableId)

/-- Whether every name that is referred to is defined, none in terms of itself, and every
definition fits the types of the variables in it. -/
structure IsResolvable (scope : Scope) : Prop where
  closed : ∀ a b, scope.RefersTo a b → b ∈ scope.names
  acyclic : ∀ id, ¬ Relation.TransGen scope.RefersTo id id
  wellTyped : ∃ types, scope.IsTypedBy types

/-- The variables of a policy with these definitions. -/
def policyVariables (scope : Scope) : Except LoadError (List VariableDefinition) :=
  (scope.loadVariables scope.definitions).run' []

section

variable {scope : Scope} {id : String}

theorem exists_definition? (h : id ∈ scope.names) :
    ∃ written ∈ scope.definitions, scope.definition? id = some written ∧
      written.variableId = id := by
  rcases List.mem_map.1 h with ⟨definition, hmem, rfl⟩
  have hfound : (scope.definition? definition.variableId).isSome := by
    rw [definition?, List.find?_isSome]
    exact ⟨definition, hmem, by simp⟩
  rcases Option.isSome_iff_exists.1 hfound with ⟨written, hwritten⟩
  rcases mem_of_definition? hwritten with ⟨hmem', hname⟩
  exact ⟨written, hmem', hwritten, hname⟩

theorem refersTo_iff (hnames : scope.names.Nodup) {written : Document.VariableDefinition}
    (hwritten : written ∈ scope.definitions) {b : String} :
    scope.RefersTo written.variableId b ↔ b ∈ written.expr.references := by
  constructor
  · rintro ⟨definition, hmem, hname, hb⟩
    rwa [List.inj_on_of_nodup_map hnames hmem hwritten hname] at hb
  · exact fun hb => ⟨written, hwritten, rfl, hb⟩

theorem nodup_names_of_perm (hnames : scope.names.Nodup)
    {definitions : List Document.VariableDefinition}
    (hperm : definitions.Perm scope.definitions) :
    (Scope.mk scope.functions definitions).names.Nodup :=
  (hperm.map Document.VariableDefinition.variableId).nodup_iff.2 hnames

theorem IsResolvable.of_mem_iff (h : scope.IsResolvable)
    {definitions : List Document.VariableDefinition}
    (hmem : ∀ written, written ∈ definitions ↔ written ∈ scope.definitions) :
    (Scope.mk scope.functions definitions).IsResolvable := by
  have hgraph : (Scope.mk scope.functions definitions).RefersTo = scope.RefersTo := by
    funext a b
    simp only [RefersTo, hmem]
  refine ⟨fun a b hab => ?_, fun id => ?_, ?_⟩
  · have hb := h.closed a b (hgraph ▸ hab)
    simpa only [names, List.mem_map, hmem] using hb
  · rw [hgraph]
    exact h.acyclic id
  · simpa only [IsTypedBy, hmem] using h.wellTyped

end

/-! ## Definitions that can be resolved -/

section

variable {scope : Scope} {types : String → ArgType} {opened : List String} {id : String}

/-- Whether the variables that are known have the given types. -/
def HasTypes (types : String → ArgType) (known : List VariableDefinition) : Prop :=
  ∀ loaded ∈ known, loaded.expr.argType = types loaded.id

/-- A variable is found if the names that are open all lead to it, and enough definitions can still
be opened: by induction on how many. -/
theorem resolveWithin_provides (hscope : scope.IsResolvable)
    (htypes : scope.IsTypedBy types) {left : Nat} (hname : id ∈ scope.names)
    (hopened : ∀ name ∈ opened, Relation.TransGen scope.RefersTo name id)
    (hleft : scope.unopened opened ≤ left) :
    (scope.resolveWithin left opened id).Provides (HasTypes types) fun e =>
      e.argType = types id := by
  induction left using Nat.strong_induction_on generalizing opened id with
  | _ left ih =>
      intro known hknown
      cases hfind : known.find? fun loaded => loaded.id = id with
      | some loaded =>
          have hid : loaded.id = id := by simpa using List.find?_some hfind
          have htype := hknown loaded (List.mem_of_find?_eq_some hfind)
          exact ⟨loaded.expr, known, resolveWithin_of_known hfind, hid ▸ htype, hknown⟩
      | none =>
          -- An open name that is met again would lead to itself.
          have hid : id ∉ opened := fun hmem => hscope.acyclic id (hopened id hmem)
          have hfewer := unopened_cons_lt hid hname
          rcases exists_definition? hname with ⟨written, hmem, hwritten, rfl⟩
          cases left with
          | zero => omega
          | succ left =>
              have hreferences : ∀ name ∈ written.expr.references,
                  (scope.resolveWithin left (written.variableId :: opened) name).Provides
                    (HasTypes types) fun e => e.argType = types name := by
                intro name href
                have hrefers : scope.RefersTo written.variableId name := ⟨written, hmem, rfl, href⟩
                -- What leads to this name leads to the ones that it refers to.
                refine ih left (Nat.lt_succ_self left) (hscope.closed _ _ hrefers) ?_ (by omega)
                rw [List.forall_mem_cons]
                exact ⟨.single hrefers, fun other hother => (hopened other hother).tail hrefers⟩
              rcases Document.Expr.load_provides hreferences (htypes written hmem) known hknown with
                ⟨e, known', hload, he, hknown'⟩
              refine ⟨e, known' ++ [⟨written.variableId, e⟩],
                resolveWithin_of_load hfind hid hwritten hload, he, ?_⟩
              exact List.forall_mem_append.2 ⟨hknown', by simpa using he⟩

theorem loadVariables_provides (hscope : scope.IsResolvable)
    (htypes : scope.IsTypedBy types) {definitions : List Document.VariableDefinition}
    (hnames : ∀ written ∈ definitions, written.variableId ∈ scope.names) :
    (scope.loadVariables definitions).Provides (HasTypes types) fun _ => True := by
  induction definitions with
  | nil => exact .pure trivial
  | cons definition rest ih =>
      rw [List.forall_mem_cons] at hnames
      refine Loading.Provides.bind (resolveWithin_provides hscope htypes hnames.1 ?_
        (scope.unopened_le [])) fun e _ => (ih hnames.2).bind fun _ _ => .pure trivial
      exact fun _ hmem => nomatch hmem

theorem IsResolvable.exists_policyVariables (h : scope.IsResolvable) :
    ∃ loaded, scope.policyVariables = .ok loaded := by
  rcases h.wellTyped with ⟨types, htypes⟩
  rcases loadVariables_provides h htypes (fun _ hmem => List.mem_map_of_mem hmem) []
    (fun _ hmem => nomatch hmem) with ⟨loaded, known, hrun, -, -⟩
  refine ⟨loaded, ?_⟩
  rw [policyVariables, StateT.run'_eq, hrun]
  rfl

end

end Scope

end Xacml
