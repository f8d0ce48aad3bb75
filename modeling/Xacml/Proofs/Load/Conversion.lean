import Xacml.Proofs.Evaluation.Simulation
import Xacml.Proofs.Normal.Expressions

/-!
# Converting written expressions

Loading an expression puts together computations that find its names.  What loading does to the
variables on the way is a matter of these computations alone.

* `Document.Expr.references` are the names of the variables in an expression,
* `Document.Expr.convert` converts an expression in any kind of computation that may fail, and
  `load_eq_convert` says that loading is a case of it,
* `Document.Expr.convert_simulation`: what relates the computations that find the variables of an
  expression relates its conversions,
* `lookUp` finds variables in a table; `convert_of_isPrefix`, `convert_congr` and
  `exists_of_convert_eq_ok` say how a conversion depends on it,
* `Document.Expr.typeIn` is the type of an expression, given those of its variables, and
  `typeIn_of_convert` and `load_provides` tie it to conversion and to loading.
-/

namespace Xacml

namespace Document.Expr

/-! ## Names -/

mutual

/-- The names of the variables that an expression refers to. -/
def references : Document.Expr → List String
  | value _ | designator _ | selector _ | function _ => []
  | variableReference id => [id]
  | apply _ args => referencesAll args

/-- The names of the variables that several expressions refer to. -/
def referencesAll : List Document.Expr → List String
  | [] => []
  | e :: rest => references e ++ referencesAll rest

end

/-! ## Conversion -/

section

variable {m : Type → Type} [Monad m] [MonadExcept LoadError m]

mutual

/-- The expression that is written; `resolve` finds the definition of a variable, and may have
effects. -/
def convert (functions : FunctionRegistry) (resolve : String → m Xacml.Expr) :
    Document.Expr → m Xacml.Expr
  | value v => MonadExcept.ofExcept ((loadValue v).map .value)
  | designator d => MonadExcept.ofExcept (d.load.map .designator)
  | selector s => MonadExcept.ofExcept (s.load.map .selector)
  | function id => MonadExcept.ofExcept ((loadFunction functions id).map .function)
  | variableReference id => do return .reference id (← resolve id)
  | apply functionId args => do
      let f ← MonadExcept.ofExcept (loadFunction functions functionId)
      -- The input check needs the types of all arguments, so it comes last.
      let args ← convertAll functions resolve args
      MonadExcept.ofExcept ((Xacml.Expr.application? f args).mapError .input)

/-- The expressions that are written, from left to right. -/
def convertAll (functions : FunctionRegistry) (resolve : String → m Xacml.Expr) :
    List Document.Expr → m (List Xacml.Expr)
  | [] => pure []
  | e :: rest => do
      let e ← convert functions resolve e
      let rest ← convertAll functions resolve rest
      return e :: rest

end

end

theorem ofExcept_eq_loading {α : Type} (x : Except LoadError α) :
    (MonadExcept.ofExcept x : Loading α) = Loading.ofExcept x := by
  cases x <;> rfl

theorem ofExcept_eq_self {α : Type} (x : Except LoadError α) :
    (MonadExcept.ofExcept x : Except LoadError α) = x := by
  cases x <;> rfl

section

variable (functions : FunctionRegistry) (resolve : String → Loading Xacml.Expr)

mutual

theorem load_eq_convert :
    ∀ e : Document.Expr, load functions resolve e = convert functions resolve e
  | value v | designator d | selector s | function id => by
      simp only [load, convert, ofExcept_eq_loading]
  | variableReference id => by simp only [load, convert]
  | apply functionId args => by
      simp only [load, convert, ofExcept_eq_loading, loadAll_eq_convertAll args]

theorem loadAll_eq_convertAll :
    ∀ list : List Document.Expr, loadAll functions resolve list = convertAll functions resolve list
  | [] => by simp only [loadAll, convertAll]
  | e :: rest => by
      simp only [loadAll, convertAll, load_eq_convert e, loadAll_eq_convertAll rest]

end

end

/-! ## Related conversions -/

section

variable {m n : Type → Type} [Monad m] [MonadExcept LoadError m] [Monad n]
variable [MonadExcept LoadError n] {R : ∀ α : Type, m α → n α → Prop}
variable {functions : FunctionRegistry} {resolve : String → m Xacml.Expr}
variable {resolve' : String → n Xacml.Expr}

theorem ofExcept_simulation (hR : Simulation R)
    (hfail : ∀ (α : Type) (error : LoadError), R α (throw error) (throw error)) {α : Type}
    (x : Except LoadError α) : R α (MonadExcept.ofExcept x) (MonadExcept.ofExcept x) := by
  cases x with
  | ok a => exact hR.pure a
  | error error => exact hfail α error

mutual

/-- Two conversions of an expression are related if its variables are found by related
computations. -/
theorem convert_simulation (hR : Simulation R)
    (hfail : ∀ (α : Type) (error : LoadError), R α (throw error) (throw error)) :
    ∀ e : Document.Expr, (∀ id ∈ references e, R _ (resolve id) (resolve' id)) →
      R _ (convert functions resolve e) (convert functions resolve' e)
  | value v, _ | designator d, _ | selector s, _ | function id, _ => by
      simp only [convert]
      exact ofExcept_simulation hR hfail _
  | variableReference id, h => by
      simp only [convert]
      exact hR.bind (h id (by simp [references])) fun _ => hR.pure _
  | apply functionId args, h => by
      simp only [convert]
      simp only [references] at h
      refine hR.bind (ofExcept_simulation hR hfail _) fun f => ?_
      exact hR.bind (convertAll_simulation hR hfail args h) fun _ =>
        ofExcept_simulation hR hfail _

theorem convertAll_simulation (hR : Simulation R)
    (hfail : ∀ (α : Type) (error : LoadError), R α (throw error) (throw error)) :
    ∀ list : List Document.Expr, (∀ id ∈ referencesAll list, R _ (resolve id) (resolve' id)) →
      R _ (convertAll functions resolve list) (convertAll functions resolve' list)
  | [], _ => by
      simp only [convertAll]
      exact hR.pure _
  | e :: rest, h => by
      simp only [convertAll]
      simp only [referencesAll, List.forall_mem_append] at h
      refine hR.bind (convert_simulation hR hfail e h.1) fun _ => ?_
      exact hR.bind (convertAll_simulation hR hfail rest h.2) fun _ => hR.pure _

end

end

end Document.Expr

/-! ## Tables of variables -/

/-- The variable of a name in a table. -/
def lookUp (table : List VariableDefinition) (id : String) : Except LoadError Expr :=
  match table.find? fun definition => definition.id = id with
  | some definition => .ok definition.expr
  | none => .error (.undefinedVariable id)

theorem lookUp_eq_ok_iff {table : List VariableDefinition} {id : String} {e : Expr} :
    lookUp table id = .ok e ↔
      table.find? (fun definition => definition.id = id) = some ⟨id, e⟩ := by
  unfold lookUp
  cases hfind : table.find? fun definition => definition.id = id with
  | none => simp
  | some definition =>
      have hid : definition.id = id := by simpa using List.find?_some hfind
      rcases definition with ⟨name, expr⟩
      simp only [Except.ok.injEq, Option.some.injEq, VariableDefinition.mk.injEq]
      exact ⟨fun h => ⟨hid, h⟩, And.right⟩

theorem eq_of_lookUp_snoc {table : List VariableDefinition} {name id : String} {d e : Expr}
    (h : lookUp (table ++ [⟨name, d⟩]) id = .ok e) :
    lookUp table id = .ok e ∨ name = id ∧ d = e := by
  rw [lookUp_eq_ok_iff, List.find?_append, Option.or_eq_some_iff] at h
  rcases h with hfound | ⟨-, hlast⟩
  · exact .inl (lookUp_eq_ok_iff.2 hfound)
  · have hmem := List.mem_of_find?_eq_some hlast
    rw [List.mem_singleton, VariableDefinition.mk.injEq] at hmem
    exact .inr ⟨hmem.1.symm, hmem.2.symm⟩

theorem lookUp_mono {table table' : List VariableDefinition} (h : table <+: table') {id : String}
    {e : Expr} (he : lookUp table id = .ok e) : lookUp table' id = .ok e := by
  rw [lookUp_eq_ok_iff] at he ⊢
  exact h.find?_eq_some he

theorem lookUp_eq_ok_iff_mem {table : List VariableDefinition}
    (hids : (table.map VariableDefinition.id).Nodup) {value : VariableDefinition} :
    lookUp table value.id = .ok value.expr ↔ value ∈ table := by
  rw [lookUp_eq_ok_iff]
  constructor
  · exact List.mem_of_find?_eq_some
  · intro hmem
    have hfound : (table.find? fun definition => definition.id = value.id).isSome :=
      List.find?_isSome.2 ⟨value, hmem, by simp⟩
    rcases Option.isSome_iff_exists.1 hfound with ⟨first, hfirst⟩
    have hid : first.id = value.id := by simpa using List.find?_some hfirst
    rwa [List.inj_on_of_nodup_map hids (List.mem_of_find?_eq_some hfirst) hmem hid] at hfirst

theorem lookUp_of_notMem {table : List VariableDefinition} {id : String}
    (h : id ∉ table.map VariableDefinition.id) :
    lookUp table id = .error (.undefinedVariable id) := by
  have hnone : table.find? (fun definition => definition.id = id) = none := by
    rw [List.find?_eq_none]
    intro definition hmem hid
    exact h (List.mem_map.2 ⟨definition, hmem, by simpa using hid⟩)
  rw [lookUp, hnone]

namespace Document.Expr

variable {functions : FunctionRegistry}

/-- A conversion that succeeds does so wherever its variables are found as the same. -/
theorem convert_mono {look look' : String → Except LoadError Xacml.Expr}
    (h : ∀ id e, look id = .ok e → look' id = .ok e) {written : Document.Expr} {e : Xacml.Expr}
    (he : written.convert functions look = .ok e) : written.convert functions look' = .ok e := by
  -- The second conversion may succeed where the first one fails, so the two are not equal.
  have hR : Simulation fun α (x y : Except LoadError α) => ∀ a, x = .ok a → y = .ok a := by
    refine ⟨fun a b hb => hb, fun {α β x y f g} hfirst hnext b hb => ?_⟩
    rcases exists_of_bind_eq_ok hb with ⟨a, ha, hb⟩
    rw [hfirst a ha]
    exact hnext a b hb
  exact convert_simulation hR (fun α error a h => h) written (fun id _ => h id) e he

theorem convert_of_isPrefix {table table' : List Xacml.VariableDefinition} (h : table <+: table')
    {written : Document.Expr} {e : Xacml.Expr}
    (he : written.convert functions (lookUp table) = .ok e) :
    written.convert functions (lookUp table') = .ok e :=
  convert_mono (fun _ _ => lookUp_mono h) he

/-- A conversion depends only on the variables that are referred to. -/
theorem convert_congr {look look' : String → Except LoadError Xacml.Expr} {written : Document.Expr}
    (h : ∀ id ∈ written.references, look id = look' id) :
    written.convert functions look = written.convert functions look' := by
  have hR : Simulation fun α (x y : Except LoadError α) => x = y := by
    refine ⟨fun a => rfl, fun {α β x y f g} hfirst hnext => ?_⟩
    rw [hfirst, funext hnext]
  exact convert_simulation hR (fun α error => rfl) written h

section

variable {look : String → Except LoadError Xacml.Expr}

mutual

/-- Every variable has to be found. -/
theorem exists_of_convert_eq_ok : ∀ {written : Document.Expr} {e : Xacml.Expr},
    convert functions look written = .ok e → ∀ id ∈ references written, ∃ d, look id = .ok d
  | value _, _, _ | designator _, _, _ | selector _, _, _ | function _, _, _ => by
      simp [references]
  | variableReference name, _, h => by
      simp only [convert] at h
      rcases exists_of_bind_eq_ok h with ⟨d, hd, -⟩
      simp only [references, List.mem_singleton]
      rintro id rfl
      exact ⟨d, hd⟩
  | apply functionId args, _, h => by
      simp only [convert] at h
      rcases exists_of_bind_eq_ok h with ⟨f, -, h⟩
      rcases exists_of_bind_eq_ok h with ⟨list, hlist, -⟩
      simp only [references]
      exact exists_of_convertAll_eq_ok hlist

theorem exists_of_convertAll_eq_ok : ∀ {written : List Document.Expr} {list : List Xacml.Expr},
    convertAll functions look written = .ok list →
      ∀ id ∈ referencesAll written, ∃ d, look id = .ok d
  | [], _, _ => by simp [referencesAll]
  | e :: rest, _, h => by
      simp only [convertAll] at h
      rcases exists_of_bind_eq_ok h with ⟨e', he', h⟩
      rcases exists_of_bind_eq_ok h with ⟨rest', hrest', -⟩
      simp only [referencesAll, List.forall_mem_append]
      exact ⟨exists_of_convert_eq_ok he', exists_of_convertAll_eq_ok hrest'⟩

end

end

/-! ## Types -/

mutual

/-- The type of an expression whose variables have the given types. -/
def typeIn (functions : FunctionRegistry) (types : String → ArgType) :
    Document.Expr → Except LoadError ArgType
  | value v => (loadValue v).map fun v => .value (.single v.type)
  | designator d => d.load.map fun d => .value (.bag d.query.dataType)
  | selector s => s.load.map fun s => .value (.bag s.query.dataType)
  | function id => (loadFunction functions id).map .function
  | variableReference id => .ok (types id)
  | apply functionId args => do
      let f ← loadFunction functions functionId
      let args ← typesIn functions types args
      ((f.checkInputs args).mapError .input).map .value

/-- The types of expressions whose variables have the given types. -/
def typesIn (functions : FunctionRegistry) (types : String → ArgType) :
    List Document.Expr → Except LoadError (List ArgType)
  | [] => .ok []
  | e :: rest => do
      let type ← typeIn functions types e
      let rest ← typesIn functions types rest
      return type :: rest

end

section

variable {look : String → Except LoadError Xacml.Expr} {types : String → ArgType}

mutual

/-- What an expression is converted to has its type. -/
theorem typeIn_of_convert (hlook : ∀ id d, look id = .ok d → types id = d.argType) :
    ∀ {written : Document.Expr} {e : Xacml.Expr}, convert functions look written = .ok e →
      typeIn functions types written = .ok e.argType
  | value _, _, h | designator _, _, h | selector _, _, h | function _, _, h => by
      simp only [convert, ofExcept_eq_self] at h
      rcases exists_of_map_eq_ok h with ⟨_, hpart, rfl⟩
      simp only [typeIn, hpart]
      rfl
  | variableReference id, _, h => by
      simp only [convert] at h
      rcases exists_of_bind_eq_ok h with ⟨d, hd, h⟩
      cases h
      simp only [typeIn, hlook id d hd, Xacml.Expr.argType]
  | apply functionId args, e, h => by
      simp only [convert, ofExcept_eq_self] at h
      rcases exists_of_bind_eq_ok h with ⟨f, hf, h⟩
      rcases exists_of_bind_eq_ok h with ⟨list, hlist, h⟩
      rcases Xacml.Expr.argType_of_application? (eq_ok_of_mapError h) with ⟨type, htype, he⟩
      simp only [typeIn, hf, typesIn_of_convertAll hlook hlist, he]
      -- What is left is the input check, which the conversion has passed.
      show ((f.checkInputs _).mapError _).map _ = _
      rw [htype]
      rfl

theorem typesIn_of_convertAll (hlook : ∀ id d, look id = .ok d → types id = d.argType) :
    ∀ {written : List Document.Expr} {list : List Xacml.Expr},
      convertAll functions look written = .ok list →
        typesIn functions types written = .ok (list.map Xacml.Expr.argType)
  | [], _, h => by
      cases h
      rfl
  | e :: rest, _, h => by
      simp only [convertAll] at h
      rcases exists_of_bind_eq_ok h with ⟨e', he', h⟩
      rcases exists_of_bind_eq_ok h with ⟨rest', hrest', h⟩
      cases h
      simp only [typesIn, typeIn_of_convert hlook he', typesIn_of_convertAll hlook hrest']
      rfl

end

end

end Document.Expr

/-! ## Loading -/

namespace Loading

variable {α β : Type} {invariant : List VariableDefinition → Prop}

/-- Whether a computation succeeds with a result of some kind while the known variables keep an
invariant. -/
def Provides (invariant : List VariableDefinition → Prop) (holds : α → Prop) (x : Loading α) :
    Prop :=
  ∀ known, invariant known →
    ∃ a known', x.run known = .ok (a, known') ∧ holds a ∧ invariant known'

namespace Provides

variable {holds : α → Prop} {holds' : β → Prop}

theorem pure {a : α} (h : holds a) : Provides invariant holds (pure a) :=
  fun known hknown => ⟨a, known, rfl, h, hknown⟩

theorem ofExcept {x : Except LoadError α} {a : α} (hx : x = .ok a) (h : holds a) :
    Provides invariant holds (ofExcept x) := by
  rw [hx]
  exact .pure h

theorem bind {x : Loading α} {f : α → Loading β} (h : Provides invariant holds x)
    (hf : ∀ a, holds a → Provides invariant holds' (f a)) :
    Provides invariant holds' (x >>= f) := by
  intro known hknown
  rcases h known hknown with ⟨a, known', hx, ha, hknown'⟩
  rcases hf a ha known' hknown' with ⟨b, known'', hrun, hb, hknown''⟩
  exact ⟨b, known'', (run_bind_of_eq hx).trans hrun, hb, hknown''⟩

end Provides

end Loading

namespace Document.Expr

variable {functions : FunctionRegistry} {types : String → ArgType}
variable {resolve : String → Loading Xacml.Expr} {invariant : List Xacml.VariableDefinition → Prop}

mutual

/-- An expression that has a type is loaded as one of this type, if its variables are found as
ones of theirs. -/
theorem load_provides :
    ∀ {written : Document.Expr} {type : ArgType},
      (∀ id ∈ references written,
        (resolve id).Provides invariant fun e => e.argType = types id) →
      typeIn functions types written = .ok type →
        (load functions resolve written).Provides invariant fun e => e.argType = type
  | value _, _, _, h | designator _, _, _, h | selector _, _, _, h | function _, _, _, h => by
      simp only [typeIn] at h
      rcases exists_of_map_eq_ok h with ⟨part, hpart, rfl⟩
      simp only [load, hpart]
      exact .pure rfl
  | variableReference id, _, hresolve, h => by
      cases h
      simp only [load]
      exact (hresolve id (by simp [references])).bind fun _ hd => .pure hd
  | apply functionId args, _, hresolve, h => by
      simp only [typeIn] at h
      rcases exists_of_bind_eq_ok h with ⟨f, hf, h⟩
      rcases exists_of_bind_eq_ok h with ⟨list, hlist, h⟩
      rcases exists_of_map_eq_ok h with ⟨returns, hreturns, rfl⟩
      simp only [references] at hresolve
      have hfound : (Loading.ofExcept (loadFunction functions functionId)).Provides invariant
          fun g => g = f := .ofExcept hf rfl
      simp only [load]
      -- The input check looks at nothing but the types, and these are the ones that were foreseen.
      refine hfound.bind fun g hg => (loadAll_provides hresolve hlist).bind fun args' hargs' => ?_
      rw [hg, Xacml.Expr.application?, hargs', eq_ok_of_mapError hreturns]
      exact .pure rfl

theorem loadAll_provides :
    ∀ {written : List Document.Expr} {list : List ArgType},
      (∀ id ∈ referencesAll written,
        (resolve id).Provides invariant fun e => e.argType = types id) →
      typesIn functions types written = .ok list →
        (loadAll functions resolve written).Provides invariant fun es =>
          es.map Xacml.Expr.argType = list
  | [], _, _, h => by
      cases h
      exact .pure rfl
  | e :: rest, _, hresolve, h => by
      simp only [typesIn] at h
      rcases exists_of_bind_eq_ok h with ⟨type, htype, h⟩
      rcases exists_of_bind_eq_ok h with ⟨more, hmore, h⟩
      cases h
      simp only [referencesAll, List.forall_mem_append] at hresolve
      simp only [loadAll]
      refine (load_provides hresolve.1 htype).bind fun _ he => ?_
      refine (loadAll_provides hresolve.2 hmore).bind fun _ hrest => .pure ?_
      simp only [List.map_cons, he, hrest]

end

end Document.Expr

end Xacml
