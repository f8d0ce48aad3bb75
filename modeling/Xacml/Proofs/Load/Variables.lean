import Mathlib.Data.List.Perm.Basic
import Mathlib.Order.WellFounded
import Xacml.Proofs.Load.References
import Xacml.Proofs.Normal.Policies

/-!
# Which variables can be loaded

Whether the variables of a policy can be loaded depends only on the definitions as a whole, not on
their order: they have to be closed, without cycles and well typed.

* `Scope.Built` are the tables that loading builds up: every variable in them is converted by means
  of those before it, so no definition leads to itself,
* `Scope.Satisfies` and `Scope.Solution` say that variables are what the definitions say of them;
  without cycles there is at most one way to do so,
* `Scope.policyVariables_exact` puts these together.
-/

namespace Xacml

namespace Scope

/-! ## Tables that are built up -/

/-- Tables in which every variable is converted from a definition by means of those before it. -/
inductive Built (scope : Scope) : List VariableDefinition → Prop
  | nil : Built scope []
  | snoc {known : List VariableDefinition} {written : Document.VariableDefinition} {e : Expr}
      (before : Built scope known) (mem : written ∈ scope.definitions)
      (converts : written.expr.convert scope.functions (lookUp known) = .ok e) :
      Built scope (known ++ [⟨written.variableId, e⟩])

section

variable {scope : Scope} {known final : List VariableDefinition} {id : String} {e : Expr}

/-- A variable in a built table is converted by means of the table. -/
theorem Built.exists_convert (h : scope.Built known) (hfound : lookUp known id = .ok e) :
    ∃ written ∈ scope.definitions, written.variableId = id ∧
      written.expr.convert scope.functions (lookUp known) = .ok e := by
  induction h with
  | nil => cases hfound
  | snoc before mem converts ih =>
      rcases eq_of_lookUp_snoc hfound with hbefore | ⟨rfl, rfl⟩
      · rcases ih hbefore with ⟨written, hmem, hname, hconvert⟩
        exact ⟨written, hmem, hname,
          Document.Expr.convert_of_isPrefix (List.prefix_append _ _) hconvert⟩
      · exact ⟨_, mem, rfl, Document.Expr.convert_of_isPrefix (List.prefix_append _ _) converts⟩

/-- References from a variable in a built table lead to those before it, so they end. -/
theorem Built.acc (hnames : scope.names.Nodup) (h : scope.Built known)
    (hfound : lookUp known id = .ok e) : Acc (fun b a => scope.RefersTo a b) id := by
  induction h generalizing id e with
  | nil => cases hfound
  | snoc before mem converts ih =>
      rcases eq_of_lookUp_snoc hfound with hbefore | ⟨rfl, -⟩
      · exact ih hbefore
      · refine Acc.intro _ fun b hb => ?_
        -- Its references were found in the table before it was added.
        rw [refersTo_iff hnames mem] at hb
        rcases Document.Expr.exists_of_convert_eq_ok converts b hb with ⟨d, hd⟩
        exact ih hd

/-- Whether a computation extends a built table to another one, and gives what is found by means of
any table that begins with it. -/
def Builds (scope : Scope) (final : List VariableDefinition) (α : Type) (x : Loading α)
    (y : Except LoadError α) : Prop :=
  ∀ known a known', scope.Built known → x.run known = .ok (a, known') →
    known <+: known' ∧ scope.Built known' ∧ (known' <+: final → y = .ok a)

theorem Builds.throw {α : Type} (error : LoadError) :
    scope.Builds final α (throw error) (throw error) := by
  intro known a known' _ hrun
  cases hrun

theorem builds_simulation (scope : Scope) (final : List VariableDefinition) :
    Simulation (scope.Builds final) := by
  refine ⟨fun {α} a known b known' hbuilt hrun => ?_,
    fun {α β x y f g} hfirst hnext known b known'' hbuilt hrun => ?_⟩
  · cases hrun
    exact ⟨List.prefix_refl _, hbuilt, fun _ => rfl⟩
  · rcases Loading.exists_of_run_bind hrun with ⟨a, known', hx, hrun⟩
    rcases hfirst known a known' hbuilt hx with ⟨hstart, hbuilt', hy⟩
    rcases hnext a known' b known'' hbuilt' hrun with ⟨hstart', hbuilt'', hg⟩
    refine ⟨hstart.trans hstart', hbuilt'', fun hfinal => ?_⟩
    rw [hy (hstart'.trans hfinal)]
    exact hg hfinal

theorem resolveWithin_builds (scope : Scope) (left : Nat) (opened : List String) (id : String)
    (final : List VariableDefinition) :
    scope.Builds final Expr (scope.resolveWithin left opened id) (lookUp final id) := by
  induction left using Nat.strong_induction_on generalizing opened id final with
  | _ left ih =>
      intro known e known' hbuilt hrun
      have hfound := lookUp_eq_ok_iff.2 (find?_of_resolveWithin hrun)
      rcases resolveWithin_cases hrun with
        ⟨loaded, hloaded, rfl, rfl⟩ | ⟨written, more, less, -, -, hwritten, rfl, hload, rfl⟩
      · exact ⟨List.prefix_refl _, hbuilt, fun hfinal => lookUp_mono hfinal hfound⟩
      · rcases mem_of_definition? hwritten with ⟨hmem, hname⟩
        -- The definition is converted by means of the table that is known after its references.
        have hconvert : scope.Builds more Expr
            (written.expr.load scope.functions (scope.resolveWithin less (id :: opened)))
            (written.expr.convert scope.functions (lookUp more)) := by
          rw [Document.Expr.load_eq_convert]
          exact Document.Expr.convert_simulation (scope.builds_simulation more)
            (fun _ => .throw) written.expr fun name _ =>
              ih less (Nat.lt_succ_self less) (id :: opened) name more
        rcases hconvert known e more hbuilt hload with ⟨hstart, hmore, he⟩
        have hbuilt' := hmore.snoc hmem (he (List.prefix_refl _))
        rw [hname] at hbuilt'
        exact ⟨hstart.trans (List.prefix_append _ _), hbuilt',
          fun hfinal => lookUp_mono hfinal hfound⟩

theorem built_of_loadVariables {definitions : List Document.VariableDefinition}
    {known' loaded : List VariableDefinition} (h : scope.Built known)
    (hload : (scope.loadVariables definitions).run known = .ok (loaded, known')) :
    scope.Built known' := by
  induction definitions generalizing known loaded with
  | nil =>
      cases hload
      exact h
  | cons definition rest ih =>
      rcases Loading.exists_of_run_bind hload with ⟨e, between, he, hload⟩
      rcases Loading.exists_of_run_bind hload with ⟨more, known', hmore, hload⟩
      cases hload
      have hbetween := (scope.resolveWithin_builds _ [] _ [] known e between h he).2.1
      exact ih hbetween hmore

end

/-! ## Tables that satisfy the definitions -/

/-- Whether variables are what the definitions say of them, in the order of the definitions. -/
def Satisfies (scope : Scope) (loaded : List VariableDefinition) : Prop :=
  List.Forall₂
    (fun written value => value.id = written.variableId ∧
      written.expr.convert scope.functions (lookUp loaded) = .ok value.expr)
    scope.definitions loaded

/-- Whether names are found as what their definitions are converted to, and other ones are not
found. -/
structure Solution (scope : Scope) (look : String → Except LoadError Expr) : Prop where
  defined : ∀ written ∈ scope.definitions,
    look written.variableId = written.expr.convert scope.functions look
  undefined : ∀ id ∉ scope.names, look id = .error (.undefinedVariable id)

section

variable {scope : Scope} {loaded : List VariableDefinition}

/-- Without cycles the definitions determine all variables: by induction along the references. -/
theorem Solution.unique (hnames : scope.names.Nodup)
    (hends : WellFounded fun b a => scope.RefersTo a b)
    {look look' : String → Except LoadError Expr} (h : scope.Solution look)
    (h' : scope.Solution look') : look = look' := by
  funext id
  induction id using hends.induction with
  | _ id ih =>
      by_cases hid : id ∈ scope.names
      · -- Both convert one definition, by means of the names that it refers to.
        rcases exists_definition? hid with ⟨written, hmem, -, rfl⟩
        rw [h.defined written hmem, h'.defined written hmem]
        refine Document.Expr.convert_congr fun name hname => ih name ?_
        exact (refersTo_iff hnames hmem).2 hname
      · rw [h.undefined id hid, h'.undefined id hid]

theorem Satisfies.ids (h : scope.Satisfies loaded) :
    loaded.map VariableDefinition.id = scope.names := by
  have hids : List.Forall₂ Eq (loaded.map VariableDefinition.id) scope.names := by
    rw [names, List.forall₂_map_left_iff, List.forall₂_map_right_iff]
    exact (List.Forall₂.imp (fun _ _ h => h.1) h).flip
  rwa [List.forall₂_eq_eq_eq] at hids

theorem Satisfies.nodup (hnames : scope.names.Nodup) (h : scope.Satisfies loaded) :
    (loaded.map VariableDefinition.id).Nodup :=
  h.ids ▸ hnames

theorem Satisfies.solution (hnames : scope.names.Nodup) (h : scope.Satisfies loaded) :
    scope.Solution (lookUp loaded) := by
  refine ⟨fun written hmem => ?_, fun id hid => lookUp_of_notMem (h.ids ▸ hid)⟩
  rcases exists_right_of_forall₂ h hmem with ⟨value, hvalue, hid, hconvert⟩
  rw [hconvert, ← hid]
  exact (lookUp_eq_ok_iff_mem (h.nodup hnames)).2 hvalue

/-- In any other order the definitions are satisfied by the same variables. -/
theorem Satisfies.perm (hnames : scope.names.Nodup)
    (hends : WellFounded fun b a => scope.RefersTo a b) (h : scope.Satisfies loaded)
    {definitions : List Document.VariableDefinition} (hperm : definitions.Perm scope.definitions)
    {loaded' : List VariableDefinition}
    (h' : (Scope.mk scope.functions definitions).Satisfies loaded') : loaded'.Perm loaded := by
  have hmem : ∀ id, id ∈ (Scope.mk scope.functions definitions).names ↔ id ∈ scope.names :=
    fun id => (hperm.map Document.VariableDefinition.variableId).mem_iff
  have hnames' := nodup_names_of_perm hnames hperm
  have hsolution' := h'.solution hnames'
  have hlook : lookUp loaded' = lookUp loaded := by
    refine Solution.unique hnames hends ⟨fun written hwritten => ?_, fun id hid => ?_⟩
      (h.solution hnames)
    · exact hsolution'.defined written (hperm.mem_iff.2 hwritten)
    · exact hsolution'.undefined id fun hid' => hid ((hmem id).1 hid')
  have hnodup := h.nodup hnames
  have hnodup' := h'.nodup hnames'
  rw [List.perm_ext_iff_of_nodup (.of_map _ hnodup') (.of_map _ hnodup)]
  intro value
  rw [← lookUp_eq_ok_iff_mem hnodup', ← lookUp_eq_ok_iff_mem hnodup, hlook]

end

/-! ## The variables of a policy -/

/-- A policy that is loaded has the variables that its definitions give. -/
theorem policyVariables_of_load {registry : Registry} {inherited : SchemaVersion}
    {written : Document.Policy} {policy : Policy}
    (h : written.load registry inherited = .ok policy) :
    policyVariables ⟨registry.functions, written.definitions⟩ = .ok policy.definitions := by
  rw [Document.Policy.load] at h
  rcases exists_of_map_eq_ok h with ⟨⟨loaded, final⟩, hrun, rfl⟩
  replace hrun := Document.run_within_eq_ok.1 hrun
  rcases Loading.exists_of_run_ofExcept_bind hrun with ⟨schema, -, hrun⟩
  rcases Loading.exists_of_run_ofExcept_bind hrun with ⟨algorithm, -, hrun⟩
  rcases Loading.exists_of_run_ofExcept_bind hrun with ⟨_, -, hrun⟩
  rcases Loading.exists_of_run_ofExcept_bind hrun with ⟨header, -, hrun⟩
  rcases Loading.exists_of_run_bind hrun with ⟨definitions, known, hload, hrun⟩
  rcases Loading.exists_of_run_ofExcept_bind hrun with ⟨_, -, hrun⟩
  rcases Loading.exists_of_run_bind hrun with ⟨rules, _, -, hrun⟩
  rcases Loading.exists_of_run_bind hrun with ⟨obligations, _, -, hrun⟩
  rcases Loading.exists_of_run_bind hrun with ⟨advice, _, -, hrun⟩
  cases hrun
  rw [policyVariables, StateT.run'_eq, hload]
  rfl

section

variable {scope : Scope} {loaded : List VariableDefinition}

theorem Built.mem_names {known : List VariableDefinition} (h : scope.Built known) :
    ∀ id ∈ known.map VariableDefinition.id, id ∈ scope.names := by
  induction h with
  | nil => exact fun _ hmem => nomatch hmem
  | snoc before mem converts ih =>
      rw [List.map_append, List.forall_mem_append]
      refine ⟨ih, fun id hid => ?_⟩
      rw [List.map_singleton, List.mem_singleton] at hid
      exact hid ▸ List.mem_map_of_mem mem

/-- In the end a built table is known, in which the variables are found. -/
theorem exists_built (hnames : scope.names.Nodup) (h : scope.policyVariables = .ok loaded) :
    ∃ known, scope.Built known ∧ lookUp known = lookUp loaded ∧
      List.Forall₂ (fun written value => value.id = written.variableId ∧
        lookUp loaded value.id = .ok value.expr) scope.definitions loaded := by
  rcases exists_of_map_eq_ok h with ⟨⟨result, known⟩, hrun, rfl⟩
  have hbuilt := built_of_loadVariables .nil hrun
  have hrelated := (forall₂_of_loadVariables hrun (List.prefix_refl known)).imp
    fun _ _ h => And.imp_right lookUp_eq_ok_iff.2 h
  have hids : result.map VariableDefinition.id = scope.names := by
    rw [names, ← names_of_loadVariables hrun, List.map_map]
    rfl
  have hlook : lookUp known = lookUp result := by
    funext id
    by_cases hid : id ∈ result.map VariableDefinition.id
    · rcases List.mem_map.1 hid with ⟨value, hvalue, rfl⟩
      rcases exists_left_of_forall₂ hrelated hvalue with ⟨_, -, -, hknown⟩
      rw [hknown, (lookUp_eq_ok_iff_mem (hids ▸ hnames)).2 hvalue]
    · -- A built table has only names that are defined.
      rw [lookUp_of_notMem hid, lookUp_of_notMem]
      exact fun hmem => hid (hids ▸ hbuilt.mem_names id hmem)
  exact ⟨known, hbuilt, hlook, hlook ▸ hrelated⟩

theorem satisfies_of_policyVariables (hnames : scope.names.Nodup)
    (h : scope.policyVariables = .ok loaded) : scope.Satisfies loaded := by
  rcases exists_built hnames h with ⟨known, hbuilt, hlook, hrelated⟩
  refine ((List.forall₂_and_left _ _).2 ⟨fun _ hmem => hmem, hrelated⟩).imp
    fun written value ⟨hmem, hid, hfound⟩ => ⟨hid, ?_⟩
  -- Names are distinct, so what was converted under this name is this definition.
  rcases hbuilt.exists_convert (hlook ▸ hfound) with ⟨source, hsource, hname, hconvert⟩
  rw [List.inj_on_of_nodup_map hnames hsource hmem (hname.trans hid), hlook] at hconvert
  exact hconvert

/-- References end if the variables can be loaded. -/
theorem wellFounded_of_policyVariables (hnames : scope.names.Nodup)
    (h : scope.policyVariables = .ok loaded) : WellFounded fun b a => scope.RefersTo a b := by
  rcases exists_built hnames h with ⟨known, hbuilt, hlook, hrelated⟩
  refine ⟨fun id => ?_⟩
  by_cases hid : id ∈ scope.names
  · rcases List.mem_map.1 hid with ⟨written, hmem, rfl⟩
    rcases exists_right_of_forall₂ hrelated hmem with ⟨value, -, hid, hfound⟩
    exact hid ▸ hbuilt.acc hnames (hlook ▸ hfound)
  · refine Acc.intro id fun b ⟨written, hmem, hname, _⟩ => ?_
    exact absurd (hname ▸ List.mem_map_of_mem hmem) hid

theorem isResolvable_of_policyVariables (hnames : scope.names.Nodup)
    (h : scope.policyVariables = .ok loaded) : scope.IsResolvable := by
  have hsatisfies := satisfies_of_policyVariables hnames h
  have hsolution := hsatisfies.solution hnames
  have hends := wellFounded_of_policyVariables hnames h
  -- A name that is not found is not referred to, so its type is of no account.
  let types : String → ArgType := fun id =>
    match lookUp loaded id with
    | .ok e => e.argType
    | .error _ => .value .boolean
  have hlook : ∀ id d, lookUp loaded id = .ok d → types id = d.argType := by
    intro id d hd
    simp only [types, hd]
  refine ⟨?_, ?_, types, ?_⟩
  · rintro a b ⟨written, hmem, rfl, hb⟩
    rcases exists_right_of_forall₂ hsatisfies hmem with ⟨value, -, -, hconvert⟩
    rcases Document.Expr.exists_of_convert_eq_ok hconvert b hb with ⟨d, hd⟩
    by_contra hundefined
    rw [hsolution.undefined b hundefined] at hd
    cases hd
  · exact fun id hcycle => hends.transGen.irrefl.irrefl id (Relation.transGen_swap.2 hcycle)
  · intro written hmem
    rcases exists_right_of_forall₂ hsatisfies hmem with ⟨value, -, -, hconvert⟩
    have hfound := (hsolution.defined written hmem).trans hconvert
    rw [Document.Expr.typeIn_of_convert hlook hconvert, hlook _ _ hfound]

/-- The variables of a policy are loaded exactly if they can be resolved, and then as what they are
defined as, whatever the order of the definitions.  With the stack of open names it is the same:
every resolution ends, and in the end the stack is as it was. -/
theorem policyVariables_exact (scope : Scope) (hnames : scope.names.Nodup) :
    ((∃ loaded, scope.policyVariables = .ok loaded) ↔ scope.IsResolvable) ∧
    (∀ loaded, scope.policyVariables = .ok loaded →
      scope.Satisfies loaded ∧ WellFounded fun b a => scope.RefersTo a b) ∧
    (∀ (registry : Registry) (inherited : SchemaVersion) (written : Document.Policy)
        (policy : Policy), Scope.mk registry.functions written.definitions = scope →
      written.load registry inherited = .ok policy →
        scope.policyVariables = .ok policy.definitions) ∧
    (∀ definitions : List Document.VariableDefinition, definitions.Perm scope.definitions →
      ((∃ loaded, (Scope.mk scope.functions definitions).policyVariables = .ok loaded) ↔
        ∃ loaded, scope.policyVariables = .ok loaded) ∧
      ∀ loaded loaded', scope.policyVariables = .ok loaded →
        (Scope.mk scope.functions definitions).policyVariables = .ok loaded' →
          loaded'.Perm loaded) ∧
    ∀ depth, scope.definitions.length < depth →
      (∃ known, (scope.loadVariablesStacked depth scope.definitions).runFrom ⟨[], []⟩ =
        some (scope.policyVariables, ⟨known, []⟩)) ∧
      ∀ id state, ∃ result known, (scope.resolveStacked depth id).runFrom state =
        some (result, ⟨known, state.opened⟩) := by
  have hexact : ∀ {definitions : List Document.VariableDefinition},
      definitions.Perm scope.definitions →
        ((∃ loaded, (Scope.mk scope.functions definitions).policyVariables = .ok loaded) ↔
          scope.IsResolvable) := by
    intro definitions hperm
    constructor
    · rintro ⟨loaded, hloaded⟩
      have hnames' := nodup_names_of_perm hnames hperm
      exact (isResolvable_of_policyVariables hnames' hloaded).of_mem_iff fun _ =>
        hperm.mem_iff.symm
    · exact fun h => (h.of_mem_iff fun _ => hperm.mem_iff).exists_policyVariables
  refine ⟨hexact (.refl _), fun loaded hloaded => ?_, fun registry inherited written policy h => ?_,
    fun definitions hperm => ⟨?_, ?_⟩, fun depth hdepth => ⟨?_, fun id state => ?_⟩⟩
  · exact ⟨satisfies_of_policyVariables hnames hloaded,
      wellFounded_of_policyVariables hnames hloaded⟩
  · exact fun hload => h ▸ policyVariables_of_load hload
  · exact (hexact hperm).trans (hexact (.refl _)).symm
  · intro loaded loaded' hloaded hloaded'
    have hnames' := nodup_names_of_perm hnames hperm
    exact (satisfies_of_policyVariables hnames hloaded).perm hnames
      (wellFounded_of_policyVariables hnames hloaded) hperm
      (satisfies_of_policyVariables hnames' hloaded')
  · exact (loadVariablesStacked_follows hdepth scope.definitions []).exists_eq
  · exact ⟨_, (resolveStacked_follows (scope.unopened_le state.opened) hdepth id
      state.known).exists_eq⟩

end

namespace TwoVariables

/-- Two definitions, the first of which refers to the second one. -/
def backwards (second : Document.Expr) : Scope :=
  ⟨⟨[]⟩, [⟨"b", .variableReference "a"⟩, ⟨"a", second⟩]⟩

/-- A scope in which the second variable is a literal. -/
def literal : Scope :=
  backwards (.value ⟨"http://www.w3.org/2001/XMLSchema#boolean", "true", none⟩)

/-- A scope in which the second variable refers to the first one again. -/
def cyclic : Scope :=
  backwards (.variableReference "b")

/-- The second variable of the first scope. -/
def a : VariableDefinition :=
  ⟨"a", .value (.boolean true)⟩

/-- The first variable of the first scope. -/
def b : VariableDefinition :=
  ⟨"b", .reference "a" a.expr⟩

theorem policyVariables_literal : literal.policyVariables = .ok [b, a] := by
  have hopened : "a" ∉ ["b"] := by decide
  have ha : (literal.resolveWithin 1 ["b"] "a").run [] = .ok (a.expr, [] ++ [⟨"a", a.expr⟩]) :=
    resolveWithin_of_load rfl hopened rfl rfl
  have hb : (literal.resolveWithin 2 [] "b").run [] = .ok (b.expr, [a] ++ [⟨"b", b.expr⟩]) :=
    resolveWithin_of_load rfl List.not_mem_nil rfl (Loading.run_bind_of_eq ha)
  have hknown : (literal.resolveWithin 2 [] "a").run [a, b] = .ok (a.expr, [a, b]) :=
    resolveWithin_of_known rfl
  have hrest : (literal.loadVariables literal.definitions.tail).run [a, b] = .ok ([a], [a, b]) :=
    Loading.run_bind_of_eq hknown
  have hall : (literal.loadVariables literal.definitions).run [] = .ok ([b, a], [a, b]) :=
    (Loading.run_bind_of_eq hb).trans (Loading.run_bind_of_eq hrest)
  rw [policyVariables, StateT.run'_eq, hall]
  rfl

/-- A variable may be defined before those that it refers to, but not in terms of itself. -/
theorem policyVariables_exact_backwards :
    (literal.names.Nodup ∧ literal.IsResolvable ∧ literal.Satisfies [b, a] ∧
        ∃ known, (literal.loadVariablesStacked 3 literal.definitions).runFrom ⟨[], []⟩ =
          some (.ok [b, a], ⟨known, []⟩)) ∧
      cyclic.names.Nodup ∧ ¬ ∃ result, cyclic.policyVariables = .ok result := by
  have hnames : literal.names.Nodup := by decide
  have hnames' : cyclic.names.Nodup := by decide
  have hrefers : cyclic.RefersTo "b" "a" := ⟨_, .head _, rfl, .head _⟩
  have hrefers' : cyclic.RefersTo "a" "b" := ⟨_, .tail _ (.head _), rfl, .head _⟩
  rcases policyVariables_exact literal hnames with ⟨hexact, hsatisfies, -, -, hstack⟩
  rcases policyVariables_exact cyclic hnames' with ⟨hexact', -⟩
  have hstacked := (hstack 3 (by decide)).1
  rw [policyVariables_literal] at hstacked
  refine ⟨⟨hnames, hexact.1 ⟨_, policyVariables_literal⟩,
    (hsatisfies _ policyVariables_literal).1, hstacked⟩, hnames', fun hloads => ?_⟩
  exact (hexact'.1 hloads).acyclic "b" (.tail (.single hrefers) hrefers')

end TwoVariables

end Scope

end Xacml
