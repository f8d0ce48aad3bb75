import Xacml.Load.Policy
import Xacml.Normal.Policy
import Xacml.Proofs.Normal.Expressions

/-!
# Loading written policies

A loaded policy comes back from its written form in a normal form of its own: targets that hold for
every request are gone, and the parameters about a child are those of all children that have its
identifier, because a document tells children apart by their identifiers only.

* `parametersUnder` gathers the parameters of the children with an identifier,
* `Rule.normal` and `Policy.normal` are what rules and policies come back as,
* `Document.Policy.load_written` shows this.
-/

namespace Xacml

/-! ## Normal forms -/

/-- The parameters about all children with an identifier. -/
def parametersUnder {α : Type} (id : α → String) (children : List (Child α)) (name : String) :
    List CombinerParameter :=
  (children.filter fun child => id child.element = name).flatMap Child.parameters

theorem parametersUnder_cons {α : Type} (id : α → String) (child : Child α)
    (rest : List (Child α)) (name : String) :
    parametersUnder id (child :: rest) name =
      if id child.element = name then child.parameters ++ parametersUnder id rest name
      else parametersUnder id rest name := by
  by_cases h : id child.element = name <;> simp [parametersUnder, h]

/-- What a rule comes back as. -/
def Rule.normal (rule : Rule) : Rule :=
  { rule with target := rule.target.filter fun target => !target.matchesAny }

/-- What a header comes back as. -/
def PolicyHeader.normal (header : PolicyHeader) : PolicyHeader :=
  { header with target := header.target.normal }

/-- What a policy comes back as. -/
def Policy.normal (p : Policy) : Policy where
  header := p.header.normal
  definitions := p.definitions
  rules := p.rules.map fun child =>
    ⟨child.element.normal, parametersUnder Rule.id p.rules child.element.id⟩

/-! ## Parameters -/

/-- Whether the value of a parameter is loaded from its canonical form. -/
def CombinerParameter.ReadsBack (parameter : CombinerParameter) : Prop :=
  loadValue (.ofValue parameter.value) = .ok parameter.value

namespace Document

theorem loadParameters_written {parameters : List Xacml.CombinerParameter}
    (h : ∀ parameter ∈ parameters, parameter.ReadsBack) :
    loadParameters (parameters.map Xacml.CombinerParameter.written) = .ok parameters := by
  refine mapM_map_of_forall_eq fun parameter hmem => ?_
  have hvalue := h parameter hmem
  rw [Xacml.CombinerParameter.ReadsBack] at hvalue
  simp only [Xacml.CombinerParameter.written, hvalue]
  rfl

theorem readsBack_of_loadParameters {list : List CombinerParameter}
    {parameters : List Xacml.CombinerParameter}
    (hprints : ∀ typed ∈ list.map CombinerParameter.value, typed.PrintsBack)
    (h : loadParameters list = .ok parameters) :
    ∀ parameter ∈ parameters, parameter.ReadsBack := by
  intro parameter hmem
  rcases exists_of_mem_mapM h hmem with ⟨written, hwritten, hload⟩
  rcases exists_of_bind_eq_ok hload with ⟨value, hvalue, hload⟩
  cases hload
  exact loadValue_ofValue (hprints _ (List.mem_map_of_mem hwritten)) hvalue

theorem readsBack_of_parametersFor {entries : List ChildParameters} {name : String}
    {parameters : List Xacml.CombinerParameter}
    (hprints : ∀ typed ∈ entries.flatMap ChildParameters.literals, typed.PrintsBack)
    (h : parametersFor entries name = .ok parameters) :
    ∀ parameter ∈ parameters, parameter.ReadsBack := by
  rw [parametersFor] at h
  rcases exists_of_bind_eq_ok h with ⟨lists, hlists, h⟩
  cases h
  intro parameter hmem
  rcases List.mem_flatten.1 hmem with ⟨list, hlist, hmem⟩
  rcases exists_of_mem_mapM hlists hlist with ⟨entry, hentry, hload⟩
  have hprints := List.forall_mem_flatMap.1 hprints entry (List.mem_of_mem_filter hentry)
  exact readsBack_of_loadParameters hprints hload parameter hmem

theorem parametersFor_cons_of_eq {entry : ChildParameters} {entries : List ChildParameters}
    {name : String} (h : entry.id = name) {own rest : List Xacml.CombinerParameter}
    (hown : loadParameters entry.parameters = .ok own)
    (hrest : parametersFor entries name = .ok rest) :
    parametersFor (entry :: entries) name = .ok (own ++ rest) := by
  rw [parametersFor] at hrest
  rcases exists_of_bind_eq_ok hrest with ⟨lists, hlists, hrest⟩
  cases hrest
  rw [parametersFor, List.filter_cons_of_pos (by simpa using h), List.mapM_cons, hown, hlists]
  rfl

theorem parametersFor_cons_of_ne {entry : ChildParameters} {entries : List ChildParameters}
    {name : String} (h : entry.id ≠ name) :
    parametersFor (entry :: entries) name = parametersFor entries name := by
  rw [parametersFor, parametersFor, List.filter_cons_of_neg (by simpa using h)]

section

variable {α : Type} (id : α → String) {children : List (Child α)}

/-- The entries that are written for children give each one the parameters under its identifier. -/
theorem parametersFor_written
    (h : ∀ child ∈ children, ∀ parameter ∈ child.parameters, parameter.ReadsBack) (name : String) :
    parametersFor (children.filterMap (Child.writtenParameters? id)) name =
      .ok (parametersUnder id children name) := by
  induction children with
  | nil => rfl
  | cons child rest ih =>
      have hrest := ih fun child hmem => h child (List.mem_cons_of_mem _ hmem)
      have hchild := loadParameters_written (h child List.mem_cons_self)
      by_cases hempty : child.parameters = []
      · -- Nothing is written for this child, and it contributes nothing.
        have hnone : child.writtenParameters? id = none := by
          simp [Child.writtenParameters?, hempty]
        rw [List.filterMap_cons_none hnone, hrest, parametersUnder_cons, hempty]
        simp
      · have hsome : child.writtenParameters? id =
            some ⟨id child.element, child.parameters.map Xacml.CombinerParameter.written⟩ := by
          simp [Child.writtenParameters?, hempty]
        rw [List.filterMap_cons_some hsome, parametersUnder_cons]
        split
        case isTrue hname => exact parametersFor_cons_of_eq hname hchild hrest
        case isFalse hname =>
          rw [parametersFor_cons_of_ne hname]
          exact hrest

theorem checkChildren_written (ids : List String)
    (h : ∀ child ∈ children, id child.element ∈ ids) :
    checkChildren (children.filterMap (Child.writtenParameters? id)) ids = .ok () := by
  have hnone : (children.filterMap (Child.writtenParameters? id)).find?
      (fun entry => !ids.contains entry.id) = none := by
    rw [List.find?_eq_none]
    intro entry hmem
    rcases List.mem_filterMap.1 hmem with ⟨child, hchild, hentry⟩
    unfold Child.writtenParameters? at hentry
    split at hentry
    · cases hentry
    · cases hentry
      simpa using h child hchild
  rw [checkChildren, hnone]

end

/-! ## Obligations and conditions -/

section

variable {scope again : Scope}

theorem loadAssignments_repeats (h : scope.IsRewrittenAs again) (list : List Assignment)
    (hprints : ∀ typed ∈ list.flatMap Assignment.literals, typed.PrintsBack) :
    (loadAssignments scope list).Repeats scope again fun loaded =>
      loadAssignments again (loaded.map AssignmentExpr.written) := by
  induction list with
  | nil => exact .pure rfl
  | cons a rest ih =>
      rw [List.flatMap_cons, List.forall_mem_append] at hprints
      exact (Scope.loadExpr_repeats h hprints.1).seq (ih hprints.2) fun _ _ => rfl

theorem loadObligations_repeats (h : scope.IsRewrittenAs again) (list : List Obligation)
    (hprints : ∀ typed ∈ list.flatMap Obligation.literals, typed.PrintsBack) :
    (loadObligations scope list).Repeats scope again fun loaded =>
      loadObligations again (loaded.map ObligationExpr.written) := by
  induction list with
  | nil => exact .pure rfl
  | cons o rest ih =>
      rw [List.flatMap_cons, List.forall_mem_append] at hprints
      exact (loadAssignments_repeats h _ hprints.1).seq (ih hprints.2) fun _ _ => rfl

theorem loadCondition?_repeats (h : scope.IsRewrittenAs again) (ruleId : String)
    (written : Option Expr)
    (hprints : ∀ typed ∈ written.toList.flatMap Expr.literals, typed.PrintsBack) :
    (loadCondition? scope ruleId written).Repeats scope again fun condition =>
      loadCondition? again ruleId (condition.map Xacml.Expr.written) := by
  cases written with
  | none => exact .pure rfl
  | some written =>
      intro known condition known' hrun
      rcases Loading.exists_of_run_bind hrun with ⟨e, between, he, hrun⟩
      split at hrun
      case isTrue htype =>
        cases hrun
        rcases Scope.loadExpr_repeats h (by simpa using hprints) _ _ _ he with ⟨hstart, hback⟩
        refine ⟨hstart, fun hknown => ?_⟩
        dsimp only [Option.map_some, loadCondition?]
        rw [Loading.run_bind_of_eq (hback hknown), if_pos htype]
        rfl
      case isFalse => cases hrun

end

/-! ## Rules -/

theorem run_within_eq_ok {α : Type} {id : String} {x : Loading α} {a : α}
    {known known' : List Xacml.VariableDefinition} :
    (within id x).run known = .ok (a, known') ↔ x.run known = .ok (a, known') := by
  constructor
  · exact fun h => eq_ok_of_mapError h
  · intro h
    change (x.run known).mapError _ = _
    rw [h]
    rfl

section

variable {scope again : Scope}

theorem Rule.load_written (h : scope.IsRewrittenAs again) {schema : SchemaVersion}
    {written : Rule} (hprints : ∀ typed ∈ written.literals, typed.PrintsBack)
    {known known' : List Xacml.VariableDefinition} {rule : Xacml.Rule}
    (hrun : (written.load scope schema).run known = .ok (rule, known')) :
    known <+: known' ∧
      (again.Rewrites scope known' →
        (rule.written.load again schema).run known = .ok (rule.normal, known')) := by
  simp only [literals, List.forall_mem_append] at hprints
  rcases hprints with ⟨⟨⟨htarget, hcondition⟩, hobligations⟩, hadvice⟩
  rw [load, run_within_eq_ok] at hrun
  rcases Loading.exists_of_run_bind hrun with ⟨obligations, k₁, hload₁, hrun⟩
  rcases Loading.exists_of_run_bind hrun with ⟨advice, k₂, hload₂, hrun⟩
  rcases Loading.exists_of_run_ofExcept_bind hrun with ⟨target, hload₃, hrun⟩
  rcases Loading.exists_of_run_bind hrun with ⟨condition, k₃, hload₄, hrun⟩
  cases hrun
  rcases loadObligations_repeats h _ hobligations _ _ _ hload₁ with ⟨hstart₁, hback₁⟩
  rcases loadObligations_repeats h _ hadvice _ _ _ hload₂ with ⟨hstart₂, hback₂⟩
  rcases loadCondition?_repeats h _ _ hcondition _ _ _ hload₄ with ⟨hstart₃, hback₃⟩
  -- Each part is loaded again knowing the variables that were known when it was loaded.
  refine ⟨hstart₁.trans (hstart₂.trans hstart₃), fun hknown => ?_⟩
  have hback := loadTarget?_written htarget hload₃
  rw [← h.functions] at hback
  rw [load, run_within_eq_ok, Xacml.Rule.written]
  dsimp only
  rw [Loading.run_bind_of_eq (hback₁ (hknown.of_isPrefix (hstart₂.trans hstart₃))),
    Loading.run_bind_of_eq (hback₂ (hknown.of_isPrefix hstart₃)),
    Loading.run_ofExcept_bind_of_eq hback, Loading.run_bind_of_eq (hback₃ hknown)]
  rfl

/-- The rules of a policy come back with the parameters under their identifiers. -/
theorem loadRules_written (h : scope.IsRewrittenAs again) {schema : SchemaVersion}
    {entries entries' : List ChildParameters} {parameters : String → List Xacml.CombinerParameter}
    (hentries : ∀ name, parametersFor entries' name = .ok (parameters name)) {rules : List Rule}
    (hprints : ∀ typed ∈ rules.flatMap Rule.literals, typed.PrintsBack)
    {known known' : List Xacml.VariableDefinition} {children : List (Child Xacml.Rule)}
    (hrun : (loadRules scope schema entries rules).run known = .ok (children, known')) :
    known <+: known' ∧
      (again.Rewrites scope known' →
        (loadRules again schema entries' (children.map fun child => child.element.written)).run
            known =
          .ok (children.map fun child => ⟨child.element.normal, parameters child.element.id⟩,
            known')) := by
  induction rules generalizing known children with
  | nil =>
      cases hrun
      exact ⟨List.prefix_refl _, fun _ => rfl⟩
  | cons written rest ih =>
      rw [List.flatMap_cons, List.forall_mem_append] at hprints
      rw [loadRules] at hrun
      -- The entries are those of the whole policy, only the rules become fewer.
      rcases Loading.exists_of_run_bind hrun with ⟨rule, between, hrule, hrun⟩
      rcases Loading.exists_of_run_ofExcept_bind hrun with ⟨own, -, hrun⟩
      rcases Loading.exists_of_run_bind hrun with ⟨more, known', hmore, hrun⟩
      cases hrun
      rcases Rule.load_written h hprints.1 hrule with ⟨hstart, hback⟩
      rcases ih hprints.2 hmore with ⟨hstart', hback'⟩
      refine ⟨hstart.trans hstart', fun hknown => ?_⟩
      rw [List.map_cons, loadRules]
      dsimp only
      rw [Loading.run_bind_of_eq (hback (hknown.of_isPrefix hstart')),
        Loading.run_ofExcept_bind_of_eq (hentries _), Loading.run_bind_of_eq (hback' hknown)]
      rfl

/-- Every parameter about a loaded rule reads back. -/
theorem readsBack_of_loadRules {schema : SchemaVersion} {entries : List ChildParameters}
    (hprints : ∀ typed ∈ entries.flatMap ChildParameters.literals, typed.PrintsBack)
    {rules : List Rule} {known known' : List Xacml.VariableDefinition}
    {children : List (Child Xacml.Rule)}
    (hrun : (loadRules scope schema entries rules).run known = .ok (children, known')) :
    ∀ child ∈ children, ∀ parameter ∈ child.parameters, parameter.ReadsBack := by
  induction rules generalizing known children with
  | nil =>
      cases hrun
      exact fun _ hmem => nomatch hmem
  | cons written rest ih =>
      rw [loadRules] at hrun
      rcases Loading.exists_of_run_bind hrun with ⟨rule, between, hrule, hrun⟩
      rcases Loading.exists_of_run_ofExcept_bind hrun with ⟨own, hown, hrun⟩
      rcases Loading.exists_of_run_bind hrun with ⟨more, known', hmore, hrun⟩
      cases hrun
      exact List.forall_mem_cons.2 ⟨readsBack_of_parametersFor hprints hown, ih hmore⟩

end

/-! ## Headers and policies -/

theorem Header.load_written {functions : FunctionRegistry} {schema : SchemaVersion}
    {algorithm : Algorithm} {written : Header}
    (hprints : ∀ typed ∈ written.literals, typed.PrintsBack) {header : PolicyHeader}
    (h : written.load functions schema algorithm = .ok header)
    (obligations advice : List ObligationExpr) (entries : List ChildParameters) :
    header.schema = schema ∧ header.algorithm = algorithm ∧
      ({ header with obligations, advice }.written entries).load functions schema algorithm =
        .ok header.normal := by
  simp only [literals, List.forall_mem_append] at hprints
  rcases hprints with ⟨⟨⟨⟨htarget, hparameters⟩, -⟩, -⟩, -⟩
  rw [load] at h
  rcases exists_of_bind_eq_ok h with ⟨parameters, hload₁, h⟩
  rcases exists_of_bind_eq_ok h with ⟨version, hload₂, h⟩
  rcases exists_of_bind_eq_ok h with ⟨target, hload₃, h⟩
  cases h
  refine ⟨rfl, rfl, ?_⟩
  have hback₁ := loadParameters_written (readsBack_of_loadParameters hparameters hload₁)
  have hback₃ := loadTarget?_written htarget hload₃
  rw [load, PolicyHeader.written]
  simp only [hback₁, loadVersion_write hload₂, Target.written?_getD, hback₃]
  change Except.ok _ = _
  rw [PolicyHeader.normal, ← Target.getD_filter]

/-- A policy comes back from its written form, whatever edition it would inherit. -/
theorem Policy.load_written {registry : Registry} {inherited : SchemaVersion} {written : Policy}
    (hprints : ∀ typed ∈ written.literals, typed.PrintsBack) {p : Xacml.Policy}
    (h : written.load registry inherited = .ok p) (inherited' : SchemaVersion) :
    p.written.load registry inherited' = .ok p.normal := by
  simp only [literals, List.forall_mem_append] at hprints
  rcases hprints with ⟨⟨hheader, hdefinitions⟩, hrules⟩
  have hparts := hheader
  simp only [Header.literals, List.forall_mem_append] at hparts
  rcases hparts with ⟨⟨⟨-, hentries⟩, hobligations⟩, hadvice⟩
  rw [load] at h
  rcases exists_of_map_eq_ok h with ⟨⟨loaded, final⟩, hrun, rfl⟩
  replace hrun := run_within_eq_ok.1 hrun
  rcases Loading.exists_of_run_ofExcept_bind hrun with ⟨schema, hschema, hrun⟩
  rcases Loading.exists_of_run_ofExcept_bind hrun with ⟨algorithm, halgorithm, hrun⟩
  rcases Loading.exists_of_run_ofExcept_bind hrun with ⟨_, hcheck, hrun⟩
  rcases Loading.exists_of_run_ofExcept_bind hrun with ⟨header, hload, hrun⟩
  rcases Loading.exists_of_run_bind hrun with ⟨definitions, k₁, hload₁, hrun⟩
  rcases Loading.exists_of_run_ofExcept_bind hrun with ⟨_, -, hrun⟩
  rcases Loading.exists_of_run_bind hrun with ⟨rules, k₂, hload₂, hrun⟩
  rcases Loading.exists_of_run_bind hrun with ⟨obligations, k₃, hload₃, hrun⟩
  rcases Loading.exists_of_run_bind hrun with ⟨advice, k₄, hload₄, hrun⟩
  cases hrun
  rcases Header.load_written hheader hload obligations advice
    (rules.filterMap (Child.writtenParameters? Xacml.Rule.id)) with ⟨rfl, rfl, hback⟩
  -- The scope of the written variables has the names of the original one in the same order.
  have hnames := Scope.names_of_loadVariables hload₁
  have hscope : Scope.IsRewrittenAs ⟨registry.functions, written.definitions⟩
      ⟨registry.functions, definitions.map VariableDefinition.written⟩ :=
    ⟨rfl, by simpa using congrArg List.length hnames,
      fun definition hmem => List.forall_mem_flatMap.1 hdefinitions definition hmem⟩
  have hreads := readsBack_of_loadRules hentries hload₂
  rcases Scope.loadVariables_repeats hscope _ _ _ _ hload₁ with ⟨hstart₁, hback₁⟩
  rcases loadRules_written hscope (parametersFor_written Xacml.Rule.id hreads) hrules hload₂ with
    ⟨hstart₂, hback₂⟩
  rcases loadObligations_repeats hscope _ hobligations _ _ _ hload₃ with ⟨hstart₃, hback₃⟩
  rcases loadObligations_repeats hscope _ hadvice _ _ _ hload₄ with ⟨hstart₄, hback₄⟩
  have hchildren :
      checkChildren (rules.filterMap (Child.writtenParameters? Xacml.Rule.id))
        ((rules.map fun child => child.element.written).map Rule.ruleId) = .ok () := by
    rw [List.map_map]
    exact checkChildren_written Xacml.Rule.id _ fun child hmem => List.mem_map_of_mem hmem
  -- The variables that are known in the end are those that the written definitions define; what is
  -- known at an earlier part is the start of that.
  have hknown : Scope.Rewrites ⟨registry.functions, definitions.map VariableDefinition.written⟩
      ⟨registry.functions, written.definitions⟩ final :=
    Scope.rewrites_of_loadVariables hload₁ (hstart₂.trans (hstart₃.trans hstart₄))
  have hchecked : checkVariables (definitions.map VariableDefinition.written) = .ok () := by
    rw [checkVariables, Scope.duplicate?_congr hnames]
    exact hcheck
  -- The written policy is loaded part by part, in the order of the original.
  rw [load, Xacml.Policy.written]
  refine congrArg (Except.map Prod.fst) (run_within_eq_ok.2 ?_ : _ = Except.ok (_, final))
  refine (Loading.run_ofExcept_bind_of_eq (loadSchema_text inherited' header.schema)).trans ?_
  refine (Loading.run_ofExcept_bind_of_eq (loadAlgorithm_id halgorithm)).trans ?_
  refine (Loading.run_ofExcept_bind_of_eq hchecked).trans ?_
  refine (Loading.run_ofExcept_bind_of_eq hback).trans ?_
  refine (Loading.run_bind_of_eq (hback₁ ?_)).trans ?_
  · exact hknown.of_isPrefix (hstart₂.trans (hstart₃.trans hstart₄))
  refine (Loading.run_ofExcept_bind_of_eq hchildren).trans ?_
  refine (Loading.run_bind_of_eq (hback₂ ?_)).trans ?_
  · exact hknown.of_isPrefix (hstart₃.trans hstart₄)
  refine (Loading.run_bind_of_eq (hback₃ (hknown.of_isPrefix hstart₄))).trans ?_
  exact Loading.run_bind_of_eq (hback₄ hknown)

end Document
end Xacml
