import Xacml.Document.Rule
import Xacml.Proofs.Json.Record

/-!
# Reading back the parts of written policies

Every part of a written policy that is written as JSON is read back as it was.

* `Document.Expr.reads_within`: an expression is read back within the height of what is written,
* `Document.Match.reads`: a match is read back with the lookup that stands beside its fields,
* the other theorems take one record each, field by field.
-/

namespace Xacml

open Json (Reads FieldReads listed flagged)

theorem TypedValue.toJson_eq_record (typed : TypedValue) :
    typed.toJson = Json.record
      [ ("dataType", some (.string typed.dataType))
      , ("value", some (.string typed.value))
      , ("xpathCategory", typed.category.map .string) ] := by
  simp [toJson, fields, Json.record]

theorem TypedValue.reads (typed : TypedValue) :
    Reads TypedValue.ofJson? typed.toJson typed := by
  have hdataType := (Reads.string typed.dataType).required
  have hvalue := (Reads.string typed.value).required
  have hcategory := FieldReads.text typed.category
  rw [toJson_eq_record]
  refine Reads.record rfl (by decide) ?_ ?_
  · simp [hdataType.read_eq, hvalue.read_eq, hcategory.read_eq]
  · exact hdataType.numberFree_cons _ <| hvalue.numberFree_cons _ <|
      hcategory.numberFree_cons _ .nil

namespace Document

theorem Designator.reads (d : Designator) : Reads ofJson? d.toJson d := by
  have hjson : d.toJson = Json.record
      [ ("category", some (.string d.category))
      , ("attributeId", some (.string d.attributeId))
      , ("dataType", some (.string d.dataType))
      , ("issuer", d.issuer.map .string)
      , ("mustBePresent", flagged d.mustBePresent) ] := by
    simp [toJson, Json.record]
  have hcategory := (Reads.string d.category).required
  have hattributeId := (Reads.string d.attributeId).required
  have hdataType := (Reads.string d.dataType).required
  have hissuer := FieldReads.text d.issuer
  have hmustBePresent := FieldReads.flag d.mustBePresent
  rw [hjson]
  refine Reads.record rfl (by decide) ?_ ?_
  · simp [hcategory.read_eq, hattributeId.read_eq, hdataType.read_eq, hissuer.read_eq,
      hmustBePresent.read_eq]
  · exact hcategory.numberFree_cons _ <| hattributeId.numberFree_cons _ <|
      hdataType.numberFree_cons _ <| hissuer.numberFree_cons _ <|
      hmustBePresent.numberFree_cons _ .nil

theorem Selector.reads (s : Selector) : Reads ofJson? s.toJson s := by
  have hjson : s.toJson = Json.record
      [ ("category", some (.string s.category))
      , ("dataType", some (.string s.dataType))
      , ("path", some (.string s.path))
      , ("contextSelectorId", s.contextSelectorId.map .string)
      , ("mustBePresent", flagged s.mustBePresent)
      , ("xpathVersion", s.xpathVersion.map .string) ] := by
    simp [toJson, Json.record]
  have hcategory := (Reads.string s.category).required
  have hdataType := (Reads.string s.dataType).required
  have hpath := (Reads.string s.path).required
  have hcontextSelectorId := FieldReads.text s.contextSelectorId
  have hmustBePresent := FieldReads.flag s.mustBePresent
  have hxpathVersion := FieldReads.text s.xpathVersion
  rw [hjson]
  refine Reads.record rfl (by decide) ?_ ?_
  · simp [hcategory.read_eq, hdataType.read_eq, hpath.read_eq, hcontextSelectorId.read_eq,
      hmustBePresent.read_eq, hxpathVersion.read_eq]
  · exact hcategory.numberFree_cons _ <| hdataType.numberFree_cons _ <|
      hpath.numberFree_cons _ <| hcontextSelectorId.numberFree_cons _ <|
      hmustBePresent.numberFree_cons _ <| hxpathVersion.numberFree_cons _ .nil

/-! ## Expressions -/

namespace Expr

theorem toJsonAll_eq_map (args : List Expr) : toJsonAll args = args.map toJson := by
  induction args with
  | nil => rfl
  | cons e args ih => rw [toJsonAll, ih, List.map_cons]

/-- An application is read back if its arguments are. -/
theorem reads_apply {functionId : String} {args : List Expr} {depth : Nat}
    (h : ∀ e ∈ args, Reads (ofJsonWithin? depth) e.toJson e) :
    Reads (ofJsonWithin? (depth + 1)) (apply functionId args).toJson (apply functionId args) := by
  let fields : List (String × Option Json) :=
    [("functionId", some (.string functionId)), ("arguments", some (.array (args.map toJson)))]
  have hjson : (apply functionId args).toJson = .object [("apply", Json.record fields)] := by
    rw [toJson, toJsonAll_eq_map]
    rfl
  have hid := (Reads.string functionId).required
  have hargs := (Reads.array h).withDefault []
  have hfields : Json.fields? ["functionId", "arguments"] .isClosed (Json.record fields) =
      some [some (.string functionId), some (.array (args.map toJson))] :=
    Json.fields?_record rfl (by decide)
  rw [hjson]
  constructor
  · simp [ofJsonWithin?, Json.choice?, hfields, hid.read_eq, hargs.read_eq]
  · rw [Json.isNumberFree_case]
    exact Json.membersNumberFree_present <| hid.numberFree_cons _ <|
      hargs.numberFree_cons _ .nil

mutual

/-- An expression is read back within its height. -/
theorem reads_within : ∀ (e : Expr) (depth : Nat), e.toJson.height ≤ depth →
    Reads (ofJsonWithin? depth) e.toJson e
  | value v, depth + 1, _ => by
      have hvalue := TypedValue.reads v
      refine ⟨?_, (Json.isNumberFree_case _ _).trans hvalue.isNumberFree⟩
      simp [toJson, ofJsonWithin?, Json.choice?, hvalue.read_eq]
  | designator d, depth + 1, _ => by
      have hdesignator := Designator.reads d
      refine ⟨?_, (Json.isNumberFree_case _ _).trans hdesignator.isNumberFree⟩
      simp [toJson, ofJsonWithin?, Json.choice?, hdesignator.read_eq]
  | selector s, depth + 1, _ => by
      have hselector := Selector.reads s
      refine ⟨?_, (Json.isNumberFree_case _ _).trans hselector.isNumberFree⟩
      simp [toJson, ofJsonWithin?, Json.choice?, hselector.read_eq]
  | apply functionId args, depth + 1, h => by
      refine reads_apply (reads_all_within args depth ?_)
      simp only [toJson, Json.height, Json.membersHeight] at h
      omega
  | function id, depth + 1, _ => ⟨rfl, rfl⟩
  | variableReference id, depth + 1, _ => ⟨rfl, rfl⟩

theorem reads_all_within : ∀ (args : List Expr) (depth : Nat),
    Json.itemsHeight (toJsonAll args) ≤ depth →
    ∀ e ∈ args, Reads (ofJsonWithin? depth) e.toJson e
  | [], _, _ => nofun
  | e :: args, depth, h => by
      obtain ⟨hheight, hrest⟩ := Nat.max_le.1 h
      exact List.forall_mem_cons.2 ⟨reads_within e depth hheight, reads_all_within args depth hrest⟩

end

theorem reads (e : Expr) : Reads ofJson? e.toJson e :=
  have h := reads_within e e.toJson.height le_rfl
  ⟨h.read_eq, h.isNumberFree⟩

end Expr

theorem VariableDefinition.reads (definition : VariableDefinition) :
    Reads ofJson? definition.toJson definition := by
  have hjson : definition.toJson = Json.record
      [ ("variableId", some (.string definition.variableId))
      , ("expr", some definition.expr.toJson) ] :=
    rfl
  have hvariableId := (Reads.string definition.variableId).required
  have hexpr := (Expr.reads definition.expr).required
  rw [hjson]
  refine Reads.record rfl (by decide) ?_ ?_
  · simp [hvariableId.read_eq, hexpr.read_eq]
  · exact hvariableId.numberFree_cons _ <| hexpr.numberFree_cons _ .nil

/-! ## Targets -/

theorem Lookup.ofMembers?_member (lookup : Lookup) :
    ofMembers? [lookup.member] = some lookup := by
  cases lookup with
  | designator d => exact congrArg (Option.map designator) (Designator.reads d).read_eq
  | selector s => exact congrArg (Option.map selector) (Selector.reads s).read_eq

theorem Lookup.isNumberFree_member (lookup : Lookup) :
    lookup.member.2.isNumberFree = true := by
  cases lookup with
  | designator d => exact (Designator.reads d).isNumberFree
  | selector s => exact (Selector.reads s).isNumberFree

/-- The lookup stands beside the fields of a match, which are no names of lookups. -/
theorem Match.reads (mt : Match) : Reads ofJson? mt.toJson mt := by
  let fields : List (String × Option Json) :=
    [("matchId", some (.string mt.matchId)), ("value", some mt.value.toJson)]
  have hjson : mt.toJson = .object (Json.present fields ++ [mt.lookup.member]) :=
    rfl
  have hmatchId := (Reads.string mt.matchId).required
  have hvalue := (TypedValue.reads mt.value).required
  have hfields : Json.fields? ["matchId", "value"] .isOpen
      (.object (Json.present fields ++ [mt.lookup.member])) =
      some [some (.string mt.matchId), some mt.value.toJson] := by
    refine Json.fields?_append rfl (by decide) (fun hclosed => absurd hclosed (by decide)) ?_
    cases mt.lookup <;> simp [Lookup.member]
  have hlookup : Lookup.ofMembers? (Json.present fields ++ [mt.lookup.member]) = some mt.lookup :=
    Lookup.ofMembers?_member mt.lookup
  rw [hjson]
  constructor
  · simp [ofJson?, hfields, hmatchId.read_eq, hvalue.read_eq, hlookup]
  · refine Json.membersNumberFree_iff.2 (List.forall_mem_append.2 ⟨?_, ?_⟩)
    · exact Json.membersNumberFree_iff.1 <| Json.membersNumberFree_present <|
        hmatchId.numberFree_cons _ <| hvalue.numberFree_cons _ .nil
    · exact List.forall_mem_singleton.2 (Lookup.isNumberFree_member mt.lookup)

theorem AllOf.reads (group : AllOf) : Reads ofJson? group.toJson group := by
  have hjson : group.toJson =
      Json.record [("matches", some (.array (group.conjuncts.map Match.toJson)))] :=
    rfl
  have hmatches := (Reads.array fun mt (_ : mt ∈ group.conjuncts) => Match.reads mt).required
  rw [hjson]
  refine Reads.record rfl (by decide) ?_ ?_
  · simp [hmatches.read_eq]
  · exact hmatches.numberFree_cons _ .nil

theorem AnyOf.reads (group : AnyOf) : Reads ofJson? group.toJson group := by
  have hjson : group.toJson =
      Json.record [("allOf", some (.array (group.disjuncts.map AllOf.toJson)))] :=
    rfl
  have hallOf := (Reads.array fun mt (_ : mt ∈ group.disjuncts) => AllOf.reads mt).required
  rw [hjson]
  refine Reads.record rfl (by decide) ?_ ?_
  · simp [hallOf.read_eq]
  · exact hallOf.numberFree_cons _ .nil

theorem LegacyTarget.reads (target : LegacyTarget) : Reads ofJson? target.toJson target := by
  have hjson : target.toJson = Json.record
      [ ("subjects", listed (target.subjects.map AllOf.toJson))
      , ("resources", listed (target.resources.map AllOf.toJson))
      , ("actions", listed (target.actions.map AllOf.toJson))
      , ("environments", listed (target.environments.map AllOf.toJson)) ] := by
    simp [toJson, Json.record]
  have hgroups (groups : List AllOf) :=
    FieldReads.list fun group (_ : group ∈ groups) => AllOf.reads group
  rw [hjson]
  refine Reads.record rfl (by decide) ?_ ?_
  · simp [(hgroups _).read_eq]
  · exact (hgroups _).numberFree_cons _ <| (hgroups _).numberFree_cons _ <|
      (hgroups _).numberFree_cons _ <| (hgroups _).numberFree_cons _ .nil

theorem Target.reads (target : Target) : Reads ofJson? target.toJson target := by
  cases target with
  | anyOf conjuncts =>
      have hconjuncts := Reads.array fun group (_ : group ∈ conjuncts) => AnyOf.reads group
      refine ⟨?_, (Json.isNumberFree_case _ _).trans hconjuncts.isNumberFree⟩
      simp [toJson, ofJson?, Json.choice?, hconjuncts.read_eq]
  | legacy sections =>
      have hsections := LegacyTarget.reads sections
      refine ⟨?_, (Json.isNumberFree_case _ _).trans hsections.isNumberFree⟩
      simp [toJson, ofJson?, Json.choice?, hsections.read_eq]

/-! ## Obligations -/

theorem effect_reads (effect : Effect) : Reads Effect.ofJson? (.string effect.name) effect := by
  cases effect <;> exact ⟨rfl, rfl⟩

theorem Assignment.reads (a : Assignment) : Reads ofJson? a.toJson a := by
  have hjson : a.toJson = Json.record
      [ ("attributeId", some (.string a.attributeId))
      , ("category", a.category.map .string)
      , ("issuer", a.issuer.map .string)
      , ("expr", some a.expr.toJson) ] := by
    simp [toJson, Json.record]
  have hattributeId := (Reads.string a.attributeId).required
  have hcategory := FieldReads.text a.category
  have hissuer := FieldReads.text a.issuer
  have hexpr := (Expr.reads a.expr).required
  rw [hjson]
  refine Reads.record rfl (by decide) ?_ ?_
  · simp [hattributeId.read_eq, hcategory.read_eq, hissuer.read_eq, hexpr.read_eq]
  · exact hattributeId.numberFree_cons _ <| hcategory.numberFree_cons _ <|
      hissuer.numberFree_cons _ <| hexpr.numberFree_cons _ .nil

theorem Obligation.reads (o : Obligation) : Reads ofJson? o.toJson o := by
  have hjson : o.toJson = Json.record
      [ ("id", some (.string o.id))
      , ("fulfillOn", some (.string o.fulfillOn.name))
      , ("assignments", listed (o.assignments.map Assignment.toJson)) ] := by
    simp [toJson, Json.record]
  have hid := (Reads.string o.id).required
  have hfulfillOn := (effect_reads o.fulfillOn).required
  have hassignments := FieldReads.list fun a (_ : a ∈ o.assignments) => Assignment.reads a
  rw [hjson]
  refine Reads.record rfl (by decide) ?_ ?_
  · simp [hid.read_eq, hfulfillOn.read_eq, hassignments.read_eq]
  · exact hid.numberFree_cons _ <| hfulfillOn.numberFree_cons _ <|
      hassignments.numberFree_cons _ .nil

theorem obligations_read (list : List Obligation) :
    FieldReads obligations? (listed (list.map Obligation.toJson)) list :=
  FieldReads.list fun o _ => Obligation.reads o

/-! ## Rules -/

theorem Rule.reads (rule : Rule) : Reads ofJson? rule.toJson rule := by
  have hjson : rule.toJson = Json.record
      [ ("ruleId", some (.string rule.ruleId))
      , ("effect", some (.string rule.effect.name))
      , ("description", rule.description.map .string)
      , ("target", rule.target.map Target.toJson)
      , ("condition", rule.condition.map Expr.toJson)
      , ("obligations", listed (rule.obligations.map Obligation.toJson))
      , ("advice", listed (rule.advice.map Obligation.toJson)) ] := by
    cases htarget : rule.target <;> cases hcondition : rule.condition <;>
      simp [toJson, htarget, hcondition, obligationsField, Json.record, Json.member]
  have hruleId := (Reads.string rule.ruleId).required
  have heffect := (effect_reads rule.effect).required
  have hdescription := FieldReads.text rule.description
  have htarget := FieldReads.optional Target.reads rfl rule.target
  have hcondition := FieldReads.optional Expr.reads rfl rule.condition
  have hobligations := obligations_read rule.obligations
  have hadvice := obligations_read rule.advice
  rw [hjson]
  refine Reads.record rfl (by decide) ?_ ?_
  · simp [hruleId.read_eq, heffect.read_eq, hdescription.read_eq, htarget.read_eq,
      hcondition.read_eq, hobligations.read_eq, hadvice.read_eq]
  · exact hruleId.numberFree_cons _ <| heffect.numberFree_cons _ <|
      hdescription.numberFree_cons _ <| htarget.numberFree_cons _ <|
      hcondition.numberFree_cons _ <| hobligations.numberFree_cons _ <|
      hadvice.numberFree_cons _ .nil

/-! ## Parameters -/

theorem CombinerParameter.reads (parameter : CombinerParameter) :
    Reads ofJson? parameter.toJson parameter := by
  have hjson : parameter.toJson = Json.record
      [ ("parameterName", some (.string parameter.parameterName))
      , ("value", some parameter.value.toJson) ] :=
    rfl
  have hparameterName := (Reads.string parameter.parameterName).required
  have hvalue := (TypedValue.reads parameter.value).required
  rw [hjson]
  refine Reads.record rfl (by decide) ?_ ?_
  · simp [hparameterName.read_eq, hvalue.read_eq]
  · exact hparameterName.numberFree_cons _ <| hvalue.numberFree_cons _ .nil

theorem ChildParameters.reads (entry : ChildParameters) : Reads ofJson? entry.toJson entry := by
  have hjson : entry.toJson = Json.record
      [ ("id", some (.string entry.id))
      , ("parameters", some (.array (entry.parameters.map CombinerParameter.toJson))) ] :=
    rfl
  have hid := (Reads.string entry.id).required
  have hparameters := (Reads.array fun parameter (_ : parameter ∈ entry.parameters) =>
    CombinerParameter.reads parameter).required
  rw [hjson]
  refine Reads.record rfl (by decide) ?_ ?_
  · simp [hid.read_eq, hparameters.read_eq]
  · exact hid.numberFree_cons _ <| hparameters.numberFree_cons _ .nil

end Document
end Xacml
