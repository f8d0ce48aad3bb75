import Xacml.Document.Policy
import Xacml.Load.Expr
import Xacml.Proofs.Lexical.Canonical
import Xacml.Request.Document

/-!
# Literals of documents

The literals of a document or of a request are the typed values that are written in it.

* `Document.literals` and `Document.Request.literals` list them,
* `TypedValue.PrintsBack` says of a literal that is a double that the printed double is read as the
  double; of every other literal this is known,
* `loadValue_ofValue`: the canonical form of such a literal is loaded as the same value.
-/

namespace Xacml

/-! ## Typed values -/

namespace TypedValue

/-- Whether the value of a typed value reads back, if it is a double. -/
def PrintsBack (typed : TypedValue) : Prop :=
  ∀ value, typed.toValue = .ok value → value.type = .double → value.ReadsBack

instance : DecidablePred PrintsBack := fun typed =>
  match h : typed.toValue with
  | .ok value =>
      have : Decidable value.ReadsBack := inferInstanceAs (Decidable (_ = _))
      decidable_of_iff (value.type = .double → value.ReadsBack) (by simp [PrintsBack, h])
  | .error _ => isTrue (by simp [PrintsBack, h])

/-- Every value of the typed values is read from its canonical form. -/
theorem toValue_ofValue_of_toValue {typed : TypedValue} {value : Value} (h : typed.PrintsBack)
    (hvalue : typed.toValue = .ok value) : (ofValue value).toValue = .ok value := by
  have hdouble := h value hvalue
  rw [toValue] at hvalue
  split at hvalue
  case h_1 => cases hvalue
  case h_2 type htype =>
    rcases exists_of_map_eq_ok hvalue with ⟨plain, hread, rfl⟩
    refine toValue_ofValue ?_ typed.category
    by_cases htype : type = .double
    · -- Only here the printing of doubles matters.
      have hplain := (Value.type_of_read hread).trans htype
      cases plain with
      | double x => exact hdouble rfl
      | _ => cases hplain
    · exact Value.readsBack_of_read htype hread

end TypedValue

/-- The canonical form of a literal is loaded as the same value. -/
theorem loadValue_ofValue {typed : TypedValue} {value : Value} (h : typed.PrintsBack)
    (hvalue : loadValue typed = .ok value) : loadValue (.ofValue value) = .ok value := by
  rw [loadValue, TypedValue.toValue_ofValue_of_toValue h (eq_ok_of_mapError hvalue)]
  rfl

/-! ## Expressions and targets -/

namespace Document

namespace Expr

mutual

/-- The literals of an expression. -/
def literals : Expr → List TypedValue
  | value v => [v]
  | apply _ args => literalsAll args
  | _ => []

/-- The literals of expressions. -/
def literalsAll : List Expr → List TypedValue
  | [] => []
  | e :: rest => literals e ++ literalsAll rest

end

end Expr

/-- The literals of a conjunction. -/
def AllOf.literals (group : AllOf) : List TypedValue :=
  group.conjuncts.map Match.value

/-- The literals of a disjunction. -/
def AnyOf.literals (group : AnyOf) : List TypedValue :=
  group.disjuncts.flatMap AllOf.literals

/-- The literals of the sections of the earlier layout. -/
def LegacyTarget.literals (target : LegacyTarget) : List TypedValue :=
  target.subjects.flatMap AllOf.literals ++ target.resources.flatMap AllOf.literals ++
    target.actions.flatMap AllOf.literals ++ target.environments.flatMap AllOf.literals

/-- The literals of a target. -/
def Target.literals : Target → List TypedValue
  | anyOf conjuncts => conjuncts.flatMap AnyOf.literals
  | legacy sections => sections.literals

/-! ## Rules and policies -/

/-- The literals of an assignment. -/
def Assignment.literals (a : Assignment) : List TypedValue :=
  a.expr.literals

/-- The literals of an obligation. -/
def Obligation.literals (o : Obligation) : List TypedValue :=
  o.assignments.flatMap Assignment.literals

/-- The literals of a rule. -/
def Rule.literals (rule : Rule) : List TypedValue :=
  rule.target.toList.flatMap Target.literals ++ rule.condition.toList.flatMap Expr.literals ++
    rule.obligations.flatMap Obligation.literals ++ rule.advice.flatMap Obligation.literals

/-- The literals of parameters about a child. -/
def ChildParameters.literals (entry : ChildParameters) : List TypedValue :=
  entry.parameters.map CombinerParameter.value

/-- The literals of a header. -/
def Header.literals (header : Header) : List TypedValue :=
  header.target.toList.flatMap Target.literals ++
    header.combinerParameters.map CombinerParameter.value ++
    header.childParameters.flatMap ChildParameters.literals ++
    header.obligations.flatMap Obligation.literals ++ header.advice.flatMap Obligation.literals

/-- The literals of a policy. -/
def Policy.literals (p : Policy) : List TypedValue :=
  p.header.literals ++ p.definitions.flatMap (fun definition => definition.expr.literals) ++
    p.rules.flatMap Rule.literals

namespace Node

mutual

/-- The literals of a policy tree. -/
def literals : Node → List TypedValue
  | policy p => p.literals
  | policySet header children => header.literals ++ literalsAll children
  | policyIdReference _ | policySetIdReference _ => []

/-- The literals of policy trees. -/
def literalsAll : List Node → List TypedValue
  | [] => []
  | node :: rest => literals node ++ literalsAll rest

end

end Node

/-- The literals of a document. -/
def literals (document : Document) : List TypedValue :=
  Node.literalsAll document.policies ++ Node.literalsAll document.library

/-! ## Requests -/

/-- The literals of a category. -/
def Request.Category.literals (c : Request.Category) : List TypedValue :=
  c.attributes.flatMap Request.Attribute.values

/-- The literals of a request. -/
def Request.literals (request : Request) : List TypedValue :=
  request.categories.flatMap Request.Category.literals

end Document
end Xacml
