import Xacml.Decision
import Xacml.Document.Target

/-!
# Written rules

Rules, obligations and parameters as they stand in a document.
-/

namespace Xacml

/-- The effect in a JSON value: its name, or an object that maps the name to nothing. -/
def Effect.ofJson? : Json → Option Effect
  | .object [(name, .object [])] => ofName? name
  | json => (Json.caseName? json).bind ofName?

namespace Document

/-! ## Obligations -/

structure Assignment where
  attributeId : String
  category : Option String
  issuer : Option String
  expr : Expr
  deriving Repr

namespace Assignment

def ofJson? (json : Json) : Option Assignment := do
  match ← Json.fields? ["attributeId", "category", "issuer", "expr"] .isClosed json with
  | [attributeId, category, issuer, expr] =>
      return {
        attributeId := ← Json.required Json.asString? attributeId
        category := ← Json.optional Json.asString? category
        issuer := ← Json.optional Json.asString? issuer
        expr := ← Json.required Expr.ofJson? expr }
  | _ => none

def toJson (a : Assignment) : Json :=
  .object
    (Json.field "attributeId" (.string a.attributeId) ++
      Json.optionalField "category" a.category ++ Json.optionalField "issuer" a.issuer ++
      Json.field "expr" a.expr.toJson)

end Assignment

/-- A written obligation, or written advice. -/
structure Obligation where
  id : String
  fulfillOn : Effect
  assignments : List Assignment
  deriving Repr

namespace Obligation

def ofJson? (json : Json) : Option Obligation := do
  match ← Json.fields? ["id", "fulfillOn", "assignments"] .isClosed json with
  | [id, fulfillOn, assignments] =>
      return {
        id := ← Json.required Json.asString? id
        fulfillOn := ← Json.required Effect.ofJson? fulfillOn
        assignments := ← Json.withDefault [] (Json.listOf? Assignment.ofJson?) assignments }
  | _ => none

def toJson (o : Obligation) : Json :=
  .object
    (Json.field "id" (.string o.id) ++ Json.field "fulfillOn" (.string o.fulfillOn.name) ++
      Json.listField "assignments" (o.assignments.map Assignment.toJson))

end Obligation

/-- Obligations in a field that may be absent. -/
def obligations? : Option Json → Option (List Obligation) :=
  Json.withDefault [] (Json.listOf? Obligation.ofJson?)

/-- Obligations as a field that is left out if there are none. -/
def obligationsField (name : String) (list : List Obligation) : List (String × Json) :=
  Json.listField name (list.map Obligation.toJson)

/-! ## Rules -/

structure Rule where
  ruleId : String
  effect : Effect
  description : Option String
  target : Option Target
  condition : Option Expr
  obligations : List Obligation
  advice : List Obligation
  deriving Repr

namespace Rule

def fieldNames : List String :=
  ["ruleId", "effect", "description", "target", "condition", "obligations", "advice"]

def ofJson? (json : Json) : Option Rule := do
  match ← Json.fields? fieldNames .isClosed json with
  | [ruleId, effect, description, target, condition, obligations, advice] =>
      return {
        ruleId := ← Json.required Json.asString? ruleId
        effect := ← Json.required Effect.ofJson? effect
        description := ← Json.optional Json.asString? description
        target := ← Json.optional Target.ofJson? target
        condition := ← Json.optional Expr.ofJson? condition
        obligations := ← obligations? obligations
        advice := ← obligations? advice }
  | _ => none

def toJson (rule : Rule) : Json :=
  let target := match rule.target with
    | some target => Json.field "target" target.toJson
    | none => []
  let condition := match rule.condition with
    | some condition => Json.field "condition" condition.toJson
    | none => []
  .object
    (Json.field "ruleId" (.string rule.ruleId) ++
      Json.field "effect" (.string rule.effect.name) ++
      Json.optionalField "description" rule.description ++ target ++ condition ++
      obligationsField "obligations" rule.obligations ++ obligationsField "advice" rule.advice)

end Rule

/-! ## Parameters -/

/-- A written parameter for a combining algorithm. -/
structure CombinerParameter where
  parameterName : String
  value : TypedValue
  deriving DecidableEq, Repr

namespace CombinerParameter

def ofJson? (json : Json) : Option CombinerParameter := do
  match ← Json.fields? ["parameterName", "value"] .isClosed json with
  | [parameterName, value] =>
      return {
        parameterName := ← Json.required Json.asString? parameterName
        value := ← Json.required TypedValue.ofJson? value }
  | _ => none

def toJson (parameter : CombinerParameter) : Json :=
  .object
    [("parameterName", .string parameter.parameterName), ("value", parameter.value.toJson)]

end CombinerParameter

/-- Written parameters about one child, which is named by its identifier. -/
structure ChildParameters where
  id : String
  parameters : List CombinerParameter
  deriving DecidableEq, Repr

namespace ChildParameters

def ofJson? (json : Json) : Option ChildParameters := do
  match ← Json.fields? ["id", "parameters"] .isClosed json with
  | [id, parameters] =>
      return {
        id := ← Json.required Json.asString? id
        parameters := ← Json.required (Json.listOf? CombinerParameter.ofJson?) parameters }
  | _ => none

def toJson (entry : ChildParameters) : Json :=
  .object
    [ ("id", .string entry.id)
    , ("parameters", .array (entry.parameters.map CombinerParameter.toJson)) ]

end ChildParameters

end Document
end Xacml
