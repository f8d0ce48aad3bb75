import Xacml.Value.Json

/-!
# Written expressions

Expressions as they stand in a document: data types, functions and variables are still names.

* `Document.Expr` is the type of written expressions,
* `Document.Expr.ofJson?` and `Document.Expr.toJson` convert between them and JSON.
-/

namespace Xacml
namespace Document

/-! ## Lookups -/

structure Designator where
  category : String
  attributeId : String
  dataType : String
  issuer : Option String
  mustBePresent : Bool
  deriving DecidableEq, Repr

namespace Designator

def fieldNames : List String :=
  ["category", "attributeId", "dataType", "issuer", "mustBePresent"]

def ofJson? (json : Json) : Option Designator := do
  match ← Json.fields? fieldNames .isClosed json with
  | [category, attributeId, dataType, issuer, mustBePresent] =>
      return {
        category := ← Json.required Json.asString? category
        attributeId := ← Json.required Json.asString? attributeId
        dataType := ← Json.required Json.asString? dataType
        issuer := ← Json.optional Json.asString? issuer
        mustBePresent := ← Json.withDefault false Json.asBool? mustBePresent }
  | _ => none

def toJson (d : Designator) : Json :=
  .object
    (Json.field "category" (.string d.category) ++
      Json.field "attributeId" (.string d.attributeId) ++
      Json.field "dataType" (.string d.dataType) ++
      Json.optionalField "issuer" d.issuer ++
      Json.flagField "mustBePresent" d.mustBePresent)

end Designator

structure Selector where
  category : String
  dataType : String
  path : String
  contextSelectorId : Option String
  mustBePresent : Bool
  xpathVersion : Option String
  deriving DecidableEq, Repr

namespace Selector

def fieldNames : List String :=
  ["category", "dataType", "path", "contextSelectorId", "mustBePresent", "xpathVersion"]

def ofJson? (json : Json) : Option Selector := do
  match ← Json.fields? fieldNames .isClosed json with
  | [category, dataType, path, contextSelectorId, mustBePresent, xpathVersion] =>
      return {
        category := ← Json.required Json.asString? category
        dataType := ← Json.required Json.asString? dataType
        path := ← Json.required Json.asString? path
        contextSelectorId := ← Json.optional Json.asString? contextSelectorId
        mustBePresent := ← Json.withDefault false Json.asBool? mustBePresent
        xpathVersion := ← Json.optional Json.asString? xpathVersion }
  | _ => none

def toJson (s : Selector) : Json :=
  .object
    (Json.field "category" (.string s.category) ++
      Json.field "dataType" (.string s.dataType) ++
      Json.field "path" (.string s.path) ++
      Json.optionalField "contextSelectorId" s.contextSelectorId ++
      Json.flagField "mustBePresent" s.mustBePresent ++
      Json.optionalField "xpathVersion" s.xpathVersion)

end Selector

/-! ## Expressions -/

inductive Expr
  | value (v : TypedValue)
  | designator (d : Designator)
  | selector (s : Selector)
  | apply (functionId : String) (args : List Expr)
  | function (id : String)
  | variableReference (id : String)
  deriving Repr

namespace Expr

/-- The expression in a JSON value that is nested no deeper than given. -/
def ofJsonWithin? : Nat → Json → Option Expr
  | 0, _ => none
  | depth + 1, json => do
      let (case, content) ← Json.choice? json
      match case with
      | "value" => (TypedValue.ofJson? content).map value
      | "attributeDesignator" => (Designator.ofJson? content).map designator
      | "attributeSelector" => (Selector.ofJson? content).map selector
      | "function" => content.asString?.map function
      | "variableReference" => content.asString?.map variableReference
      | "apply" => do
          match ← Json.fields? ["functionId", "arguments"] .isClosed content with
          | [functionId, args] => do
              let functionId ← Json.required Json.asString? functionId
              let args ← Json.withDefault [] (Json.listOf? (ofJsonWithin? depth)) args
              return apply functionId args
          | _ => none
      | _ => none

def ofJson? (json : Json) : Option Expr :=
  ofJsonWithin? json.height json

mutual

def toJson : Expr → Json
  | value v => .object [("value", v.toJson)]
  | designator d => .object [("attributeDesignator", d.toJson)]
  | selector s => .object [("attributeSelector", s.toJson)]
  | apply functionId args =>
      .object
        [("apply",
          .object [("functionId", .string functionId), ("arguments", .array (toJsonAll args))])]
  | function id => .object [("function", .string id)]
  | variableReference id => .object [("variableReference", .string id)]

def toJsonAll : List Expr → List Json
  | [] => []
  | e :: rest => toJson e :: toJsonAll rest

end

end Expr

/-! ## Variables -/

/-- A written definition of a variable. -/
structure VariableDefinition where
  variableId : String
  expr : Expr
  deriving Repr

namespace VariableDefinition

def ofJson? (json : Json) : Option VariableDefinition := do
  match ← Json.fields? ["variableId", "expr"] .isClosed json with
  | [variableId, expr] =>
      return {
        variableId := ← Json.required Json.asString? variableId
        expr := ← Json.required Expr.ofJson? expr }
  | _ => none

def toJson (definition : VariableDefinition) : Json :=
  .object
    [("variableId", .string definition.variableId), ("expr", definition.expr.toJson)]

end VariableDefinition

end Document
end Xacml
