import Xacml.Json.Reader
import Xacml.Request.Basic
import Xacml.Value.Json

/-!
# Written requests

Requests as they are written in JSON: their values are still lexical forms.

* `Document.Request` is the type of written requests, with its JSON records,
* `Document.Request.load` reads the values, and `Request.written` writes them canonically.
-/

namespace Xacml
namespace Document

/-! ## Types -/

structure Request.Attribute where
  attributeId : String
  issuer : Option String
  includeInResult : Bool
  values : List TypedValue
  deriving DecidableEq, Repr

structure Request.Category where
  category : String
  attributes : List Request.Attribute
  deriving DecidableEq, Repr

structure Request where
  returnPolicyIdList : Bool
  combinedDecision : Bool
  categories : List Request.Category
  deriving DecidableEq, Repr

namespace Request

def empty : Request := ⟨false, false, []⟩

/-! ## JSON -/

namespace Attribute

def ofJson? (json : Json) : Option Attribute := do
  match ← Json.fields? ["attributeId", "issuer", "includeInResult", "values"] .isClosed json with
  | [attributeId, issuer, includeInResult, values] =>
      return {
        attributeId := ← Json.required Json.asString? attributeId
        issuer := ← Json.optional Json.asString? issuer
        includeInResult := ← Json.withDefault false Json.asBool? includeInResult
        values := ← Json.required (Json.listOf? TypedValue.ofJson?) values }
  | _ => none

def toJson (a : Attribute) : Json :=
  .object
    (Json.field "attributeId" (.string a.attributeId) ++ Json.optionalField "issuer" a.issuer ++
      Json.flagField "includeInResult" a.includeInResult ++
      Json.field "values" (.array (a.values.map TypedValue.toJson)))

end Attribute

namespace Category

def ofJson? (json : Json) : Option Category := do
  match ← Json.fields? ["category", "attributes"] .isClosed json with
  | [category, attributes] =>
      return {
        category := ← Json.required Json.asString? category
        attributes := ← Json.withDefault [] (Json.listOf? Attribute.ofJson?) attributes }
  | _ => none

def toJson (c : Category) : Json :=
  .object
    [ ("category", .string c.category)
    , ("attributes", .array (c.attributes.map Attribute.toJson)) ]

end Category

def ofJson? (json : Json) : Option Request := do
  let names := ["returnPolicyIdList", "combinedDecision", "categories"]
  match ← Json.fields? names .isClosed json with
  | [returnPolicyIdList, combinedDecision, categories] =>
      return {
        returnPolicyIdList := ← Json.withDefault false Json.asBool? returnPolicyIdList
        combinedDecision := ← Json.withDefault false Json.asBool? combinedDecision
        categories := ← Json.withDefault [] (Json.listOf? Category.ofJson?) categories }
  | _ => none

def toJson (request : Request) : Json :=
  .object
    (Json.flagField "returnPolicyIdList" request.returnPolicyIdList ++
      Json.flagField "combinedDecision" request.combinedDecision ++
      Json.field "categories" (.array (request.categories.map Category.toJson)))

def read? (text : String) : Option Request :=
  (Json.read? text).bind ofJson?

end Request
end Document

/-! ## Loading -/

inductive RequestError
  | emptyCategory
  | invalidValue (attributeId : String) (error : ValueError)
  deriving DecidableEq, Repr

def RequestError.message : RequestError → String
  | emptyCategory => "attribute category URI is empty"
  | invalidValue attributeId error =>
      let reason := error.message
      s!"invalid value for attribute `{attributeId}`: {reason}"

namespace Document.Request

def Attribute.load (a : Attribute) : Except RequestError Xacml.Request.Attribute := do
  let values ← (a.values.mapM TypedValue.toValue).mapError (.invalidValue a.attributeId)
  return ⟨a.attributeId, a.issuer, values, a.includeInResult⟩

def Category.load (c : Category) : Except RequestError Xacml.Request.Category :=
  if c.category.isEmpty then .error .emptyCategory
  else do return ⟨c.category, ← c.attributes.mapM Attribute.load⟩

def load (request : Request) : Except RequestError Xacml.Request := do
  let categories ← request.categories.mapM Category.load
  return ⟨categories, request.returnPolicyIdList, request.combinedDecision⟩

end Document.Request

/-! ## Normal forms -/

namespace Request

def Attribute.written (a : Attribute) : Document.Request.Attribute :=
  ⟨a.id, a.issuer, a.includeInResult, a.values.map .ofValue⟩

def Category.written (c : Category) : Document.Request.Category :=
  ⟨c.uri, c.attributes.map Attribute.written⟩

def written (request : Request) : Document.Request :=
  ⟨request.returnPolicyIdList, request.combinedDecision,
    request.categories.map Category.written⟩

def Category.toJson (c : Category) : Json :=
  c.written.toJson

/-- The request as a JSON record in which both flags are written. -/
def toJson (request : Request) : Json :=
  .object
    [ ("categories", .array (request.categories.map Category.toJson))
    , ("returnPolicyIdList", .bool request.returnPolicyIdList)
    , ("combinedDecision", .bool request.combinedDecision) ]

end Request

end Xacml
