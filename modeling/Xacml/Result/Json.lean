import Xacml.Json.Record
import Xacml.Request.Document
import Xacml.Result.Basic

/-!
# Results in JSON

The JSON records of results and responses.  Fields without content are left out.
-/

namespace Xacml

def MissingAttribute.toJson (missing : MissingAttribute) : Json :=
  .object
    (Json.field "category" (.string missing.category) ++
      Json.field "attributeId" (.string missing.attributeId) ++
      Json.field "dataType" (.string missing.dataType.uri) ++
      Json.optionalField "issuer" missing.issuer)

def Status.toJson (status : Status) : Json :=
  .object
    (Json.field "code" (.string status.code.uri) ++
      Json.optionalField "message" status.message ++
      Json.listField "missingAttributes" (status.missingAttributes.map MissingAttribute.toJson))

/-- An assignment as a JSON record, with the typed value among its members. -/
def Assignment.toJson (a : Assignment) : Json :=
  .object
    (Json.field "attributeId" (.string a.attributeId) ++
      Json.optionalField "category" a.category ++ Json.optionalField "issuer" a.issuer ++
      (TypedValue.ofValue a.value).fields)

def Obligation.toJson (o : Obligation) : Json :=
  .object
    (Json.field "id" (.string o.id) ++ Json.field "fulfillOn" (.string o.fulfillOn.name) ++
      Json.listField "assignments" (o.assignments.map Assignment.toJson))

def PolicyKind.name : PolicyKind → String
  | policy => "Policy"
  | policySet => "PolicySet"

def PolicyIdentifier.toJson (identifier : PolicyIdentifier) : Json :=
  .object
    [ ("kind", .string identifier.kind.name)
    , ("id", .string identifier.id)
    , ("version", .string identifier.version.write) ]

/-- The members of the JSON record of a result. -/
def Result.fields (result : Result) : List (String × Json) :=
  let status := match result.status with
    | some status => Json.field "status" status.toJson
    | none => []
  Json.field "decision" (.string result.decision.name) ++ status ++
    Json.listField "obligations" (result.obligations.map Obligation.toJson) ++
    Json.listField "advice" (result.advice.map Obligation.toJson) ++
    Json.listField "attributes" (result.attributes.map Request.Category.toJson) ++
    Json.listField "policyIdentifiers" (result.identifiers.map PolicyIdentifier.toJson)

def Result.toJson (result : Result) : Json :=
  .object result.fields

def Response.toJson (response : Response) : Json :=
  .object [("results", .array (response.results.map Result.toJson))]

end Xacml
