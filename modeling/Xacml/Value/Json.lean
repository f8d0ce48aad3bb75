import Xacml.Json.Record
import Xacml.Value.Lexical

/-!
# Typed values in JSON

A typed value is a record of a data type, a lexical form and, for path expressions, a category.
-/

namespace Xacml

def TypedValue.ofJson? (json : Json) : Option TypedValue := do
  match ← Json.fields? ["dataType", "value", "xpathCategory"] .isOpen json with
  | [dataType, value, category] =>
      return {
        dataType := ← Json.required Json.asString? dataType
        value := ← Json.required Json.asString? value
        category := ← Json.optional Json.asString? category }
  | _ => none

/-- The members of the JSON record of a typed value. -/
def TypedValue.fields (typed : TypedValue) : List (String × Json) :=
  Json.field "dataType" (.string typed.dataType) ++ Json.field "value" (.string typed.value) ++
    Json.optionalField "xpathCategory" typed.category

def TypedValue.toJson (typed : TypedValue) : Json :=
  .object typed.fields

/-- The JSON record of the canonical form of a value. -/
def Value.toJson (value : Value) : Json :=
  (TypedValue.ofValue value).toJson

end Xacml
