import Xacml.Json.Basic

/-!
# Records in JSON

A record is written as an object with one member for each field, or as an array of its fields in
order.  Reading one is strict: no field may repeat, and a closed record has no further members.

* `fields?` takes the fields of a record apart,
* `required`, `optional`, `withDefault` read one field,
* `choice?` reads an object whose only member names one of several cases.
-/

namespace Xacml
namespace Json

/-! ## Fields of a record -/

/-- Whether a record may have members that are no fields; these are passed over. -/
inductive Openness
  | isOpen
  | isClosed
  deriving DecidableEq, Repr

def valuesOf (name : String) (members : List (String × Json)) : List Json :=
  (members.filter fun member => member.1 = name).map Prod.snd

/-- The values of the named fields, in the order of the names; `none` stands for an absent
field. -/
def fields? (names : List String) (openness : Openness) : Json → Option (List (Option Json))
  | .object members =>
      if openness = .isClosed && members.any (fun member => !names.contains member.1) then none
      else
        names.mapM fun name =>
          match valuesOf name members with
          | [] => some none
          | [value] => some (some value)
          | _ => none
  | .array items =>
      if names.length < items.length then none
      else some (items.map some ++ List.replicate (names.length - items.length) none)
  | _ => none

def required {α : Type} (read : Json → Option α) (field : Option Json) : Option α :=
  field.bind read

def optional {α : Type} (read : Json → Option α) : Option Json → Option (Option α)
  | none => some none
  | some .null => some none
  | some json => (read json).map some

def withDefault {α : Type} (value : α) (read : Json → Option α) : Option Json → Option α
  | none => some value
  | some json => read json

def listOf? {α : Type} (read : Json → Option α) : Json → Option (List α)
  | .array items => items.mapM read
  | _ => none

/-- The case and the value of an object with one member. -/
def choice? : Json → Option (String × Json)
  | .object [member] => some member
  | _ => none

def caseName? : Json → Option String
  | .string name => some name
  | .object [(name, .null)] => some name
  | _ => none

/-! ## Writing fields -/

def field (name : String) (value : Json) : List (String × Json) :=
  [(name, value)]

/-- A field that is written if it has a value. -/
def optionalField (name : String) (value : Option String) : List (String × Json) :=
  match value with
  | some text => [(name, .string text)]
  | none => []

/-- A list that is written unless it is empty. -/
def listField (name : String) (items : List Json) : List (String × Json) :=
  if items.isEmpty then [] else [(name, .array items)]

def flagField (name : String) (flag : Bool) : List (String × Json) :=
  if flag then [(name, .bool true)] else []

end Json
end Xacml
