import Xacml.Document.Expr

/-!
# Written targets

* `Document.Match` is a comparison; its JSON object holds the lookup beside the other fields,
* `Document.Target` has one of two layouts.
-/

namespace Xacml
namespace Document

/-! ## Matches -/

/-- Where a written match finds its values. -/
inductive Lookup
  | designator (d : Designator)
  | selector (s : Selector)
  deriving DecidableEq, Repr

structure Match where
  matchId : String
  value : TypedValue
  lookup : Lookup
  deriving DecidableEq, Repr

namespace Lookup

/-- The lookup among the members of an object: the first one that has the name of a lookup. -/
def ofMembers? : List (String × Json) → Option Lookup
  | [] => none
  | ("attributeDesignator", json) :: _ => (Designator.ofJson? json).map designator
  | ("attributeSelector", json) :: _ => (Selector.ofJson? json).map selector
  | _ :: rest => ofMembers? rest

def member : Lookup → String × Json
  | designator d => ("attributeDesignator", d.toJson)
  | selector s => ("attributeSelector", s.toJson)

end Lookup

namespace Match

def ofJson? : Json → Option Match
  | .object members => do
      match ← Json.fields? ["matchId", "value"] .isOpen (.object members) with
      | [matchId, value] =>
          return {
            matchId := ← Json.required Json.asString? matchId
            value := ← Json.required TypedValue.ofJson? value
            lookup := ← Lookup.ofMembers? members }
      | _ => none
  | _ => none

def toJson (mt : Match) : Json :=
  .object [("matchId", .string mt.matchId), ("value", mt.value.toJson), mt.lookup.member]

end Match

/-! ## Conjunctions and disjunctions -/

/-- Written matches that all have to hold. -/
structure AllOf where
  conjuncts : List Match
  deriving DecidableEq, Repr

namespace AllOf

def ofJson? (json : Json) : Option AllOf := do
  match ← Json.fields? ["matches"] .isClosed json with
  | [list] => return ⟨← Json.required (Json.listOf? Match.ofJson?) list⟩
  | _ => none

def toJson (group : AllOf) : Json :=
  .object [("matches", .array (group.conjuncts.map Match.toJson))]

end AllOf

/-- Written alternatives of which one has to hold. -/
structure AnyOf where
  disjuncts : List AllOf
  deriving DecidableEq, Repr

namespace AnyOf

def ofJson? (json : Json) : Option AnyOf := do
  match ← Json.fields? ["allOf"] .isClosed json with
  | [list] => return ⟨← Json.required (Json.listOf? AllOf.ofJson?) list⟩
  | _ => none

def toJson (group : AnyOf) : Json :=
  .object [("allOf", .array (group.disjuncts.map AllOf.toJson))]

end AnyOf

/-! ## Targets -/

/-- The written sections of the earlier layout. -/
structure LegacyTarget where
  subjects : List AllOf
  resources : List AllOf
  actions : List AllOf
  environments : List AllOf
  deriving DecidableEq, Repr

namespace LegacyTarget

def ofJson? (json : Json) : Option LegacyTarget := do
  let groups := Json.withDefault [] (Json.listOf? AllOf.ofJson?)
  match ← Json.fields? ["subjects", "resources", "actions", "environments"] .isClosed json with
  | [subjects, resources, actions, environments] =>
      return {
        subjects := ← groups subjects
        resources := ← groups resources
        actions := ← groups actions
        environments := ← groups environments }
  | _ => none

def toJson (target : LegacyTarget) : Json :=
  let groupsField (name : String) (groups : List AllOf) :=
    Json.listField name (groups.map AllOf.toJson)
  .object
    (groupsField "subjects" target.subjects ++ groupsField "resources" target.resources ++
      groupsField "actions" target.actions ++ groupsField "environments" target.environments)

end LegacyTarget

inductive Target
  | anyOf (conjuncts : List AnyOf)
  | legacy (sections : LegacyTarget)
  deriving DecidableEq, Repr

namespace Target

def ofJson? (json : Json) : Option Target := do
  let (case, content) ← Json.choice? json
  match case with
  | "anyOf" => (Json.listOf? AnyOf.ofJson? content).map anyOf
  | "legacy" => (LegacyTarget.ofJson? content).map legacy
  | _ => none

def toJson : Target → Json
  | anyOf conjuncts => .object [("anyOf", .array (conjuncts.map AnyOf.toJson))]
  | legacy sections => .object [("legacy", sections.toJson)]

end Target

end Document
end Xacml
