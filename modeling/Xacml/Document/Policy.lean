import Xacml.Document.Rule
import Xacml.Json.Reader

/-!
# Policy documents

* `Document.Node` is a written policy, policy set or reference; its JSON object names its kind in
  the member `type`,
* `Document` is a collection of policies,
* `Document.read?` reads a document.
-/

namespace Xacml
namespace Document

/-! ## Types -/

/-- What written policies and policy sets have in common. -/
structure Header where
  id : String
  version : Option String
  xacmlVersion : Option String
  description : Option String
  target : Option Target
  combiningAlgorithm : String
  combinerParameters : List CombinerParameter
  childParameters : List ChildParameters
  obligations : List Obligation
  advice : List Obligation
  deriving Repr

structure Policy where
  header : Header
  definitions : List VariableDefinition
  rules : List Rule
  deriving Repr

structure Reference where
  id : String
  version : Option String
  earliestVersion : Option String
  latestVersion : Option String
  deriving DecidableEq, Repr

/-- A written policy, policy set or reference. -/
inductive Node
  | policy (p : Policy)
  | policySet (header : Header) (children : List Node)
  | policyIdReference (r : Reference)
  | policySetIdReference (r : Reference)
  deriving Repr

/-- The identifier of a node, or of what it refers to. -/
def Node.id : Node → String
  | policy p => p.header.id
  | policySet header _ => header.id
  | policyIdReference r | policySetIdReference r => r.id

/-! ## Reading -/

def list? {α : Type} (read : Json → Option α) : Option Json → Option (List α) :=
  Json.withDefault [] (Json.listOf? read)

namespace Policy

def fieldNames : List String :=
  [ "policyId", "version", "xacmlVersion", "description", "target", "ruleCombiningAlgorithm"
  , "combinerParameters", "ruleCombinerParameters", "variables", "rules", "obligations"
  , "advice" ]

def ofJson? (json : Json) : Option Policy := do
  match ← Json.fields? fieldNames .isOpen json with
  | [id, version, xacmlVersion, description, target, algorithm, parameters, childParameters,
      definitions, rules, obligations, advice] =>
      return {
        header := {
          id := ← Json.required Json.asString? id
          version := ← Json.optional Json.asString? version
          xacmlVersion := ← Json.optional Json.asString? xacmlVersion
          description := ← Json.optional Json.asString? description
          target := ← Json.optional Target.ofJson? target
          combiningAlgorithm := ← Json.required Json.asString? algorithm
          combinerParameters := ← list? CombinerParameter.ofJson? parameters
          childParameters := ← list? ChildParameters.ofJson? childParameters
          obligations := ← obligations? obligations
          advice := ← obligations? advice }
        definitions := ← list? VariableDefinition.ofJson? definitions
        rules := ← list? Rule.ofJson? rules }
  | _ => none

end Policy

namespace Reference

def ofJson? (json : Json) : Option Reference := do
  match ← Json.fields? ["id", "version", "earliestVersion", "latestVersion"] .isOpen json with
  | [id, version, earliestVersion, latestVersion] =>
      return {
        id := ← Json.required Json.asString? id
        version := ← Json.optional Json.asString? version
        earliestVersion := ← Json.optional Json.asString? earliestVersion
        latestVersion := ← Json.optional Json.asString? latestVersion }
  | _ => none

end Reference

namespace Node

def kinds : List String :=
  ["Policy", "PolicySet", "PolicyIdReference", "PolicySetIdReference"]

/-- The kind in a JSON value.  Inside a policy set the index of a kind stands for it, too. -/
def kind? (nested : Bool) : Json → Option String
  | .string kind => some kind
  | json => if nested then json.asNat?.bind fun index => kinds[index]? else none

/-- The kind of a node and its other members: of an object with one member `type`, or of an array
that begins with the kind. -/
def tagged? (nested : Bool) : Json → Option (String × Json)
  | .object members =>
      match Json.valuesOf "type" members with
      | [json] =>
          (kind? nested json).map fun kind =>
            (kind, .object (members.filter fun member => member.1 ≠ "type"))
      | _ => none
  | .array (json :: items) => (kind? nested json).map fun kind => (kind, .array items)
  | _ => none

/-- The names of the fields of a policy set. -/
def setFieldNames : List String :=
  [ "policySetId", "version", "xacmlVersion", "description", "target"
  , "policyCombiningAlgorithm", "combinerParameters", "policyCombinerParameters", "children"
  , "obligations", "advice" ]

/-- The node in a JSON value that is nested no deeper than given; `nested` tells whether it is
inside a policy set. -/
def ofJsonWithin? (nested : Bool) : Nat → Json → Option Node
  | 0, _ => none
  | depth + 1, json => do
      let (kind, content) ← tagged? nested json
      match kind with
      | "Policy" => (Policy.ofJson? content).map policy
      | "PolicyIdReference" => (Reference.ofJson? content).map policyIdReference
      | "PolicySetIdReference" => (Reference.ofJson? content).map policySetIdReference
      | "PolicySet" => do
          match ← Json.fields? setFieldNames .isOpen content with
          | [id, version, xacmlVersion, description, target, algorithm, parameters,
              childParameters, children, obligations, advice] => do
              let header : Header := {
                id := ← Json.required Json.asString? id
                version := ← Json.optional Json.asString? version
                xacmlVersion := ← Json.optional Json.asString? xacmlVersion
                description := ← Json.optional Json.asString? description
                target := ← Json.optional Target.ofJson? target
                combiningAlgorithm := ← Json.required Json.asString? algorithm
                combinerParameters := ← list? CombinerParameter.ofJson? parameters
                childParameters := ← list? ChildParameters.ofJson? childParameters
                obligations := ← obligations? obligations
                advice := ← obligations? advice }
              return policySet header (← list? (ofJsonWithin? true depth) children)
          | _ => none
      | _ => none

def ofJson? (json : Json) : Option Node :=
  ofJsonWithin? false json.height json

end Node

/-! ## Writing -/

/-- The fields of a header before and after the children; `level` is how the names of the fields
about the children begin. -/
def Header.fields (header : Header) (idName level : String) :
    List (String × Json) × List (String × Json) :=
  let target := match header.target with
    | some target => Json.field "target" target.toJson
    | none => []
  ( Json.field idName (.string header.id) ++ Json.optionalField "version" header.version ++
      Json.optionalField "xacmlVersion" header.xacmlVersion ++
      Json.optionalField "description" header.description ++ target ++
      Json.field (level ++ "CombiningAlgorithm") (.string header.combiningAlgorithm) ++
      Json.listField "combinerParameters"
        (header.combinerParameters.map CombinerParameter.toJson) ++
      Json.listField (level ++ "CombinerParameters")
        (header.childParameters.map ChildParameters.toJson)
  , obligationsField "obligations" header.obligations ++
      obligationsField "advice" header.advice )

namespace Policy

/-- The members of the JSON object of a policy. -/
def members (p : Policy) : List (String × Json) :=
  let (first, last) := p.header.fields "policyId" "rule"
  first ++ Json.listField "variables" (p.definitions.map VariableDefinition.toJson) ++
    Json.field "rules" (.array (p.rules.map Rule.toJson)) ++ last

end Policy

namespace Reference

/-- The members of the JSON object of a reference. -/
def members (r : Reference) : List (String × Json) :=
  Json.field "id" (.string r.id) ++ Json.optionalField "version" r.version ++
    Json.optionalField "earliestVersion" r.earliestVersion ++
    Json.optionalField "latestVersion" r.latestVersion

end Reference

namespace Node

def object (kind : String) (members : List (String × Json)) : Json :=
  .object (("type", .string kind) :: members)

mutual

def toJson : Node → Json
  | policy p => object "Policy" p.members
  | policySet header children =>
      let (first, last) := header.fields "policySetId" "policy"
      object "PolicySet"
        (first ++ Json.field "children" (.array (toJsonAll children)) ++ last)
  | policyIdReference r => object "PolicyIdReference" r.members
  | policySetIdReference r => object "PolicySetIdReference" r.members

def toJsonAll : List Node → List Json
  | [] => []
  | node :: rest => toJson node :: toJsonAll rest

end

end Node

end Document

/-! ## Documents -/

/-- Policies to be considered for every request, and further ones that can be referred to, as they
are written. -/
structure Document where
  policies : List Document.Node
  library : List Document.Node
  deriving Repr

namespace Document

def ofJson? (json : Json) : Option Document := do
  match ← Json.fields? ["policies", "library"] .isClosed json with
  | [policies, library] =>
      return {
        policies := ← list? Node.ofJson? policies
        library := ← list? Node.ofJson? library }
  | _ => none

def toJson (document : Document) : Json :=
  .object
    (Json.field "policies" (.array (document.policies.map Node.toJson)) ++
      Json.listField "library" (document.library.map Node.toJson))

def read? (text : String) : Option Document :=
  (Json.read? text).bind ofJson?

end Document
end Xacml
