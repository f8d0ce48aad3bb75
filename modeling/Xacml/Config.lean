import Xacml.Combining.Algorithm
import Xacml.Json.Record
import Xacml.Version.Basic

/-!
# Configuration

The settings of a decision point.  Each has a default.
-/

namespace Xacml

/-- The settings of a decision point. -/
structure Config where
  rootCombiningAlgorithm : String
  maxReferenceDepth : Nat
  defaultSchema : SchemaVersion
  enableMultipleDecisions : Bool
  deriving DecidableEq, Repr

namespace Config

/-- The settings that hold where none are given. -/
def default : Config where
  rootCombiningAlgorithm := Algorithm.onlyOneApplicableId
  maxReferenceDepth := 32
  defaultSchema := .v3_0
  enableMultipleDecisions := true

def fieldNames : List String :=
  ["rootCombiningAlgorithm", "maxReferenceDepth", "defaultXacmlVersion", "enableMultipleDecisions"]

/-- A limit in JSON: a whole number of at most 64 bits. -/
def limit? (json : Json) : Option Nat :=
  json.asNat?.filter (· < Nat.pow 2 64)

/-- An edition of the policy language in JSON. -/
def schema? (json : Json) : Option SchemaVersion :=
  (Json.caseName? json).bind SchemaVersion.read?

def ofJson? (json : Json) : Option Config := do
  match ← Json.fields? fieldNames .isClosed json with
  | [algorithm, depth, schema, multiple] =>
      return {
        rootCombiningAlgorithm :=
          ← Json.withDefault default.rootCombiningAlgorithm Json.asString? algorithm
        maxReferenceDepth := ← Json.withDefault default.maxReferenceDepth limit? depth
        defaultSchema := ← Json.withDefault default.defaultSchema schema? schema
        enableMultipleDecisions :=
          ← Json.withDefault default.enableMultipleDecisions Json.asBool? multiple }
  | _ => none

def toJson (config : Config) : Json :=
  .object
    [ ("rootCombiningAlgorithm", .string config.rootCombiningAlgorithm)
    , ("maxReferenceDepth", .ofNat config.maxReferenceDepth)
    , ("defaultXacmlVersion", .string config.defaultSchema.text)
    , ("enableMultipleDecisions", .bool config.enableMultipleDecisions) ]

end Config

end Xacml
