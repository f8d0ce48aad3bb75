import Xacml.Function.Params
import Xacml.Value.Lexical
import Xacml.Version.Basic

/-!
# Load errors

Why a document is refused.  An error inside a policy or a rule carries its identifier.
-/

namespace Xacml

inductive TargetLayout
  | anyOf
  | legacy
  deriving DecidableEq, Repr

def TargetLayout.name : TargetLayout → String
  | anyOf => "anyOf"
  | legacy => "legacy"

inductive LoadError
  | unknownFunction (id : String)
  | unknownRuleAlgorithm (id : String)
  | unknownPolicyAlgorithm (id : String)
  | value (error : ValueError)
  | input (error : InputError)
  | condition (rule : String) (actual : Option ValueType)
  | undefinedVariable (id : String)
  | duplicateVariable (id : String)
  | cyclicVariable (id : String)
  | version (fault : VersionFault)
  | unknownSchema (text : String)
  | unknownChild (id : String)
  | badLayout (edition : SchemaVersion) (layout : TargetLayout)
  | inside (id : String) (error : LoadError)
  deriving DecidableEq, Repr

namespace LoadError

def message : LoadError → String
  | unknownFunction id => s!"unknown function `{id}`"
  | unknownRuleAlgorithm id => s!"unknown rule-combining algorithm `{id}`"
  | unknownPolicyAlgorithm id => s!"unknown policy-combining algorithm `{id}`"
  | value error => error.message
  | input error => error.message
  | condition rule actual =>
      let actual := match actual with
        | some type => type.text
        | none => "function"
      s!"the condition of rule `{rule}` has type {actual}, but must be boolean"
  | undefinedVariable id => s!"variable `{id}` is not defined"
  | duplicateVariable id => s!"variable `{id}` is defined more than once"
  | cyclicVariable id => s!"variable `{id}` is defined in terms of itself"
  | version fault => fault.message
  | unknownSchema text => s!"unknown XACML version `{text}`"
  | unknownChild id =>
      s!"combiner parameters refer to `{id}`, which is not a child of this node"
  | badLayout edition layout =>
      let edition := edition.text
      let layout := layout.name
      s!"a XACML {edition} node cannot have a {layout} target"
  | inside id error =>
      let reason := error.message
      s!"in `{id}`: {reason}"

def root : LoadError → LoadError
  | inside _ error => error.root
  | error => error

/-- The identifiers of the nodes around the innermost error, the outermost first. -/
def path : LoadError → List String
  | inside id error => id :: error.path
  | _ => []

end LoadError

end Xacml
