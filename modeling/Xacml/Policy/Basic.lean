import Xacml.Combining.Algorithm
import Xacml.Expr.Basic
import Xacml.Target.Basic
import Xacml.Text.Escape
import Xacml.Version.Pattern

/-!
# Policies

* `Rule` has an effect, which is the decision if its target and its condition hold,
* `Policy` combines rules,
* `PolicyTree` is a policy, a policy set that combines other trees, or a reference to one of the
  two.
-/

namespace Xacml

/-! ## Obligations -/

/-- An expression that gives an attribute its values. -/
structure AssignmentExpr where
  attributeId : String
  category : Option String
  issuer : Option String
  expr : Expr
  deriving Repr

/-- An obligation or advice before its evaluation. -/
structure ObligationExpr where
  id : String
  fulfillOn : Effect
  assignments : List AssignmentExpr
  deriving Repr

/-! ## Rules -/

/-- A rule.  Without a target or a condition it is about every request. -/
structure Rule where
  id : String
  effect : Effect
  description : Option String
  target : Option Target
  condition : Option Expr
  obligations : List ObligationExpr
  advice : List ObligationExpr
  deriving Repr

/-! ## Children -/

/-- A named value for a combining algorithm. -/
structure CombinerParameter where
  name : String
  value : Value
  deriving DecidableEq, Repr

/-- A rule or a policy with the parameters for combining it. -/
structure Child (α : Type) where
  element : α
  parameters : List CombinerParameter
  deriving Repr

/-! ## Policies and policy sets -/

/-- What policies and policy sets have in common. -/
structure PolicyHeader where
  id : String
  version : Version
  schema : SchemaVersion
  description : Option String
  target : Target
  algorithm : Algorithm
  parameters : List CombinerParameter
  obligations : List ObligationExpr
  advice : List ObligationExpr
  deriving Repr

/-- A policy: rules and an algorithm that combines them. -/
structure Policy where
  header : PolicyHeader
  definitions : List VariableDefinition
  rules : List (Child Rule)
  deriving Repr

/-- Whether something is a policy or a policy set. -/
inductive PolicyKind
  | policy
  | policySet
  deriving DecidableEq, Repr

/-- A reference to a policy or a policy set. -/
structure PolicyReference where
  kind : PolicyKind
  id : String
  constraints : VersionConstraints
  deriving DecidableEq, Repr

/-- A policy, a policy set, or a reference to one of them. -/
inductive PolicyTree
  | policy (rules : Policy)
  | policySet (header : PolicyHeader) (children : List (Child PolicyTree))
  | reference (target : PolicyReference)
  deriving Repr

namespace PolicyTree

def header? : PolicyTree → Option PolicyHeader
  | policy p => some p.header
  | policySet header _ => some header
  | reference _ => none

/-- The identifier of a tree, or of what it refers to. -/
def id : PolicyTree → String
  | policy p => p.header.id
  | policySet header _ => header.id
  | reference target => target.id

/-- Whether a tree is a policy or a policy set. -/
def kind? : PolicyTree → Option PolicyKind
  | policy _ => some .policy
  | policySet _ _ => some .policySet
  | reference _ => none

end PolicyTree

/-! ## References -/

namespace PolicyReference

/-- Whether a reference may stand for a tree. -/
def accepts (reference : PolicyReference) (tree : PolicyTree) : Bool :=
  tree.kind? == some reference.kind && tree.id == reference.id &&
    tree.header?.any fun header => reference.constraints.satisfiedBy header.version

/-- An identifier as it is shown, with characters that cannot be printed escaped. -/
def shownId (id : String) : String :=
  String.ofList (Text.escape id.toList)

def text (reference : PolicyReference) : String :=
  let id := shownId reference.id
  match reference.kind with
  | .policy => s!"policy `{id}`"
  | .policySet => s!"policy set `{id}`"

end PolicyReference

end Xacml
