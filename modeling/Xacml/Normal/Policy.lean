import Xacml.Document.Policy
import Xacml.Normal.Target
import Xacml.Policy.Source

/-!
# Normal forms of policies

The normal form of a document gives the version and the edition of every policy, leaves out targets
that hold for every request, and writes each literal canonically.

* `PolicyTree.written` is the written form of a tree,
* `PolicySnapshot.written` is the written form of a collection of policies.
-/

namespace Xacml

/-! ## Rules -/

def AssignmentExpr.written (a : AssignmentExpr) : Document.Assignment :=
  ⟨a.attributeId, a.category, a.issuer, a.expr.written⟩

def ObligationExpr.written (o : ObligationExpr) : Document.Obligation :=
  ⟨o.id, o.fulfillOn, o.assignments.map AssignmentExpr.written⟩

def Rule.written (rule : Rule) : Document.Rule where
  ruleId := rule.id
  effect := rule.effect
  description := rule.description
  target := rule.target.bind Target.written?
  condition := rule.condition.map Expr.written
  obligations := rule.obligations.map ObligationExpr.written
  advice := rule.advice.map ObligationExpr.written

/-! ## Parameters -/

def CombinerParameter.written (parameter : CombinerParameter) : Document.CombinerParameter :=
  ⟨parameter.name, .ofValue parameter.value⟩

/-- The written parameters about a child, if there are any. -/
def Child.writtenParameters? {α : Type} (id : α → String) (child : Child α) :
    Option Document.ChildParameters :=
  if child.parameters.isEmpty then none
  else some ⟨id child.element, child.parameters.map CombinerParameter.written⟩

/-! ## Policies -/

/-- The written form of a header, with the parameters about the children. -/
def PolicyHeader.written (header : PolicyHeader) (children : List Document.ChildParameters) :
    Document.Header where
  id := header.id
  version := some header.version.write
  xacmlVersion := some header.schema.text
  description := header.description
  target := header.target.written?
  combiningAlgorithm := header.algorithm.id
  combinerParameters := header.parameters.map CombinerParameter.written
  childParameters := children
  obligations := header.obligations.map ObligationExpr.written
  advice := header.advice.map ObligationExpr.written

def Policy.written (p : Policy) : Document.Policy where
  header := p.header.written (p.rules.filterMap (Child.writtenParameters? Rule.id))
  definitions := p.definitions.map VariableDefinition.written
  rules := p.rules.map fun child => child.element.written

def PolicyReference.written (reference : PolicyReference) : Document.Node :=
  let constraints := reference.constraints
  let form : Document.Reference :=
    { id := reference.id
      version := constraints.version.map VersionPattern.write
      earliestVersion := constraints.earliest.map VersionPattern.write
      latestVersion := constraints.latest.map VersionPattern.write }
  match reference.kind with
  | .policy => .policyIdReference form
  | .policySet => .policySetIdReference form

namespace PolicyTree

mutual

def written : PolicyTree → Document.Node
  | policy p => .policy p.written
  | policySet header children =>
      .policySet
        (header.written (children.filterMap (Child.writtenParameters? id)))
        (writtenAll children)
  | reference target => target.written

def writtenAll : List (Child PolicyTree) → List Document.Node
  | [] => []
  | ⟨tree, _⟩ :: rest => written tree :: writtenAll rest

end

end PolicyTree

/-- The written form of a collection of policies. -/
def PolicySnapshot.written (snapshot : PolicySnapshot) : Document :=
  ⟨snapshot.roots.map PolicyTree.written, snapshot.library.map PolicyTree.written⟩

end Xacml
