import Xacml.Config
import Xacml.Document.Policy
import Xacml.Load.Target
import Xacml.Policy.Source
import Xacml.Registry

/-!
# Loading policies

* `Document.Rule.load` and `Document.Policy.load` load a rule and a policy,
* `Document.Node.load` loads a policy tree; a node without an edition has that of the policy set
  around it,
* `Document.load` loads a document.
-/

namespace Xacml
namespace Document

/-! ## Obligations -/

def loadAssignments (scope : Scope) : List Assignment → Loading (List AssignmentExpr)
  | [] => pure []
  | a :: rest => do
      let expr ← scope.loadExpr a.expr
      let rest ← loadAssignments scope rest
      return ⟨a.attributeId, a.category, a.issuer, expr⟩ :: rest

def loadObligations (scope : Scope) : List Obligation → Loading (List ObligationExpr)
  | [] => pure []
  | o :: rest => do
      let assignments ← loadAssignments scope o.assignments
      let rest ← loadObligations scope rest
      return ⟨o.id, o.fulfillOn, assignments⟩ :: rest

/-! ## Parameters -/

def loadParameters (list : List CombinerParameter) :
    Except LoadError (List Xacml.CombinerParameter) :=
  list.mapM fun parameter => do return ⟨parameter.parameterName, ← loadValue parameter.value⟩

/-- Refuses parameters about something that is no child. -/
def checkChildren (entries : List ChildParameters) (ids : List String) : Except LoadError Unit :=
  match entries.find? fun entry => !ids.contains entry.id with
  | some entry => .error (.unknownChild entry.id)
  | none => .ok ()

def parametersFor (entries : List ChildParameters) (id : String) :
    Except LoadError (List Xacml.CombinerParameter) := do
  let own := entries.filter fun entry => entry.id = id
  return (← own.mapM fun entry => loadParameters entry.parameters).flatten

/-! ## Rules -/

/-- A computation whose errors are placed inside a node. -/
def within {α : Type} (id : String) (computation : Loading α) : Loading α :=
  fun loaded => (computation loaded).mapError (.inside id)

/-- The condition that is written; it has to be boolean. -/
def loadCondition? (scope : Scope) (ruleId : String) :
    Option Expr → Loading (Option Xacml.Expr)
  | none => pure none
  | some written => do
      let condition ← scope.loadExpr written
      if condition.type? = some .boolean then return some condition
      else Loading.fail (.condition ruleId condition.type?)

/-- The rule that is written in a policy of an edition. -/
def Rule.load (scope : Scope) (schema : SchemaVersion) (rule : Rule) : Loading Xacml.Rule :=
  within rule.ruleId do
    let obligations ← loadObligations scope rule.obligations
    let advice ← loadObligations scope rule.advice
    let target ← Loading.ofExcept (loadTarget? scope.functions schema rule.target)
    let condition ← loadCondition? scope rule.ruleId rule.condition
    return ⟨rule.ruleId, rule.effect, rule.description, target, condition, obligations, advice⟩

/-- The rules that are written, with the parameters about each. -/
def loadRules (scope : Scope) (schema : SchemaVersion) (entries : List ChildParameters) :
    List Rule → Loading (List (Child Xacml.Rule))
  | [] => pure []
  | rule :: rest => do
      let element ← rule.load scope schema
      let parameters ← Loading.ofExcept (parametersFor entries rule.ruleId)
      let rest ← loadRules scope schema entries rest
      return ⟨element, parameters⟩ :: rest

/-! ## Headers -/

/-- The edition of a node: the declared one, else the inherited one. -/
def loadSchema (inherited : SchemaVersion) : Option String → Except LoadError SchemaVersion
  | none => .ok inherited
  | some text =>
      match SchemaVersion.read? text with
      | some schema => .ok schema
      | none => .error (.unknownSchema text)

def loadAlgorithm (algorithms : AlgorithmRegistry) (level : Level) (id : String) :
    Except LoadError Algorithm :=
  match algorithms.find? level id, level with
  | some algorithm, _ => .ok algorithm
  | none, .rules => .error (.unknownRuleAlgorithm id)
  | none, .policies => .error (.unknownPolicyAlgorithm id)

/-- The version that is written, else the initial one. -/
def loadVersion : Option String → Except LoadError Version
  | none => .ok .initial
  | some text => (Version.read text).mapError .version

/-- The header that is written, but for its obligations and advice. -/
def Header.load (functions : FunctionRegistry) (schema : SchemaVersion) (algorithm : Algorithm)
    (header : Header) : Except LoadError PolicyHeader := do
  let parameters ← loadParameters header.combinerParameters
  let version ← loadVersion header.version
  let target ← loadTarget? functions schema header.target
  return {
    id := header.id
    version := version
    schema := schema
    description := header.description
    target := target.getD .any
    algorithm := algorithm
    parameters := parameters
    obligations := []
    advice := [] }

/-! ## Policies -/

def checkVariables (definitions : List VariableDefinition) : Except LoadError Unit :=
  match Scope.duplicate? [] definitions with
  | some id => .error (.duplicateVariable id)
  | none => .ok ()

def Policy.load (registry : Registry) (inherited : SchemaVersion) (p : Policy) :
    Except LoadError Xacml.Policy :=
  let scope : Scope := ⟨registry.functions, p.definitions⟩
  let computation : Loading Xacml.Policy := within p.header.id do
    let schema ← Loading.ofExcept (loadSchema inherited p.header.xacmlVersion)
    let algorithm ← Loading.ofExcept
      (loadAlgorithm registry.algorithms .rules p.header.combiningAlgorithm)
    Loading.ofExcept (checkVariables p.definitions)
    let header ← Loading.ofExcept (p.header.load registry.functions schema algorithm)
    let definitions ← scope.loadVariables p.definitions
    Loading.ofExcept (checkChildren p.header.childParameters (p.rules.map Rule.ruleId))
    let rules ← loadRules scope schema p.header.childParameters p.rules
    let obligations ← loadObligations scope p.header.obligations
    let advice ← loadObligations scope p.header.advice
    return ⟨{ header with obligations := obligations, advice := advice }, definitions, rules⟩
  (computation []).map Prod.fst

def loadPattern? : Option String → Except LoadError (Option VersionPattern)
  | none => .ok none
  | some text => ((VersionPattern.read text).mapError .version).map some

def Reference.load (kind : PolicyKind) (r : Reference) : Except LoadError PolicyReference := do
  let version ← loadPattern? r.version
  let earliest ← loadPattern? r.earliestVersion
  let latest ← loadPattern? r.latestVersion
  return ⟨kind, r.id, ⟨version, earliest, latest⟩⟩

namespace Node

mutual

def load (registry : Registry) (inherited : SchemaVersion) : Node → Except LoadError PolicyTree
  | policy p => (p.load registry inherited).map .policy
  | policyIdReference r => (r.load .policy).map .reference
  | policySetIdReference r => (r.load .policySet).map .reference
  | policySet header children =>
      let scope : Scope := ⟨registry.functions, []⟩
      Except.mapError (.inside header.id) do
        let schema ← loadSchema inherited header.xacmlVersion
        let algorithm ←
          loadAlgorithm registry.algorithms .policies header.combiningAlgorithm
        let loaded ← header.load registry.functions schema algorithm
        checkChildren header.childParameters (children.map Node.id)
        let children ← loadChildren registry schema header.childParameters children
        let obligations ← (loadObligations scope header.obligations).run' []
        let advice ← (loadObligations scope header.advice).run' []
        return .policySet { loaded with obligations := obligations, advice := advice } children

/-- The children that are written, with the parameters about each. -/
def loadChildren (registry : Registry) (inherited : SchemaVersion)
    (entries : List ChildParameters) : List Node → Except LoadError (List (Child PolicyTree))
  | [] => .ok []
  | node :: rest => do
      let element ← load registry inherited node
      let parameters ← parametersFor entries node.id
      let rest ← loadChildren registry inherited entries rest
      return ⟨element, parameters⟩ :: rest

end

end Node

/-! ## Documents -/

def load (registry : Registry) (config : Config) (document : Document) :
    Except LoadError PolicySnapshot := do
  let roots ← document.policies.mapM (Node.load registry config.defaultSchema)
  let library ← document.library.mapM (Node.load registry config.defaultSchema)
  return ⟨roots, library⟩

end Document
end Xacml
