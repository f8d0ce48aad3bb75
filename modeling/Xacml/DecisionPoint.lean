import Xacml.Config
import Xacml.Evaluation.Tree
import Xacml.Registry
import Xacml.Request.Document

/-!
# The decision point

A decision point answers requests from the policies of a source.

* `DecisionPoint.evaluate` answers a request: each individual request gets a result of its own,
  unless one combined decision is asked for,
* `combineResults` combines results,
* `DecisionPoint.evaluateText` answers a request in JSON.
-/

namespace Xacml

structure DecisionPoint (m : Type → Type) where
  registry : Registry
  config : Config
  source : PolicySource
  resolvers : List (Resolver m)
  stack : Stack

/-! ## Combined decisions -/

/-- Whether a result carries obligations or advice. -/
def Result.isBurdened (result : Result) : Bool :=
  !result.obligations.isEmpty || !result.advice.isEmpty

/-- The common decision of results without obligations and advice, else Indeterminate. -/
def commonResult (results : List Result) : Result :=
  match results, (results.map Result.decision).eraseDups with
  | first :: _, [.indeterminate _] => { first with attributes := [], identifiers := [] }
  | _, [decision] =>
      if results.any Result.isBurdened then .ofError .either (.of (.processing .notCombinable))
      else .ofDecision decision
  | _, _ => .ofError .either (.of (.processing .notCombinable))

/-- The combined result of individual ones, with their applicable policies if they are to be
listed. -/
def combineResults (listPolicies : Bool) (results : List Result) : Result :=
  let combined := commonResult results
  if listPolicies then
    { combined with identifiers := (results.flatMap Result.identifiers).eraseDups }
  else combined

/-! ## Answering requests -/

namespace DecisionPoint

variable {m : Type → Type} [Monad m]

/-- What individual requests are evaluated against at a time. -/
def evaluation (point : DecisionPoint m) (clock : Clock) (request : Request) : Evaluation m where
  facade := ⟨request, clock, point.resolvers⟩
  source := point.source
  maxDepth := point.config.maxReferenceDepth
  stack := point.stack

/-- The decision on an individual request by the root combining algorithm. -/
def decide (point : DecisionPoint m) (clock : Clock) (request : Request) : m Result :=
  let id := point.config.rootCombiningAlgorithm
  match point.registry.algorithms.find? .policies id with
  | none => pure (.ofError .either (.of (.processing (.unknownRootAlgorithm id))))
  | some algorithm =>
      match point.source.roots request with
      | .error error => pure (.ofError .either error)
      | .ok roots => (point.evaluation clock request).combineRoots algorithm roots

/-- Answers an individual request: echoes its attributes, and lists the applicable policies only if
they are asked for. -/
def evaluateIndividual (point : DecisionPoint m) (clock : Clock) (request : Request) :
    m Result := do
  let result ← point.decide clock request
  let identifiers := if request.returnPolicyIdList then result.identifiers else []
  return { result with attributes := request.echoed, identifiers }

/-- Answers individual requests in their order. -/
def evaluateEach (point : DecisionPoint m) (clock : Clock) : List Request → m (List Result)
  | [] => pure []
  | request :: rest => do
      let result ← point.evaluateIndividual clock request
      return result :: (← evaluateEach point clock rest)

def evaluate (point : DecisionPoint m) (clock : Clock) (request : Request) : m Response := do
  if request.hasRepeatedCategories && !point.config.enableMultipleDecisions then
    return .single (.ofError .either (.of (.processing .multipleDecisionsDisabled)))
  else
    let results ← point.evaluateEach clock request.individual
    if request.combinedDecision then
      return .single (combineResults request.returnPolicyIdList results)
    else return ⟨results⟩

/-- The response to a request that could not be read. -/
def refuse (reason : String) : Response :=
  .single (.ofError .either (.of (.malformed reason)))

def evaluateWritten (point : DecisionPoint m) (clock : Clock) (request : Document.Request) :
    m Response :=
  match request.load with
  | .ok request => point.evaluate clock request
  | .error error => pure (refuse error.message)

/-- What is reported for a text that is no request in JSON. -/
def notJson : String := "<json>"

def evaluateText (point : DecisionPoint m) (clock : Clock) (text : String) : m Response :=
  match Document.Request.read? text with
  | some request => point.evaluateWritten clock request
  | none => pure (refuse notJson)

end DecisionPoint

end Xacml
