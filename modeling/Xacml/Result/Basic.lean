import Xacml.Evaluation.Error
import Xacml.Policy.Basic
import Xacml.Request.Basic

/-!
# Results

* `Result` is what an evaluation gives: a decision with its status, obligations and advice, and the
  policies that were applicable,
* `Response` collects the results of a request.
-/

namespace Xacml

/-! ## Parts of a result -/

/-- An attribute and its value, for whoever enforces the decision. -/
structure Assignment where
  attributeId : String
  category : Option String
  issuer : Option String
  value : Value
  deriving DecidableEq, Repr

/-- Something to be done, or to be considered, with a decision. -/
structure Obligation where
  id : String
  fulfillOn : Effect
  assignments : List Assignment
  deriving DecidableEq, Repr

/-- A policy or policy set that was applicable. -/
structure PolicyIdentifier where
  kind : PolicyKind
  id : String
  version : Version
  deriving DecidableEq, Repr

/-! ## Results -/

structure Result where
  decision : Decision
  status : Option Status
  obligations : List Obligation
  advice : List Obligation
  attributes : List Request.Category
  identifiers : List PolicyIdentifier
  deriving DecidableEq, Repr

namespace Result

def ofDecision (decision : Decision) : Result :=
  ⟨decision, none, [], [], [], []⟩

def notApplicable : Result := ofDecision .notApplicable

def ofError (extent : Extent) (error : EvaluationError) : Result :=
  { ofDecision (.indeterminate extent) with status := some error.status }

/-- The code of the status; there is none if all went well. -/
def statusCode (result : Result) : StatusCode :=
  match result.status with
  | some status => status.code
  | none => .ok

/-- The result without its obligations and advice. -/
def withoutObligations (result : Result) : Result :=
  { result with obligations := [], advice := [] }

end Result

/-- The answer to a request: one result for each individual request. -/
structure Response where
  results : List Result
  deriving DecidableEq, Repr

namespace Response

def single (result : Result) : Response := ⟨[result]⟩

/-- The decision of a response of one result. -/
def decision? (response : Response) : Option Decision :=
  match response.results with
  | [result] => some result.decision
  | _ => none

end Response

end Xacml
