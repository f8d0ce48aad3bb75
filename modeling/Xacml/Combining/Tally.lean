import Xacml.Result.Basic

/-!
# Tallies

A tally keeps what the children of a policy contribute while they are combined.

* `Tally.record` takes the result of a child into account,
* `Tally.finish` makes the combined result, and `Tally.fail` the result of an error.
-/

namespace Xacml

/-- Obligations and advice of the children with one decision. -/
structure Contribution where
  obligations : List Obligation
  advice : List Obligation
  deriving DecidableEq, Repr

namespace Contribution

def none : Contribution := ⟨[], []⟩

/-- Adds the obligations and the advice of a result. -/
def add (contribution : Contribution) (result : Result) : Contribution :=
  ⟨contribution.obligations ++ result.obligations, contribution.advice ++ result.advice⟩

end Contribution

/-- What children contribute: the obligations and advice of each Permit and each Deny, the status
of the first Indeterminate, and the policies that were applicable. -/
structure Tally where
  permit : Contribution
  deny : Contribution
  status : Option Status
  identifiers : List PolicyIdentifier
  deriving DecidableEq, Repr

namespace Tally

def empty : Tally := ⟨.none, .none, none, []⟩

/-- The status of an Indeterminate result when no child gave one. -/
def unknownStatus : Status :=
  ⟨.processingError, some "indeterminate child", []⟩

/-- Takes the result of a child into account. -/
def record (tally : Tally) (result : Result) : Tally :=
  match result.decision with
  | .notApplicable => tally
  | .permit =>
      { tally with
        permit := tally.permit.add result
        identifiers := tally.identifiers ++ result.identifiers }
  | .deny =>
      { tally with
        deny := tally.deny.add result
        identifiers := tally.identifiers ++ result.identifiers }
  | .indeterminate _ =>
      { tally with
        status := tally.status.or result.status
        identifiers := tally.identifiers ++ result.identifiers }

/-- The combined result.  A Permit or a Deny carries what the children with that decision
contributed, an Indeterminate the status of the first Indeterminate child. -/
def finish (tally : Tally) (decision : Decision) : Result :=
  let result := { Result.ofDecision decision with identifiers := tally.identifiers }
  match decision with
  | .permit =>
      { result with obligations := tally.permit.obligations, advice := tally.permit.advice }
  | .deny => { result with obligations := tally.deny.obligations, advice := tally.deny.advice }
  | .indeterminate _ => { result with status := some (tally.status.getD unknownStatus) }
  | .notApplicable => result

/-- The result of an error, with the policies that were applicable so far. -/
def fail (tally : Tally) (extent : Extent) (error : EvaluationError) : Result :=
  { Result.ofError extent error with identifiers := tally.identifiers }

end Tally

end Xacml
