import Xacml.Result.Basic

/-!
# Exit codes

What the program tells its caller by its exit code.
-/

namespace Xacml

/-- What the program tells its caller. -/
inductive ExitCode
  | success
  | failure
  | denied
  | undecided
  | misused
  deriving DecidableEq, Repr

def ExitCode.number : ExitCode → Nat
  | success => 0
  | failure => 1
  | denied | misused => 2
  | undecided => 3

/-- The exit code for a response: success if it holds a Permit for each request, and a denial if it
holds a Permit or a Deny for each. -/
def Response.exitCode (response : Response) : ExitCode :=
  let decisions := response.results.map Result.decision
  if decisions.isEmpty then .undecided
  else if decisions.all fun d => d = .permit then .success
  else if decisions.all fun d => d.effect?.isSome then .denied
  else .undecided

end Xacml
