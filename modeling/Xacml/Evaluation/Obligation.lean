import Xacml.Expr.Evaluation
import Xacml.Result.Basic

/-!
# Evaluating obligations

* `fulfil` evaluates the obligations or the advice that go with an effect,
* `attachObligations` adds them to a result; if they fail, the result is Indeterminate.
-/

namespace Xacml

section

variable {m : Type → Type} [Monad m]

/-- The assignments of an evaluated expression: one for each member of a bag. -/
def AssignmentExpr.assign (a : AssignmentExpr) (datum : Datum) : List Assignment :=
  let values := match datum with
    | .single value => [value]
    | .bag members => members.members
  values.map fun value => ⟨a.attributeId, a.category, a.issuer, value⟩

/-- Evaluates assignments in order, up to the first error. -/
def evaluateAssignments (facade : Facade m) (stack : Stack) :
    List AssignmentExpr → m (Except EvaluationError (List Assignment))
  | [] => pure (.ok [])
  | a :: rest => do
      match ← a.expr.evaluate facade (stack.enter .assignment) with
      | .error error => pure (.error error)
      | .ok datum => do
          return (← evaluateAssignments facade stack rest).map fun more => a.assign datum ++ more

/-- Evaluates those obligations that go with an effect, up to the first error. -/
def fulfil (facade : Facade m) (stack : Stack) (effect : Effect) :
    List ObligationExpr → m (Except EvaluationError (List Obligation))
  | [] => pure (.ok [])
  | o :: rest =>
      if o.fulfillOn = effect then do
        match ← evaluateAssignments facade stack o.assignments with
        | .error error => pure (.error error)
        | .ok assignments => do
            return (← fulfil facade stack effect rest).map fun more =>
              ⟨o.id, effect, assignments⟩ :: more
      else fulfil facade stack effect rest

/-- Evaluates the obligations and then the advice that go with an effect. -/
def fulfilBoth (facade : Facade m) (stack : Stack) (effect : Effect)
    (obligations advice : List ObligationExpr) :
    m (Except EvaluationError (List Obligation × List Obligation)) := do
  match ← fulfil facade stack effect obligations with
  | .error error => pure (.error error)
  | .ok done => do return (← fulfil facade stack effect advice).map fun more => (done, more)

/-- Adds obligations and advice to a Permit or a Deny, after those that it has.  If their
evaluation fails, the result is Indeterminate and keeps only the applicable policies. -/
def attachObligations (facade : Facade m) (stack : Stack)
    (obligations advice : List ObligationExpr) (result : Result) : m Result :=
  match result.decision.effect? with
  | none => pure result
  | some effect => do
      match ← fulfilBoth facade stack effect obligations advice with
      | .ok (done, more) =>
          pure
            { result with
              obligations := result.obligations ++ done
              advice := result.advice ++ more }
      | .error error =>
          pure
            { Result.ofError (.ofEffect effect) error with identifiers := result.identifiers }

end

end Xacml
