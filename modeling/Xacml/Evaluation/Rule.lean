import Xacml.Combining.Combine
import Xacml.Evaluation.Obligation
import Xacml.Target.Matching

/-!
# Evaluating rules

A rule has its effect if its target and its condition hold.  An error makes the result
Indeterminate, with no other effect than that of the rule in view.
-/

namespace Xacml

section

variable {m : Type → Type} [Monad m]

namespace Rule

def targetApplies (facade : Facade m) (rule : Rule) : m (Except EvaluationError Bool) :=
  match rule.target with
  | none => pure (.ok true)
  | some target => do return (← target.evaluate facade).applies

def conditionHolds (facade : Facade m) (stack : Stack) (rule : Rule) :
    m (Except EvaluationError Bool) :=
  match rule.condition with
  | none => pure (.ok true)
  | some condition => do
      return (← condition.evaluate facade (stack.enter .condition)).bind Datum.asBool

/-- Whether a rule applies: its condition is evaluated only if its target applies. -/
def applies (facade : Facade m) (stack : Stack) (rule : Rule) :
    m (Except EvaluationError Bool) := do
  match ← rule.targetApplies facade with
  | .ok true => rule.conditionHolds facade stack
  | outcome => pure outcome

def evaluate (facade : Facade m) (stack : Stack) (rule : Rule) : m Result := do
  match ← rule.applies facade stack with
  | .ok true =>
      attachObligations facade stack rule.obligations rule.advice
        (.ofDecision (.ofEffect rule.effect))
  | .ok false => pure .notApplicable
  | .error error => pure (.ofError (.ofEffect rule.effect) error)

def candidate (facade : Facade m) (stack : Stack) (rule : Rule) : Candidate m where
  evaluate := fun _ => rule.evaluate facade stack
  applies := fun _ => rule.targetApplies facade
  effect := some rule.effect

end Rule

end

end Xacml
