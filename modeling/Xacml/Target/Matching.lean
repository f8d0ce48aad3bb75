import Xacml.Attribute.Facade
import Xacml.Target.Basic

/-!
# Matching targets

Matching a target has three outcomes.  In the current layout a part that does not match outranks
an error in another part; in the earlier layout the first part that does not match decides.

* `MatchResult` is the outcome, with the literals of the matches that held,
* `Target.evaluate` matches a target.
-/

namespace Xacml

/-! ## Outcomes -/

inductive MatchResult
  | holds (literals : List Value)
  | fails
  | indeterminate (error : EvaluationError)
  deriving DecidableEq, Repr

namespace MatchResult

/-- Whether the target applies, unless there was an error. -/
def applies : MatchResult → Except EvaluationError Bool
  | holds _ => .ok true
  | fails => .ok false
  | indeterminate error => .error error

/-- The first error if there is one, else the other outcome. -/
def orError (error : Option EvaluationError) (outcome : MatchResult) : MatchResult :=
  match error with
  | some error => indeterminate error
  | none => outcome

end MatchResult

/-! ## Combinations -/

section

variable {m : Type → Type} [Monad m] {α : Type}

/-- Tries alternatives until one matches.  If none does, the first error is the outcome. -/
def firstMatching (evaluate : α → m MatchResult) (error : Option EvaluationError) :
    List α → m MatchResult
  | [] => pure (.orError error .fails)
  | alternative :: rest => do
      match ← evaluate alternative with
      | .holds literals => pure (.holds literals)
      | .fails => firstMatching evaluate error rest
      | .indeterminate e => firstMatching evaluate (error.or (some e)) rest

/-- Tries conjuncts until one does not match.  If there is none, the first error is the
outcome. -/
def allMatching (evaluate : α → m MatchResult) (literals : List Value)
    (error : Option EvaluationError) : List α → m MatchResult
  | [] => pure (.orError error (.holds literals))
  | conjunct :: rest => do
      match ← evaluate conjunct with
      | .holds more => allMatching evaluate (literals ++ more) error rest
      | .fails => pure .fails
      | .indeterminate e => allMatching evaluate literals (error.or (some e)) rest

/-- Tries conjuncts until one does not match or fails. -/
def eachMatching (evaluate : α → m MatchResult) (literals : List Value) :
    List α → m MatchResult
  | [] => pure (.holds literals)
  | conjunct :: rest => do
      match ← evaluate conjunct with
      | .holds more => eachMatching evaluate (literals ++ more) rest
      | outcome => pure outcome

/-! ## Matches and targets -/

namespace Match

/-- Whether the function of a match holds of its literal and a value. -/
def holdsOf (mt : Match) (value : Value) : Except EvaluationError Bool :=
  mt.function.holds [.single mt.value, .single value]

/-- The outcome of a match on values: it holds if it does for one of them.  If it does for none,
the first error is the outcome. -/
def compare (mt : Match) (error : Option EvaluationError) : List Value → MatchResult
  | [] => .orError error .fails
  | value :: rest =>
      match mt.holdsOf value with
      | .ok true => .holds [mt.value]
      | .ok false => mt.compare error rest
      | .error e => mt.compare (error.or (some e)) rest

def evaluate (facade : Facade m) (mt : Match) : m MatchResult := do
  match ← facade.look mt.lookup with
  | .ok bag => pure (mt.compare none bag.members)
  | .error error => pure (.indeterminate error)

end Match

/-- Evaluates a conjunction of the current layout. -/
def AllOf.evaluate (facade : Facade m) (group : AllOf) : m MatchResult :=
  allMatching (Match.evaluate facade) [] none group.conjuncts

/-- Evaluates a disjunction of the current layout. -/
def AnyOf.evaluate (facade : Facade m) (group : AnyOf) : m MatchResult :=
  firstMatching (AllOf.evaluate facade) none group.disjuncts

/-- Evaluates an alternative of the earlier layout. -/
def AllOf.evaluateLegacy (facade : Facade m) (group : AllOf) : m MatchResult :=
  eachMatching (Match.evaluate facade) [] group.conjuncts

/-- Evaluates a target of the earlier layout; sections without alternatives are passed over. -/
def LegacyTarget.evaluate (facade : Facade m) (target : LegacyTarget) : m MatchResult :=
  eachMatching (firstMatching (AllOf.evaluateLegacy facade) none) []
    (target.sections.filter fun groups => !groups.isEmpty)

def Target.evaluate (facade : Facade m) (target : Target) : m MatchResult :=
  if target.matchesAny then pure (.holds [])
  else
    match target with
    | .legacy sections => sections.evaluate facade
    | .anyOf conjuncts => allMatching (AnyOf.evaluate facade) [] none conjuncts

end

end Xacml
