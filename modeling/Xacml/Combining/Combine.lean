import Xacml.Combining.Tally

/-!
# Combining

Children are evaluated one by one in their order, and only while the decision is open.

* `Candidate` is a child whose evaluation waits until it is asked for,
* `Method.combine` combines children by a method.
-/

namespace Xacml

/-- A child whose evaluation waits until it is asked for.  A rule has an effect, a policy has
none. -/
structure Candidate (m : Type → Type) where
  evaluate : Unit → m Result
  applies : Unit → m (Except EvaluationError Bool)
  effect : Option Effect

section

variable {m : Type → Type} [Monad m]

/-! ## Overrides -/

/-- What the children so far have come to: a decision of the losing effect, and Indeterminate
decisions that allow the winning effect, the losing one, or either. -/
structure Seen where
  loser : Bool
  winnerError : Bool
  loserError : Bool
  eitherError : Bool
  deriving DecidableEq, Repr

namespace Seen

def nothing : Seen := ⟨false, false, false, false⟩

/-- Takes a decision that does not win into account. -/
def note (seen : Seen) (winner : Effect) : Decision → Seen
  | .indeterminate .either => { seen with eitherError := true }
  | .indeterminate extent =>
      if extent.allows winner then { seen with winnerError := true }
      else { seen with loserError := true }
  | .notApplicable => seen
  | _ => { seen with loser := true }

/-- The decision when no child has decided the winning effect. -/
def decision (seen : Seen) (winner : Effect) : Decision :=
  if seen.eitherError || (seen.winnerError && (seen.loserError || seen.loser)) then
    .indeterminate .either
  else if seen.winnerError then .indeterminate (.ofEffect winner)
  else if seen.loser then .ofEffect winner.opposite
  else if seen.loserError then .indeterminate (.ofEffect winner.opposite)
  else .notApplicable

end Seen

/-- One effect overrides the other: the first child that decides it settles the result. -/
def combineOverrides (winner : Effect) (tally : Tally) (seen : Seen) :
    List (Candidate m) → m Result
  | [] => pure (tally.finish (seen.decision winner))
  | child :: rest => do
      let result ← child.evaluate ()
      let tally := tally.record result
      if result.decision = .ofEffect winner then pure (tally.finish (.ofEffect winner))
      else combineOverrides winner tally (seen.note winner result.decision) rest

/-! ## Unless -/

/-- One effect holds unless a child decides the other. -/
def combineUnlessOpposed (fallback : Effect) (tally : Tally) : List (Candidate m) → m Result
  | [] => pure (tally.finish (.ofEffect fallback))
  | child :: rest => do
      let result ← child.evaluate ()
      let tally := tally.record result
      if result.decision = .ofEffect fallback.opposite then
        pure (tally.finish (.ofEffect fallback.opposite))
      else combineUnlessOpposed fallback tally rest

/-! ## Applicability -/

/-- The first child that is applicable decides. -/
def combineFirstApplicable : List (Candidate m) → m Result
  | [] => pure .notApplicable
  | child :: rest => do
      let result ← child.evaluate ()
      if result.decision = .notApplicable then combineFirstApplicable rest else pure result

/-- The only child whose target applies decides.  `found` is the applicable child so far. -/
def combineOnlyOneApplicable (found : Option (Candidate m)) : List (Candidate m) → m Result
  | [] =>
      match found with
      | some child => child.evaluate ()
      | none => pure .notApplicable
  | child :: rest => do
      match ← child.applies (), found with
      | .error error, _ => pure (.ofError .either error)
      | .ok false, found => combineOnlyOneApplicable found rest
      | .ok true, some _ => pure (.ofError .either (.of .ambiguous))
      | .ok true, none => combineOnlyOneApplicable (some child) rest

/-! ## Earlier overrides -/

/-- What the children so far have come to: a decision of the losing effect, an error, and an error
of a rule of the winning effect. -/
structure LegacySeen where
  loser : Bool
  error : Bool
  potentialWinner : Bool
  deriving DecidableEq, Repr

namespace LegacySeen

def nothing : LegacySeen := ⟨false, false, false⟩

/-- Takes the decision of a child of an effect into account; it does not win. -/
def note (seen : LegacySeen) (winner : Effect) (level : Level) (effect : Option Effect) :
    Decision → LegacySeen
  | .indeterminate _ =>
      let potential := level = .rules && effect = some winner
      { seen with error := true, potentialWinner := seen.potentialWinner || potential }
  | .notApplicable => seen
  | _ => { seen with loser := true }

/-- The decision when no child has decided the winning effect. -/
def decision (seen : LegacySeen) (winner : Effect) : Decision :=
  if seen.potentialWinner then .indeterminate .either
  else if seen.loser then .ofEffect winner.opposite
  else if seen.error then .indeterminate .either
  else .notApplicable

end LegacySeen

/-- Whether a decision settles the result: the winning effect does, and so does an error of a
policy where Deny wins, which counts as a Deny. -/
def settlesLegacy (winner : Effect) (level : Level) (decision : Decision) : Bool :=
  decision == .ofEffect winner ||
    (level == .policies && winner == .deny && decision.isIndeterminate)

/-- One effect overrides the other, as it did before Indeterminate decisions had details. -/
def combineLegacyOverrides (winner : Effect) (level : Level) (tally : Tally)
    (seen : LegacySeen) : List (Candidate m) → m Result
  | [] => pure (tally.finish (seen.decision winner))
  | child :: rest => do
      let result ← child.evaluate ()
      let tally := tally.record result
      if settlesLegacy winner level result.decision then pure (tally.finish (.ofEffect winner))
      else
        combineLegacyOverrides winner level tally
          (seen.note winner level child.effect result.decision) rest

/-! ## Methods -/

def Method.combine (method : Method) (children : List (Candidate m)) : m Result :=
  match method with
  | .overrides winner => combineOverrides winner .empty .nothing children
  | .unlessOpposed fallback => combineUnlessOpposed fallback .empty children
  | .firstApplicable => combineFirstApplicable children
  | .onlyOneApplicable => combineOnlyOneApplicable none children
  | .legacyOverrides winner level =>
      combineLegacyOverrides winner level .empty .nothing children

end

end Xacml
