import Xacml.Regex.Basic
import Xacml.Regex.Places

/-!
# Matching

* `Walk` is an expression laid over one text: its leaves know at which places they apply,
* `Walk.ends` gives the places where the texts end that a walk matches from a set of places on,
* `Regex.occursIn` tells whether an expression matches anywhere in a text.

Whether an expression matches depends only on the set of places that can be reached, so the order
in which a search would try them is left out.
-/

namespace Xacml
namespace Regex

/-! ## Walks -/

/-- How an expression moves along a text. -/
inductive Walk
  | forward (places : Places)
  | stay (places : Places)
  | seq (a b : Walk)
  | alt (a b : Walk)
  | times (a : Walk) (least most : Nat)
  deriving DecidableEq, Repr

/-- The places reached in exactly `n` steps. -/
def afterSteps (step : Places → Places) : Nat → Places → Places
  | 0, places => places
  | n + 1, places => afterSteps step n (step places)

/-- The places reached in at most `n` steps more, where `fresh` are those reached by the last
step: only from them can a step lead to a new place. -/
def withinSteps (step : Places → Places) : Nat → Places → Places → Places
  | 0, _, reached => reached
  | n + 1, fresh, reached =>
      -- Places reached before were stepped from before.
      let found := (step fresh).without reached
      if found.isEmpty then reached else withinSteps step n found (reached.union found)

/-- The places where a walk ends that begins at one of the given places. -/
def Walk.ends : Walk → Places → Places
  | forward places, starts => (starts.inter places).further
  | stay places, starts => starts.inter places
  | seq a b, starts => b.ends (a.ends starts)
  | alt a b, starts => (a.ends starts).union (b.ends starts)
  | times a least most, starts =>
      let reached := afterSteps a.ends least starts
      withinSteps a.ends (most - least) reached reached

/-! ## Expressions over a text -/

/-- Lays an expression over a text.  A repetition is followed for at most one step more than the
text has characters: a longer one has steps that do not move, and leads nowhere else. -/
def walk (text : Array Char) : Regex → Walk
  | empty => .stay (.ofTest (fun _ => true) (text.size + 1))
  | one chars => .forward (.ofTest (fun place => text[place]?.any chars.has) text.size)
  | here assertion => .stay (.ofTest (assertion.holds text) (text.size + 1))
  | seq a b => .seq (walk text a) (walk text b)
  | alt a b => .alt (walk text a) (walk text b)
  | times a least most =>
      let bound := text.size + 1
      let first := min least bound
      .times (walk text a) first (first + most.elim bound fun most => min (most - least) bound)

/-- Whether an expression matches some part of a text. -/
def occursIn (regex : Regex) (text : String) : Bool :=
  let chars := text.toList.toArray
  -- A match may begin at any place, so all of them are starts at once.
  let everywhere := Places.ofTest (fun _ => true) (chars.size + 1)
  !((regex.walk chars).ends everywhere).isEmpty

end Regex
end Xacml
