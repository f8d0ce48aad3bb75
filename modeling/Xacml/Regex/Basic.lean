import Xacml.Regex.Class

/-!
# Regular expressions

* `Regex` is the type of expressions over characters,
* `Regex.Assertion.holds` tells whether a condition on a place holds there.
-/

namespace Xacml

/-! ## Expressions -/

/-- Conditions on a place in the text. -/
inductive Regex.Assertion
  | textStart
  | textEnd
  | lineStart
  | lineEnd
  | crlfLineStart
  | crlfLineEnd
  | boundary (ascii negated : Bool)
  | wordStart (ascii half : Bool)
  | wordEnd (ascii half : Bool)
  deriving DecidableEq, Repr

inductive Regex
  | empty
  | one (chars : Regex.CharClass)
  | here (assertion : Regex.Assertion)
  | seq (a b : Regex)
  | alt (a b : Regex)
  | times (a : Regex) (least : Nat) (most : Option Nat)
  deriving DecidableEq, Repr

namespace Regex

def seqAll (parts : List Regex) : Regex :=
  parts.foldr seq empty

/-! ## Assertions -/

def before? (text : Array Char) (place : Nat) : Option Char :=
  if place = 0 then none else text[place - 1]?

/-- Whether there is a character and it belongs to a word. -/
def inWord (ascii : Bool) : Option Char → Bool
  | some c => if ascii then isAsciiWordChar c else isWordChar c
  | none => false

/-- Whether an assertion holds at a place of a text. -/
def Assertion.holds (assertion : Assertion) (text : Array Char) (place : Nat) : Bool :=
  let previous := before? text place
  let next := text[place]?
  match assertion with
  | textStart => previous = none
  | textEnd => next = none
  | lineStart => previous = none || previous = some '\n'
  | lineEnd => next = none || next = some '\n'
  | crlfLineStart =>
      previous = none || previous = some '\n' || (previous = some '\r' && next ≠ some '\n')
  | crlfLineEnd =>
      next = none || next = some '\r' || (next = some '\n' && previous ≠ some '\r')
  | boundary ascii negated => (inWord ascii previous != inWord ascii next) != negated
  | wordStart ascii half => !inWord ascii previous && (half || inWord ascii next)
  | wordEnd ascii half => !inWord ascii next && (half || inWord ascii previous)

end Regex

end Xacml
