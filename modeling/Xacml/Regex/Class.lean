import Xacml.Text.Blank
import Xacml.Text.Letter
import Xacml.Text.Script

/-!
# Character classes

What one character of a text may be in a regular expression.

* `CharClass` is the type of classes,
* `CharClass.has` tells which characters belong to a class,
* `isWordChar` tells which characters make up words.
-/

namespace Xacml
namespace Regex

/-! ## Words -/

/-- Letters in circles and in squares, and the characters that join or separate letters. -/
def wordExtras : List (Nat × Nat) :=
  [ (0x200C, 0x200D), (0x24B6, 0x24E9), (0x1F130, 0x1F149), (0x1F150, 0x1F169)
  , (0x1F170, 0x1F189) ]

/-- Whether a character belongs to a word: letters, marks, digits, letter-like numbers and
connectors do. -/
def isWordChar (c : Char) : Bool :=
  match Text.Category.ofChar c with
  | .decimalNumber | .letterNumber | .connectorPunctuation => true
  | category => category.isLetter || category.isMark || Text.inRanges wordExtras c.toNat

/-- Whether an ASCII character belongs to a word. -/
def isAsciiWordChar (c : Char) : Bool :=
  c.isAlphanum || c = '_'

/-! ## Classes -/

inductive SetOp
  | intersection
  | difference
  | symmetricDifference
  deriving DecidableEq, Repr

/-- Whether a character belongs to the result of an operation, given whether it belongs to each of
the operands. -/
def SetOp.holds : SetOp → Bool → Bool → Bool
  | intersection, a, b => a && b
  | difference, a, b => a && !b
  | symmetricDifference, a, b => a != b

/-- What one character may be.  A class `script` has the characters that are assigned to a script,
and `scriptUse` those that are used with it. -/
inductive CharClass
  | range (first last : Nat)
  | word
  | asciiWord
  | digit
  | blank
  | categories (list : List Text.Category)
  | script (script : Text.Script)
  | scriptUse (script : Text.Script)
  | union (a b : CharClass)
  | combined (op : SetOp) (a b : CharClass)
  | negated (a : CharClass)
  | caseless (a : CharClass)
  | asciiCaseless (a : CharClass)
  deriving DecidableEq, Repr

namespace CharClass

def none : CharClass := range 1 0

def any : CharClass := range 0 0x10FFFF

def only (c : Char) : CharClass := range c.toNat c.toNat

def ofRanges (ranges : List (Nat × Nat)) : CharClass :=
  ranges.foldr (fun r rest => union (range r.1 r.2) rest) none

/-- The class of the characters in either of two classes. -/
def unionAll (classes : List CharClass) : CharClass :=
  classes.foldr union none

/-- The characters that differ from an ASCII character in case only. -/
def asciiVariants (c : Char) : List Char :=
  [c, c.toLower, c.toUpper]

def has : CharClass → Char → Bool
  | range first last, c => decide (first ≤ c.toNat) && decide (c.toNat ≤ last)
  | word, c => isWordChar c
  | asciiWord, c => isAsciiWordChar c
  | digit, c => decide (Text.Category.ofChar c = .decimalNumber)
  | blank, c => Text.isBlank c
  | categories list, c => list.contains (Text.Category.ofChar c)
  | script s, c => decide (Text.Script.ofChar c = s)
  | scriptUse s, c => (Text.Script.extensions c).contains s
  | union a b, c => a.has c || b.has c
  | combined op a b, c => op.holds (a.has c) (b.has c)
  | negated a, c => !a.has c
  | caseless a, c => (Text.variants c).any a.has
  | asciiCaseless a, c => (asciiVariants c).any a.has

/-! ## Named classes -/

/-- The ranges of a class that is named between `[:` and `:]`. -/
def namedRanges? : String → Option (List (Nat × Nat))
  | "alnum" => some [(48, 57), (65, 90), (97, 122)]
  | "alpha" => some [(65, 90), (97, 122)]
  | "ascii" => some [(0, 127)]
  | "blank" => some [(9, 9), (32, 32)]
  | "cntrl" => some [(0, 31), (127, 127)]
  | "digit" => some [(48, 57)]
  | "graph" => some [(33, 126)]
  | "lower" => some [(97, 122)]
  | "print" => some [(32, 126)]
  | "punct" => some [(33, 47), (58, 64), (91, 96), (123, 126)]
  | "space" => some [(9, 13), (32, 32)]
  | "upper" => some [(65, 90)]
  | "word" => some [(48, 57), (65, 90), (95, 95), (97, 122)]
  | "xdigit" => some [(48, 57), (65, 70), (97, 102)]
  | _ => Option.none

end CharClass

end Regex
end Xacml
