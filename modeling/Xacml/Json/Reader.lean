import Xacml.Json.Basic
import Xacml.Text.Numeral

/-!
# Reading JSON texts

`Json.read?` reads a text that holds one JSON value and nothing else.  Arrays and objects may nest
`Json.maxNesting` levels deep; a number that no 64-bit floating-point number reaches is refused, and
so are control characters in strings and surrogates that do not come in pairs.

* `readString` reads the rest of a string after its opening quotation mark,
* `readNumber` reads a number,
* `readValue`, `readItems` and `readMembers` read the nested values.
-/

namespace Xacml
namespace Json

/-! ## White space -/

/-- Whether a character may stand between the tokens of a JSON text. -/
def isSpace (c : Char) : Bool :=
  c == ' ' || c == '\n' || c == '\t' || c == '\r'

def skipSpace (text : List Char) : List Char :=
  text.dropWhile isSpace

/-! ## Strings -/

def hexUnit? (a b c d : Char) : Option Nat := do
  let a ← Text.hexDigit? a
  let b ← Text.hexDigit? b
  let c ← Text.hexDigit? c
  let d ← Text.hexDigit? d
  return ((a * 16 + b) * 16 + c) * 16 + d

/-- The character that a letter after a backslash stands for. -/
def simpleEscape? (c : Char) : Option Char :=
  match c with
  | '"' => some '"'
  | '\\' => some '\\'
  | '/' => some '/'
  | 'b' => some (Char.ofNat 8)
  | 'f' => some (Char.ofNat 12)
  | 'n' => some '\n'
  | 'r' => some '\r'
  | 't' => some '\t'
  | _ => none

/-- Whether a 16-bit unit is the first half of a surrogate pair. -/
def isHighSurrogate (unit : Nat) : Bool :=
  0xD800 ≤ unit && unit ≤ 0xDBFF

/-- Whether a 16-bit unit is the second half of a surrogate pair. -/
def isLowSurrogate (unit : Nat) : Bool :=
  0xDC00 ≤ unit && unit ≤ 0xDFFF

/-- The characters of a string up to its closing quotation mark, and the text after it.  `read`
holds the characters read so far, last one first. -/
def readString (read : List Char) : List Char → Option (List Char × List Char)
  | '"' :: rest => some (read.reverse, rest)
  | '\\' :: 'u' :: a :: b :: c :: d :: '\\' :: 'u' :: e :: f :: g :: h :: rest =>
      match hexUnit? a b c d with
      | none => none
      | some unit =>
          if isHighSurrogate unit then
            match hexUnit? e f g h with
            | none => none
            | some low =>
                if isLowSurrogate low then
                  let code := 0x10000 + (unit - 0xD800) * 0x400 + (low - 0xDC00)
                  readString (Char.ofNat code :: read) rest
                else none
          else if isLowSurrogate unit then none
          else readString (Char.ofNat unit :: read) ('\\' :: 'u' :: e :: f :: g :: h :: rest)
  | '\\' :: 'u' :: a :: b :: c :: d :: rest =>
      match hexUnit? a b c d with
      | none => none
      | some unit =>
          if isHighSurrogate unit || isLowSurrogate unit then none
          else readString (Char.ofNat unit :: read) rest
  | '\\' :: c :: rest =>
      match simpleEscape? c with
      | none => none
      | some escaped => readString (escaped :: read) rest
  | c :: rest => if c.toNat < 0x20 then none else readString (c :: read) rest
  | [] => none
  termination_by text => text.length

/-! ## Numbers -/

/-- The digits that a text starts with, and the text after them. -/
def spanDigits (text : List Char) : List Char × List Char :=
  (text.takeWhile Char.isDigit, text.dropWhile Char.isDigit)

/-- The digits of the whole part: a zero alone, or digits that do not start with one. -/
def readWholePart (text : List Char) : Option (List Char × List Char) :=
  match text with
  | '0' :: rest =>
      match rest with
      | c :: _ => if c.isDigit then none else some (['0'], rest)
      | [] => some (['0'], rest)
  | _ =>
      let (digits, rest) := spanDigits text
      if digits.isEmpty then none else some (digits, rest)

/-- The digits after the point, if there is one. -/
def readFraction (text : List Char) : Option (Option (List Char) × List Char) :=
  match text with
  | '.' :: rest =>
      let (digits, rest) := spanDigits rest
      if digits.isEmpty then none else some (some digits, rest)
  | _ => some (none, text)

/-- The sign of an exponent and the text after it. -/
def readExponentSign (text : List Char) : Bool × List Char :=
  match text with
  | '+' :: rest => (false, rest)
  | '-' :: rest => (true, rest)
  | _ => (false, text)

/-- The sign and the digits of the exponent, if there is one. -/
def readExponent (text : List Char) : Option (Option (Bool × List Char) × List Char) :=
  match text with
  | c :: rest =>
      if c = 'e' || c = 'E' then
        let (negative, rest) := readExponentSign rest
        let (digits, rest) := spanDigits rest
        if digits.isEmpty then none else some (some (negative, digits), rest)
      else some (none, text)
  | [] => some (none, text)

/-- Whether `digits` times the power of ten is below the least magnitude that rounds to no finite
64-bit floating-point number. -/
def isReachable (digits : List Char) (fractionLength : Nat) (exponent : Int) : Bool :=
  let significant := digits.dropWhile (· == '0')
  let mantissa := Nat.ofDigitChars 10 significant 0
  let scale := exponent - fractionLength
  if mantissa = 0 then true
  else if (significant.length : Int) + scale ≤ 308 then true
  else if 310 < (significant.length : Int) + scale then false
  else
    -- The magnitude is close to the limit, so that both sides are numbers of bounded size.
    let limit := Nat.pow 2 1024 - Nat.pow 2 970
    if 0 ≤ scale then mantissa * Nat.pow 10 scale.toNat < limit
    else mantissa < limit * Nat.pow 10 (-scale).toNat

def exponentValue : Option (Bool × List Char) → Int
  | none => 0
  | some (negative, digits) =>
      let magnitude : Int := Nat.ofDigitChars 10 digits 0
      if negative then -magnitude else magnitude

def number? (negative : Bool) (whole : List Char) (fraction : Option (List Char))
    (exponent : Option (Bool × List Char)) (text : List Char) : Option Number :=
  let value := Nat.ofDigitChars 10 whole 0
  let isWhole := fraction.isNone && exponent.isNone
  if isWhole && negative && 0 < value && value ≤ Nat.pow 2 63 then some (.whole (-(value : Int)))
  else if isWhole && !negative && value < Nat.pow 2 64 then some (.whole value)
  else
    let digits := fraction.getD []
    if isReachable (whole ++ digits) digits.length (exponentValue exponent) then
      some (.written (String.ofList text))
    else none

/-- The number that a text starts with, after its sign. -/
def readUnsigned (negative : Bool) (text : List Char) : Option (Number × List Char) := do
  let (whole, rest) ← readWholePart text
  let (fraction, rest) ← readFraction rest
  let (exponent, rest) ← readExponent rest
  let written := text.take (text.length - rest.length)
  let signed := if negative then '-' :: written else written
  let n ← number? negative whole fraction exponent signed
  return (n, rest)

def readNumber (text : List Char) : Option (Number × List Char) :=
  match text with
  | '-' :: rest => readUnsigned true rest
  | _ => readUnsigned false text

/-! ## Values -/

def maxNesting : Nat := 127

/-- A value without parts that a text starts with. -/
def readScalar (text : List Char) : Option (Json × List Char) :=
  match text with
  | 'n' :: 'u' :: 'l' :: 'l' :: rest => some (.null, rest)
  | 't' :: 'r' :: 'u' :: 'e' :: rest => some (.bool true, rest)
  | 'f' :: 'a' :: 'l' :: 's' :: 'e' :: rest => some (.bool false, rest)
  | '"' :: rest => (readString [] rest).map fun (s, rest) => (.string (String.ofList s), rest)
  | _ => (readNumber text).map fun (n, rest) => (.number n, rest)

mutual

/-- The value that a text starts with, in which arrays and objects nest at most `levels` deep.
Every value and every item of an array or object uses up one step. -/
def readValue (steps levels : Nat) (text : List Char) : Option (Json × List Char) :=
  match steps with
  | 0 => none
  | steps + 1 =>
      match skipSpace text with
      | '[' :: rest =>
          match levels with
          | 0 => none
          | levels + 1 =>
              match skipSpace rest with
              | ']' :: rest => some (.array [], rest)
              | rest => (readItems steps levels rest).map fun (items, rest) => (.array items, rest)
      | '{' :: rest =>
          match levels with
          | 0 => none
          | levels + 1 =>
              match skipSpace rest with
              | '}' :: rest => some (.object [], rest)
              | rest =>
                  (readMembers steps levels rest).map fun (members, rest) =>
                    (.object members, rest)
      | rest => readScalar rest

/-- The items of an array up to its closing bracket. -/
def readItems (steps levels : Nat) (text : List Char) : Option (List Json × List Char) :=
  match steps with
  | 0 => none
  | steps + 1 =>
      match readValue steps levels text with
      | none => none
      | some (item, rest) =>
          match skipSpace rest with
          | ']' :: rest => some ([item], rest)
          | ',' :: rest =>
              (readItems steps levels rest).map fun (items, rest) => (item :: items, rest)
          | _ => none

/-- The members of an object up to its closing brace. -/
def readMembers (steps levels : Nat) (text : List Char) :
    Option (List (String × Json) × List Char) :=
  match steps with
  | 0 => none
  | steps + 1 =>
      match skipSpace text with
      | '"' :: rest =>
          match readString [] rest with
          | none => none
          | some (name, rest) =>
              match skipSpace rest with
              | ':' :: rest =>
                  match readValue steps levels rest with
                  | none => none
                  | some (value, rest) =>
                      let member := (String.ofList name, value)
                      match skipSpace rest with
                      | '}' :: rest => some ([member], rest)
                      | ',' :: rest =>
                          (readMembers steps levels rest).map fun (members, rest) =>
                            (member :: members, rest)
                      | _ => none
              | _ => none
      | _ => none

end

/-- The value of a text that holds one JSON value and nothing else. -/
def readChars? (text : List Char) : Option Json :=
  match readValue (2 * text.length + 1) maxNesting text with
  | some (json, rest) => if (skipSpace rest).isEmpty then some json else none
  | none => none

/-- The value of a text that holds one JSON value and nothing else. -/
def read? (text : String) : Option Json :=
  readChars? text.toList

end Json
end Xacml
