import Xacml.Double.Shortest

/-!
# Lexical forms of doubles

* `Double.read` reads a decimal or scientific number, `INF`, `-INF` or `NaN`,
* `Double.write` writes the shortest form that reads back the same,
* `Double.writePlain` writes a number without an exponent, whatever its size.
-/

namespace Xacml
namespace Double

/-! ## Reading -/

inductive Fault
  | empty
  | letters
  | malformed
  deriving DecidableEq, Repr

/-- The nearest number to `digits · 10 ^ power`.  A number of very large or very small magnitude
is decided by its order of magnitude alone. -/
def ofDecimal (negative : Bool) (digits : List Char) (power : Int) : Double :=
  let significant := digits.dropWhile (· == '0')
  let magnitude := Nat.ofDigitChars 10 significant 0
  let order := (significant.length : Int) + power
  if magnitude = 0 || order < -400 then zero
  else if 400 < order then .infinity negative
  else
    let numerator : Int := magnitude * Nat.pow 10 power.toNat
    ofRatio (if negative then -numerator else numerator) (Nat.pow 10 (-power).toNat)

def readExponent? : List Char → Option Int
  | [] => some 0
  | c :: rest =>
      if c = 'e' || c = 'E' then
        match rest with
        | '-' :: digits =>
            if digits.isEmpty || !digits.all Char.isDigit then none
            else some (-(Nat.ofDigitChars 10 digits 0 : Int))
        | '+' :: digits =>
            if digits.isEmpty || !digits.all Char.isDigit then none
            else some (Nat.ofDigitChars 10 digits 0)
        | digits =>
            if digits.isEmpty || !digits.all Char.isDigit then none
            else some (Nat.ofDigitChars 10 digits 0)
      else none

/-- The digits after the point, if there is one, and the text after them. -/
def readFraction : List Char → List Char × List Char
  | '.' :: rest => (rest.takeWhile Char.isDigit, rest.dropWhile Char.isDigit)
  | text => ([], text)

def readUnsigned? (negative : Bool) (text : List Char) : Option Double :=
  let whole := text.takeWhile Char.isDigit
  let (fraction, rest) := readFraction (text.dropWhile Char.isDigit)
  if whole.isEmpty && fraction.isEmpty then none
  else
    (readExponent? rest).map fun exponent =>
      ofDecimal negative (whole ++ fraction) (exponent - fraction.length)

def readSigned? : List Char → Option Double
  | '+' :: rest => readUnsigned? false rest
  | '-' :: rest => readUnsigned? true rest
  | text => readUnsigned? false text

def read (text : List Char) : Except Fault Double :=
  if text = ['I', 'N', 'F'] || text = ['+', 'I', 'N', 'F'] then .ok (.infinity false)
  else if text = ['-', 'I', 'N', 'F'] then .ok (.infinity true)
  else if text = ['N', 'a', 'N'] then .ok .nan
  else if text.any fun c => c.isAlpha && c != 'e' && c != 'E' then .error .letters
  else if text.isEmpty then .error .empty
  else
    match readSigned? text with
    | some x => .ok x
    | none => .error .malformed

/-! ## Writing -/

/-- Whether a decimal is written without an exponent: magnitudes from `0.0001` up to, but not
including, `1e16`. -/
def isPlain (decimal : Decimal) : Bool :=
  let position : Int := (Text.decimal decimal.digits).length + decimal.power
  position ≤ 16 && position > -4

def signed (significand : Int) (text : List Char) : List Char :=
  if significand < 0 then '-' :: text else text

/-- The shortest text that reads back as the number. -/
def write : Double → List Char
  | nan => ['N', 'a', 'N']
  | infinity false => ['I', 'N', 'F']
  | infinity true => ['-', 'I', 'N', 'F']
  | finite significand exponent =>
      if significand = 0 then ['0', '.', '0']
      else
        let decimal := shortest significand.natAbs exponent
        signed significand
          (if isPlain decimal then decimal.plain true else decimal.scientific)

/-- The shortest digits of the number, without an exponent. -/
def writePlain : Double → List Char
  | nan => ['N', 'a', 'N']
  | infinity false => ['i', 'n', 'f']
  | infinity true => ['-', 'i', 'n', 'f']
  | finite significand exponent =>
      if significand = 0 then ['0']
      else signed significand ((shortest significand.natAbs exponent).plain false)

end Double
end Xacml
