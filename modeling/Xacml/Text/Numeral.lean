/-!
# Decimal numerals

Reading and writing of whole numbers.

* `digitsWithin` reads a run of digits whose value may not pass a limit,
* `natural?` and `unsigned?` read a number without and with an optional plus sign,
* `decimal` and `decimalInt` write a number with as few digits as possible.
-/

namespace Xacml
namespace Text

/-! ## Reading -/

/-- Why a numeral was refused: a character is no digit, or the value passes the limit. -/
inductive NumeralFault
  | notDigit
  | beyond
  deriving DecidableEq, Repr

def digit? (c : Char) : Option Nat :=
  if c.isDigit then some (c.toNat - '0'.toNat) else none

def hexDigit? (c : Char) : Option Nat :=
  if '0' ≤ c && c ≤ '9' then some (c.toNat - '0'.toNat)
  else if 'a' ≤ c && c ≤ 'f' then some (c.toNat - 'a'.toNat + 10)
  else if 'A' ≤ c && c ≤ 'F' then some (c.toNat - 'A'.toNat + 10)
  else none

/-- The value of the digits after those read so far, whose value is `value`.  The first character
that is no digit or takes the value over the limit decides the fault. -/
def digitsWithin (limit value : Nat) : List Char → Except NumeralFault Nat
  | [] => .ok value
  | c :: rest =>
      match digit? c with
      | none => .error .notDigit
      | some d =>
          if 10 * value + d ≤ limit then digitsWithin limit (10 * value + d) rest
          else .error .beyond

/-- The value of one or more digits, if it is at most `limit`. -/
def natural? (limit : Nat) (text : List Char) : Option Nat :=
  if text.isEmpty then none else (digitsWithin limit 0 text).toOption

/-- The value of one or more digits after an optional plus sign, if it is at most `limit`. -/
def unsigned? (limit : Nat) : List Char → Option Nat
  | '+' :: rest => natural? limit rest
  | text => natural? limit text

/-- The value of one or more digits after an optional sign, if its magnitude is at most
`limit`. -/
def signed? (limit : Nat) : List Char → Option Int
  | '+' :: rest => (natural? limit rest).map Int.ofNat
  | '-' :: rest => (natural? limit rest).map fun n => -(n : Int)
  | text => (natural? limit text).map Int.ofNat

/-! ## Writing -/

def decimal (n : Nat) : List Char :=
  Nat.toDigits 10 n

/-- The number in decimal digits, after a minus sign if it is negative. -/
def decimalInt (n : Int) : List Char :=
  if n < 0 then '-' :: decimal n.natAbs else decimal n.natAbs

/-- The text with zeros in front to the given width. -/
def padZeros (width : Nat) (text : List Char) : List Char :=
  List.replicate (width - text.length) '0' ++ text

end Text
end Xacml
