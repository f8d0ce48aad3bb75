import Xacml.Text.Numeral

/-!
# Integers

Integers of 64 bits.  Every operation is exact or fails; nothing wraps.

* `Integer.checked` is the integer of a mathematical value that is small enough,
* `Integer.add?`, `sub?`, `mul?`, `div?`, `mod?`, `abs?` are the operations,
* `Integer.read` and `Integer.write` are the reader and the writer.
-/

namespace Xacml
namespace Integer

/-! ## Range -/

/-- The integer with the given value, if 64 bits hold it. -/
def checked (n : Int) : Option Int64 :=
  if -(Nat.pow 2 63) ≤ n ∧ n < Nat.pow 2 63 then some (Int64.ofInt n) else none

/-- An integer that passes the check has the value that was checked. -/
theorem toInt_of_checked {n : Int} {r : Int64} (h : checked n = some r) : r.toInt = n := by
  unfold checked at h
  split at h
  · rename_i hn
    cases h
    exact Int64.toInt_ofInt_of_le (by simpa using hn.1) (by simpa using hn.2)
  · cases h

/-! ## Arithmetic -/

def add? (a b : Int64) : Option Int64 :=
  checked (a.toInt + b.toInt)

def sub? (a b : Int64) : Option Int64 :=
  checked (a.toInt - b.toInt)

def mul? (a b : Int64) : Option Int64 :=
  checked (a.toInt * b.toInt)

/-- The quotient without its fraction, for a divisor other than zero. -/
def div? (a b : Int64) : Option Int64 :=
  if b.toInt = 0 then none else checked (Int.tdiv a.toInt b.toInt)

/-- The remainder of that quotient, which has the sign of the dividend.  It fails where the
quotient does. -/
def mod? (a b : Int64) : Option Int64 :=
  (div? a b).bind fun _ => checked (Int.tmod a.toInt b.toInt)

def abs? (a : Int64) : Option Int64 :=
  checked a.toInt.natAbs

/-! ## Reading and writing -/

inductive Fault
  | empty
  | notDigit
  | tooLarge
  | tooSmall
  deriving DecidableEq, Repr

def Fault.message : Fault → String
  | empty => "cannot parse integer from empty string"
  | notDigit => "invalid digit found in string"
  | tooLarge => "number too large to fit in target type"
  | tooSmall => "number too small to fit in target type"

/-- The magnitude that one or more digits denote. -/
def readMagnitude (limit : Nat) (beyond : Fault) (digits : List Char) : Except Fault Nat :=
  if digits.isEmpty then .error .notDigit
  else
    match Text.digitsWithin limit 0 digits with
    | .ok n => .ok n
    | .error .notDigit => .error .notDigit
    | .error .beyond => .error beyond

/-- The value of digits after an optional sign. -/
def readSigned : List Char → Except Fault Int
  | [] => .error .empty
  | '-' :: digits => (readMagnitude (Nat.pow 2 63) .tooSmall digits).map fun n => -(n : Int)
  | '+' :: digits => (readMagnitude (Nat.pow 2 63 - 1) .tooLarge digits).map Int.ofNat
  | digits => (readMagnitude (Nat.pow 2 63 - 1) .tooLarge digits).map Int.ofNat

/-- The integer that a text denotes.  A plus sign may stand in front of it, sign and all. -/
def read (text : List Char) : Except Fault Int64 :=
  let body :=
    match text with
    | '+' :: rest => rest
    | _ => text
  (readSigned body).map Int64.ofInt

def write (n : Int64) : List Char :=
  Text.decimalInt n.toInt

end Integer
end Xacml
