/-!
# Double-precision numbers

The numbers of the 64-bit floating-point format, without a sign on zero, with one value that is not
a number and with two infinities.  All arithmetic is exact followed by one rounding.

* `Double` is the type; a finite number is a significand times a power of two,
* `Double.ofRatio` rounds a ratio to the nearest number, ties going to the even significand,
* `Double.add`, `sub`, `mul`, `div`, `abs`, `floor`, `roundEven` are the operations,
* `Double.compare?` orders all numbers but the one that is not a number,
* `Double.toInt?` cuts the fraction off.
-/

namespace Xacml

/-- A double-precision number.  The finite number `significand · 2 ^ exponent` is written in one
way only: zero has exponent zero, and any other significand has 53 binary digits unless the
exponent is the least one. -/
inductive Double
  | nan
  | infinity (negative : Bool)
  | finite (significand exponent : Int)
  deriving DecidableEq, Repr

namespace Double

/-! ## Rounding -/

def minExponent : Int := -1074

/-- The greatest exponent of a finite number. -/
def maxExponent : Int := 971

def zero : Double := .finite 0 0

/-- `numerator / denominator` as a whole number, the nearest one, ties going to the even one. -/
def divNearest (numerator denominator : Nat) : Nat :=
  let quotient := numerator / denominator
  let twice := 2 * (numerator % denominator)
  if twice < denominator then quotient
  else if denominator < twice then quotient + 1
  else if quotient % 2 = 0 then quotient
  else quotient + 1

/-- The exponent with which `numerator / denominator` gets 53 binary digits, or the least
exponent. -/
def exponentOf (numerator denominator : Nat) : Int :=
  let estimate : Int := (numerator.log2 : Int) - denominator.log2 - 52
  let exponent :=
    if numerator * Nat.pow 2 (-(estimate + 52)).toNat <
        denominator * Nat.pow 2 (estimate + 52).toNat then
      estimate - 1
    else estimate
  max exponent minExponent

/-- The number with the given sign, magnitude and exponent. -/
def ofMagnitude (negative : Bool) (magnitude : Nat) (exponent : Int) : Double :=
  if magnitude = 0 then zero
  else if maxExponent < exponent then .infinity negative
  else .finite (if negative then -(magnitude : Int) else magnitude) exponent

/-- The nearest number to `numerator / denominator`, for a positive denominator. -/
def ofRatio (numerator : Int) (denominator : Nat) : Double :=
  if numerator = 0 then zero
  else
    let magnitude := numerator.natAbs
    let negative := numerator < 0
    let exponent := exponentOf magnitude denominator
    let rounded :=
      divNearest (magnitude * Nat.pow 2 (-exponent).toNat) (denominator * Nat.pow 2 exponent.toNat)
    -- Rounding up may add a binary digit, and then the significand is a power of two.
    if rounded = Nat.pow 2 53 then ofMagnitude negative (Nat.pow 2 52) (exponent + 1)
    else ofMagnitude negative rounded exponent

/-- The nearest number to `significand · 2 ^ exponent`. -/
def ofScaled (significand exponent : Int) : Double :=
  ofRatio (significand * Nat.pow 2 exponent.toNat) (Nat.pow 2 (-exponent).toNat)

def ofInt (n : Int) : Double :=
  ofRatio n 1

/-! ## Arithmetic -/

def neg : Double → Double
  | nan => nan
  | infinity negative => infinity (!negative)
  | finite significand exponent => finite (-significand) exponent

def add : Double → Double → Double
  | nan, _ | _, nan => nan
  | infinity a, infinity b => if a = b then infinity a else nan
  | infinity a, finite _ _ => infinity a
  | finite _ _, infinity b => infinity b
  | finite s e, finite t f =>
      let exponent := min e f
      ofScaled (s * Nat.pow 2 (e - exponent).toNat + t * Nat.pow 2 (f - exponent).toNat) exponent

def sub (a b : Double) : Double :=
  add a (neg b)

def mul : Double → Double → Double
  | nan, _ | _, nan => nan
  | infinity a, infinity b => infinity (a != b)
  | infinity a, finite t _ => if t = 0 then nan else infinity (a != decide (t < 0))
  | finite s _, infinity b => if s = 0 then nan else infinity (decide (s < 0) != b)
  | finite s e, finite t f => ofScaled (s * t) (e + f)

def isZero : Double → Bool
  | finite significand _ => significand == 0
  | _ => false

/-- The quotient, for a divisor other than zero. -/
def div : Double → Double → Double
  | nan, _ | _, nan => nan
  | infinity _, infinity _ => nan
  | infinity a, finite t _ => infinity (a != decide (t < 0))
  | finite _ _, infinity _ => zero
  | finite s e, finite t f =>
      let scale := e - f
      let numerator := s * (if t < 0 then -1 else 1) * Nat.pow 2 scale.toNat
      ofRatio numerator (t.natAbs * Nat.pow 2 (-scale).toNat)

def abs : Double → Double
  | nan => nan
  | infinity _ => infinity false
  | finite significand exponent => finite significand.natAbs exponent

/-! ## Whole numbers -/

/-- The greatest whole number that is not above `significand · 2 ^ exponent`. -/
def floorScaled (significand exponent : Int) : Int :=
  if 0 ≤ exponent then significand * Nat.pow 2 exponent.toNat
  else Int.fdiv significand (Nat.pow 2 (-exponent).toNat)

/-- The greatest whole number that is not above the number. -/
def floor : Double → Double
  | finite significand exponent => ofInt (floorScaled significand exponent)
  | x => x

/-- The nearest whole number, ties going to the even one. -/
def roundEven : Double → Double
  | finite significand exponent =>
      let magnitude :=
        divNearest (significand.natAbs * Nat.pow 2 exponent.toNat) (Nat.pow 2 (-exponent).toNat)
      ofInt (if significand < 0 then -(magnitude : Int) else magnitude)
  | x => x

/-- The number without its fraction, if it is finite. -/
def toInt? : Double → Option Int
  | finite significand exponent =>
      some (Int.tdiv (significand * Nat.pow 2 exponent.toNat) (Nat.pow 2 (-exponent).toNat))
  | _ => none

/-! ## Order -/

/-- The order of two numbers; one that is not a number has no place in it. -/
def compare? : Double → Double → Option Ordering
  | nan, _ | _, nan => none
  | infinity a, infinity b => some (compare b.toNat a.toNat)
  | infinity a, finite _ _ => some (if a then .lt else .gt)
  | finite _ _, infinity b => some (if b then .gt else .lt)
  | finite s e, finite t f =>
      let exponent := min e f
      some (compare (s * Nat.pow 2 (e - exponent).toNat) (t * Nat.pow 2 (f - exponent).toNat))

end Double

end Xacml
