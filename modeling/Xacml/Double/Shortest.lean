import Xacml.Double.Basic
import Xacml.Text.Numeral

/-!
# Shortest decimals

The decimal with the fewest digits that reads back as a given double-precision number.

* `Double.Interval` is the interval of reals that round to a number,
* `Double.shortest` finds the shortest decimal in it, the nearest one of these,
* `Double.plain` and `Double.scientific` lay its digits out.
-/

namespace Xacml
namespace Double

/-! ## The interval of a number -/

/-- The reals that round to a positive number.  The bounds and the number itself are counted in
quarters of the last place, which is worth `2 ^ exponent`; `inclusive` tells whether the bounds
belong to the interval. -/
structure Interval where
  low : Nat
  value : Nat
  high : Nat
  exponent : Int
  inclusive : Bool
  deriving Repr

/-- The interval of `significand · 2 ^ exponent`.  Below a power of two the numbers are twice as
close as above it. -/
def Interval.of (significand : Nat) (exponent : Int) : Interval where
  low := 4 * significand - (if significand = Nat.pow 2 52 && minExponent < exponent then 1 else 2)
  value := 4 * significand
  high := 4 * significand + 2
  exponent := exponent
  inclusive := significand % 2 == 0

/-- Whether `a / b` comes before `c / d`, or is the same if the bounds belong to the interval. -/
def Interval.ordered (interval : Interval) (left right : Nat) : Bool :=
  if interval.inclusive then left ≤ right else left < right

/-! ## Decimals -/

/-- A decimal `digits · 10 ^ power`. -/
structure Decimal where
  digits : Nat
  power : Int
  deriving DecidableEq, Repr

/-- Factors that make the decimal `k · 10 ^ power` and a bound of the interval comparable: the
first one goes with the decimal, the second one with the bound. -/
def Interval.scales (interval : Interval) (power : Int) : Nat × Nat :=
  (4 * Nat.pow 10 power.toNat * Nat.pow 2 (-interval.exponent).toNat,
   Nat.pow 10 (-power).toNat * Nat.pow 2 interval.exponent.toNat)

/-- The decimal of the given power that lies in the interval, the nearer one of two; a number in
the middle goes to the greater. -/
def Interval.onGrid? (interval : Interval) (power : Int) : Option Decimal :=
  let (decimalScale, boundScale) := interval.scales power
  let value := interval.value * boundScale
  let below := value / decimalScale
  let above := below + 1
  let belowIn := interval.ordered (interval.low * boundScale) (below * decimalScale)
  let aboveIn := interval.ordered (above * decimalScale) (interval.high * boundScale)
  let nearerBelow := value - below * decimalScale < above * decimalScale - value
  if belowIn && (nearerBelow || !aboveIn) then some ⟨below, power⟩
  else if aboveIn then some ⟨above, power⟩
  else none

/-- The first decimal in the interval on the grids of falling powers. -/
def Interval.search (interval : Interval) : Nat → Int → Decimal
  | 0, power => ⟨0, power⟩
  | grids + 1, power =>
      match interval.onGrid? power with
      | some decimal => decimal
      | none => interval.search grids (power - 1)

/-- The decimal without the zeros at its end.  A positive number of `count` digits has fewer than
`count` of them. -/
def Decimal.strip : Nat → Decimal → Decimal
  | 0, decimal => decimal
  | count + 1, decimal =>
      if decimal.digits % 10 = 0 then Decimal.strip count ⟨decimal.digits / 10, decimal.power + 1⟩
      else decimal

/-- The shortest decimal that reads back as `significand · 2 ^ exponent`. -/
def shortest (significand : Nat) (exponent : Int) : Decimal :=
  let magnitude : Int := (significand.log2 : Int) + exponent
  -- The power of ten of the first digit, or one more: log 2 is a little below 30103/100000.
  let start := Int.fdiv ((magnitude + 1) * 30103) 100000 + 1
  Decimal.strip 18 ((Interval.of significand exponent).search 20 start)

/-! ## Layouts -/

/-- The digits of a decimal with the point among them or outside, without an exponent.  With
`point` a point and a zero stand at the end of a whole number. -/
def Decimal.plain (decimal : Decimal) (point : Bool) : List Char :=
  let digits := Text.decimal decimal.digits
  let position : Int := digits.length + decimal.power
  if 0 ≤ decimal.power then
    digits ++ List.replicate decimal.power.toNat '0' ++ (if point then ['.', '0'] else [])
  else if 0 < position then
    digits.take position.toNat ++ '.' :: digits.drop position.toNat
  else
    ['0', '.'] ++ List.replicate (-position).toNat '0' ++ digits

/-- The digits of a decimal with the point after the first one, and an exponent. -/
def Decimal.scientific (decimal : Decimal) : List Char :=
  let digits := Text.decimal decimal.digits
  let exponent : Int := digits.length + decimal.power - 1
  let fraction := digits.drop 1
  digits.take 1 ++ (if fraction.isEmpty then [] else '.' :: fraction) ++
    'e' :: Text.decimalInt exponent

end Double
end Xacml
