/-!
# Sets of places

A text of `n` characters has `n + 1` places: before each character, and after the last.

* `Places` is a set of places, kept as the bits of a number,
* `Places.has` is its view: the lemmas tell of each operation which places its result has.
-/

namespace Xacml
namespace Regex

/-- A set of places: bit `n` is set if the place after `n` characters belongs to it. -/
structure Places where
  bits : Nat
  deriving DecidableEq, Repr

namespace Places

def has (places : Places) (place : Nat) : Bool :=
  places.bits.testBit place

/-- The number whose bits, the lowest first, are listed. -/
def bitsOf (flags : List Bool) : Nat :=
  flags.foldr (fun flag rest => 2 * rest + flag.toNat) 0

/-- The places, among the first `count`, that pass a test. -/
def ofTest (test : Nat → Bool) (count : Nat) : Places :=
  ⟨bitsOf ((List.range count).map test)⟩

def isEmpty (places : Places) : Bool :=
  places.bits = 0

def union (a b : Places) : Places :=
  ⟨a.bits ||| b.bits⟩

def inter (a b : Places) : Places :=
  ⟨a.bits &&& b.bits⟩

/-- The places of the first set that the second has not. -/
def without (a b : Places) : Places :=
  ⟨a.bits ^^^ (a.bits &&& b.bits)⟩

def further (places : Places) : Places :=
  ⟨2 * places.bits⟩

/-! ## Which places a set has -/

theorem testBit_bitsOf (flags : List Bool) (place : Nat) :
    (bitsOf flags).testBit place = flags.getD place false := by
  induction flags generalizing place with
  | nil => simp [bitsOf]
  | cons flag rest ih =>
      have h_split : bitsOf (flag :: rest) = 2 * bitsOf rest + flag.toNat := rfl
      have h_flag := Bool.toNat_le flag
      cases place with
      | zero =>
          rw [h_split, Nat.testBit_zero]
          cases flag <;> simp
      | succ place =>
          have h_half : bitsOf (flag :: rest) / 2 = bitsOf rest := by omega
          rw [Nat.testBit_succ, h_half, ih]
          rfl

theorem has_ofTest (test : Nat → Bool) (count place : Nat) :
    (ofTest test count).has place = (decide (place < count) && test place) := by
  by_cases inside : place < count <;>
    simp [has, ofTest, testBit_bitsOf, List.getD, inside]

theorem has_union (a b : Places) (place : Nat) :
    (a.union b).has place = (a.has place || b.has place) := by
  simp [has, union]

theorem has_inter (a b : Places) (place : Nat) :
    (a.inter b).has place = (a.has place && b.has place) := by
  simp [has, inter]

theorem has_without (a b : Places) (place : Nat) :
    (a.without b).has place = (a.has place && !b.has place) := by
  simp only [has, without, Nat.testBit_xor, Nat.testBit_and]
  cases a.bits.testBit place <;> cases b.bits.testBit place <;> rfl

theorem has_further_zero (places : Places) : places.further.has 0 = false := by
  simp [has, further, Nat.testBit_zero]

theorem has_further_succ (places : Places) (place : Nat) :
    places.further.has (place + 1) = places.has place := by
  simp [has, further, Nat.testBit_succ]

end Places

end Regex
end Xacml
