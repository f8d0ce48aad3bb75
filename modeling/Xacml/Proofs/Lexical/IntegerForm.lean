import Xacml.Proofs.Lexical.Numeral
import Xacml.Proofs.Typing.Ending
import Xacml.Value.Integer

/-!
# Forms of integers

* `Integer.Form` is the form of an integer, with a switch for the plus sign that the reader takes
  before the sign of the integer itself,
* `Integer.read_eq_ok_iff`: the reader takes the texts of this form that 64 bits hold,
* `Integer.read_write`: the text of an integer reads back.
-/

namespace Xacml
namespace Integer

variable {text : List Char} {m : Int}

/-- The integers that texts denote: digits after an optional sign.  A lenient reader takes one more
plus sign. -/
inductive Form (lenient : Bool) : List Char → Int → Prop
  | signed {text : List Char} {m : Int} (h : Text.Signed text m) : Form lenient text m
  | again {text : List Char} {m : Int} (hlenient : lenient = true) (h : Text.Signed text m) :
      Form lenient ('+' :: text) m

theorem Form.of_strict {lenient : Bool} (h : Form false text m) : Form lenient text m := by
  cases h with
  | signed h => exact .signed h
  | again hlenient => cases hlenient

/-! ## Reading -/

theorem readMagnitude_eq_ok_iff {limit n : Nat} {beyond : Fault} :
    readMagnitude limit beyond text = .ok n ↔
      Text.IsNumeral text ∧ Nat.ofDigitChars 10 text 0 = n ∧ n ≤ limit := by
  rw [← Text.natural?_eq_some_iff, readMagnitude, Text.natural?]
  split
  case isTrue => simp
  case isFalse => split <;> simp_all [Except.toOption]

/-- Digits without a sign are read as they stand. -/
theorem readSigned_of_isNumeral (h : Text.IsNumeral text) :
    readSigned text = (readMagnitude (Nat.pow 2 63 - 1) .tooLarge text).map Int.ofNat := by
  unfold readSigned
  split
  case h_1 => exact absurd rfl h.ne_nil
  case h_2 => exact absurd List.mem_cons_self (h.digits.not_mem (by decide))
  case h_3 => exact absurd List.mem_cons_self (h.digits.not_mem (by decide))
  case h_4 => rfl

/-- The digits after an optional sign are read if 64 bits hold the number. -/
theorem readSigned_eq_ok_iff :
    readSigned text = .ok m ↔
      Text.Signed text m ∧ -9223372036854775808 ≤ m ∧ m < 9223372036854775808 := by
  have hpow : Nat.pow 2 63 = 9223372036854775808 := by decide
  constructor
  · intro h
    unfold readSigned at h
    split at h
    case h_1 => cases h
    case h_2 digits =>
      rcases exists_of_map_eq_ok h with ⟨_, hread, rfl⟩
      rcases exists_of_bind_eq_ok hread with ⟨n, hn, heq⟩
      cases heq
      rcases readMagnitude_eq_ok_iff.1 hn with ⟨hdigits, rfl, hlimit⟩
      exact ⟨.minus hdigits, by omega⟩
    case h_3 digits =>
      rcases exists_of_map_eq_ok h with ⟨n, hn, rfl⟩
      rcases readMagnitude_eq_ok_iff.1 hn with ⟨hdigits, rfl, hlimit⟩
      exact ⟨.plus hdigits, by rw [Int.ofNat_eq_natCast]; omega⟩
    case h_4 =>
      rcases exists_of_map_eq_ok h with ⟨n, hn, rfl⟩
      rcases readMagnitude_eq_ok_iff.1 hn with ⟨hdigits, rfl, hlimit⟩
      exact ⟨.bare hdigits, by rw [Int.ofNat_eq_natCast]; omega⟩
  · rintro ⟨hsigned, hlow, hhigh⟩
    cases hsigned with
    | bare h =>
        rw [readSigned_of_isNumeral h, readMagnitude_eq_ok_iff.2 ⟨h, rfl, by omega⟩]
        rfl
    | plus h =>
        rw [readSigned, readMagnitude_eq_ok_iff.2 ⟨h, rfl, by omega⟩]
        rfl
    | minus h =>
        rw [readSigned, readMagnitude_eq_ok_iff.2 ⟨h, rfl, by omega⟩]
        rfl

/-- After a plus sign the lenient form goes on with an integer that may have a sign again. -/
theorem form_plus_iff : Form true ('+' :: text) m ↔ Text.Signed text m := by
  constructor
  · intro h
    cases h with
    | signed h =>
        cases h with
        | bare h => exact absurd List.mem_cons_self (h.digits.not_mem (by decide))
        | plus h => exact .bare h
    | again _ h => exact h
  · exact .again rfl

/-- The reader takes the texts of the lenient form that 64 bits hold. -/
theorem read_eq_ok_iff {n : Int64} : read text = .ok n ↔ Form true text n.toInt := by
  have hvalue {text : List Char} :
      (readSigned text).map Int64.ofInt = .ok n ↔ Text.Signed text n.toInt := by
    constructor
    · intro h
      rcases exists_of_map_eq_ok h with ⟨m, hm, rfl⟩
      rcases readSigned_eq_ok_iff.1 hm with ⟨hsigned, hlow, hhigh⟩
      rwa [Int64.toInt_ofInt_of_le hlow hhigh]
    · intro h
      rw [readSigned_eq_ok_iff.2 ⟨h, n.le_toInt, n.toInt_lt⟩, Except.map, Int64.ofInt_toInt]
  unfold read
  rw [hvalue]
  split
  case h_1 rest => exact form_plus_iff.symm
  case h_2 hplus =>
    constructor
    · exact .signed
    · intro h
      cases h with
      | signed h => exact h
      | again _ h => exact absurd rfl (hplus _)

/-! ## Writing -/

theorem signed_write (n : Int64) : Text.Signed (write n) n.toInt := by
  have hdigits := Text.isNumeral_decimal n.toInt.natAbs
  have hvalue : Nat.ofDigitChars 10 (Text.decimal n.toInt.natAbs) 0 = n.toInt.natAbs :=
    Nat.ofDigitChars_ten_toDigits
  rw [write, Text.decimalInt]
  split
  case isTrue hnegative =>
    have hsigned := Text.Signed.minus hdigits
    rwa [hvalue, show -(n.toInt.natAbs : Int) = n.toInt by omega] at hsigned
  case isFalse hnegative =>
    have hsigned := Text.Signed.bare hdigits
    rwa [hvalue, show (n.toInt.natAbs : Int) = n.toInt by omega] at hsigned

/-- The text of an integer reads back. -/
theorem read_write (n : Int64) : read (write n) = .ok n :=
  read_eq_ok_iff.2 (.signed (signed_write n))

theorem mem_write {n : Int64} {c : Char} (h : c ∈ write n) : c.isDigit = true ∨ c ∈ ['-'] := by
  rw [write, Text.decimalInt] at h
  split at h
  · rcases List.mem_cons.1 h with rfl | h
    · exact .inr (by simp)
    · exact .inl (Text.allDigits_decimal _ c h)
  · exact .inl (Text.allDigits_decimal _ c h)

end Integer
end Xacml
