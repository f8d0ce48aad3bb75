import Xacml.Proofs.Lexical.Text

/-!
# Numerals

Which texts the readers of numbers take, and what number they give.

* `IsNumeral` says that a text consists of one or more decimal digits, and `Signed` which number it
  denotes after an optional sign,
* `natural?_eq_some_iff`, `unsigned?_eq_some_iff` and `signed?_eq_some_iff`: a number is read from a
  numeral whose value keeps to the limit, after an optional plus sign or any optional sign,
* `natural?_decimal`: a written number is read back.
-/

namespace Xacml
namespace Text

/-- Whether a text consists of one or more decimal digits. -/
structure IsNumeral (text : List Char) : Prop where
  ne_nil : text ≠ []
  digits : AllDigits text

instance : DecidablePred IsNumeral := fun text =>
  decidable_of_iff (text.isEmpty = false ∧ text.all Char.isDigit = true)
    ⟨fun h => ⟨List.isEmpty_eq_false_iff.1 h.1, List.all_eq_true.1 h.2⟩,
      fun h => ⟨List.isEmpty_eq_false_iff.2 h.ne_nil, List.all_eq_true.2 h.digits⟩⟩

theorem isNumeral_decimal (n : Nat) : IsNumeral (decimal n) :=
  ⟨decimal_ne_nil n, allDigits_decimal n⟩

theorem IsNumeral.exists_last {digits : List Char} (h : IsNumeral digits) :
    ∃ c ∈ digits.getLast?, c.isDigit = true :=
  ⟨_, List.getLast?_eq_some_getLast h.ne_nil, h.digits _ (List.getLast_mem h.ne_nil)⟩

variable {limit n : Nat} {text : List Char}

theorem allDigits_cons {c : Char} {rest : List Char} :
    AllDigits (c :: rest) ↔ c.isDigit = true ∧ AllDigits rest :=
  List.forall_mem_cons

/-- Digits after a value within the limit are read if the value of all of them keeps to it. -/
theorem digitsWithin_eq_ok_iff {value : Nat} (hvalue : value ≤ limit) :
    digitsWithin limit value text = .ok n ↔
      AllDigits text ∧ Nat.ofDigitChars 10 text value = n ∧ n ≤ limit := by
  induction text generalizing value with
  | nil =>
      rw [digitsWithin, Nat.ofDigitChars_nil, Except.ok.injEq]
      constructor
      · rintro rfl
        exact ⟨fun c hc => absurd hc List.not_mem_nil, rfl, hvalue⟩
      · exact fun h => h.2.1
  | cons c rest ih =>
      rw [digitsWithin, digit?, Nat.ofDigitChars_cons, allDigits_cons]
      by_cases hc : c.isDigit = true
      · simp only [hc, if_true, true_and]
        split
        case isTrue hstep => exact ih hstep
        case isFalse hstep =>
          -- The digits that follow do not bring the value back under the limit.
          refine iff_of_false (by simp) fun h => hstep ?_
          have hle := le_ofDigitChars rest (10 * value + (c.toNat - '0'.toNat))
          omega
      · simp [hc]

theorem natural?_eq_some_iff :
    natural? limit text = some n ↔
      IsNumeral text ∧ Nat.ofDigitChars 10 text 0 = n ∧ n ≤ limit := by
  have hread := @digitsWithin_eq_ok_iff limit n text 0 (Nat.zero_le limit)
  rw [natural?]
  split
  case isTrue hempty =>
    exact iff_of_false (by simp) fun h => h.1.ne_nil (by simpa using hempty)
  case isFalse hne =>
    have hne' : text ≠ [] := by simpa using hne
    have hoption : (digitsWithin limit 0 text).toOption = some n ↔
        digitsWithin limit 0 text = .ok n := by
      cases digitsWithin limit 0 text <;> simp [Except.toOption]
    rw [hoption, hread]
    exact and_congr_left' ⟨fun h => ⟨hne', h⟩, IsNumeral.digits⟩

theorem natural?_decimal (h : n ≤ limit) : natural? limit (decimal n) = some n :=
  natural?_eq_some_iff.2 ⟨isNumeral_decimal n, Nat.ofDigitChars_ten_toDigits, h⟩

theorem le_of_natural? (h : natural? limit text = some n) : n ≤ limit :=
  (natural?_eq_some_iff.1 h).2.2

/-- A plus sign may stand before the numeral. -/
theorem unsigned?_eq_some_iff :
    unsigned? limit text = some n ↔
      ∃ digits, (text = digits ∨ text = '+' :: digits) ∧ IsNumeral digits ∧
        Nat.ofDigitChars 10 digits 0 = n ∧ n ≤ limit := by
  unfold unsigned?
  split
  case h_1 rest =>
    rw [natural?_eq_some_iff]
    constructor
    · exact fun h => ⟨rest, .inr rfl, h⟩
    · rintro ⟨digits, rfl | heq, h⟩
      · exact absurd List.mem_cons_self (h.1.digits.not_mem (by decide))
      · cases heq
        exact h
  case h_2 hsign =>
    rw [natural?_eq_some_iff]
    constructor
    · exact fun h => ⟨text, .inl rfl, h⟩
    · rintro ⟨digits, rfl | heq, h⟩
      · exact h
      · exact absurd heq (hsign digits)

/-- The number that digits after an optional sign denote. -/
inductive Signed : List Char → Int → Prop
  | bare {digits : List Char} (h : IsNumeral digits) :
      Signed digits (Nat.ofDigitChars 10 digits 0 : Nat)
  | plus {digits : List Char} (h : IsNumeral digits) :
      Signed ('+' :: digits) (Nat.ofDigitChars 10 digits 0 : Nat)
  | minus {digits : List Char} (h : IsNumeral digits) :
      Signed ('-' :: digits) (-(Nat.ofDigitChars 10 digits 0 : Nat))

theorem Signed.exists_last {m : Int} (h : Signed text m) :
    ∃ c ∈ text.getLast?, c.isDigit = true := by
  cases h with
  | bare h => exact h.exists_last
  | plus h | minus h =>
      rcases h.exists_last with ⟨c, hc, hdigit⟩
      exact ⟨c, List.mem_getLast?_cons hc, hdigit⟩

theorem signed?_of_digits (h : AllDigits text) :
    signed? limit text = (natural? limit text).map Int.ofNat := by
  unfold signed?
  split
  case h_1 rest => exact absurd List.mem_cons_self (h.not_mem (by decide))
  case h_2 rest => exact absurd List.mem_cons_self (h.not_mem (by decide))
  case h_3 => rfl

theorem map_natural?_eq_some_iff {f : Nat → Int} (hf : ∀ n, (f n).natAbs = n) {m : Int} :
    (natural? limit text).map f = some m ↔
      IsNumeral text ∧ f (Nat.ofDigitChars 10 text 0) = m ∧ m.natAbs ≤ limit := by
  rw [Option.map_eq_some_iff]
  constructor
  · rintro ⟨n, hn, rfl⟩
    rcases natural?_eq_some_iff.1 hn with ⟨htext, rfl, hlimit⟩
    exact ⟨htext, rfl, (hf _).symm ▸ hlimit⟩
  · rintro ⟨htext, rfl, hlimit⟩
    rw [hf] at hlimit
    exact ⟨_, natural?_eq_some_iff.2 ⟨htext, rfl, hlimit⟩, rfl⟩

theorem signed?_minus (limit : Nat) (rest : List Char) :
    signed? limit ('-' :: rest) = (natural? limit rest).map fun n : Nat => -(n : Int) := by
  rw [signed?]
  cases natural? limit rest <;> rfl

/-- The reader takes the digits after an optional sign, and nothing else. -/
theorem signed?_eq_some_iff {m : Int} :
    signed? limit text = some m ↔ Signed text m ∧ m.natAbs ≤ limit := by
  constructor
  · intro h
    unfold signed? at h
    split at h
    case h_1 rest =>
      rcases (map_natural?_eq_some_iff Int.natAbs_natCast).1 h with ⟨hrest, rfl, hlimit⟩
      exact ⟨.plus hrest, hlimit⟩
    case h_2 rest =>
      have hread := signed?_minus limit rest
      rw [signed?] at hread
      rw [hread] at h
      rcases (map_natural?_eq_some_iff fun n => by simp).1 h with ⟨hrest, rfl, hlimit⟩
      exact ⟨.minus hrest, hlimit⟩
    case h_3 =>
      rcases (map_natural?_eq_some_iff Int.natAbs_natCast).1 h with ⟨htext, rfl, hlimit⟩
      exact ⟨.bare htext, hlimit⟩
  · rintro ⟨hsigned, hlimit⟩
    cases hsigned with
    | bare h =>
        rw [signed?_of_digits h.digits]
        exact (map_natural?_eq_some_iff Int.natAbs_natCast).2 ⟨h, rfl, hlimit⟩
    | plus h =>
        rw [signed?]
        exact (map_natural?_eq_some_iff Int.natAbs_natCast).2 ⟨h, rfl, hlimit⟩
    | minus h =>
        rw [signed?_minus]
        exact (map_natural?_eq_some_iff fun n => by simp).2 ⟨h, rfl, hlimit⟩

end Text
end Xacml
