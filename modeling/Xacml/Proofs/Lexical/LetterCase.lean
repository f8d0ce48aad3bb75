import Xacml.Proofs.Lexical.Runs

/-!
# Letter case of ASCII

Lower-casing a text looks at the characters around a capital sigma, so that it does not work letter
by letter.  Still it does not see the case of ASCII letters:

* `apply_toLower`: what to try when a function of characters is to ignore the case of ASCII,
* `lowercase_eq_of_sameAscii` and `upperAscii_eq_of_sameAscii`: texts that are the same up to the
  case of ASCII letters are the same in lower case, and in upper case.
-/

namespace Xacml
namespace Text

/-! ## Characters -/

/-- A function that gives the same for the capitals of ASCII and for their small letters does not
see what lower-casing does to a character. -/
theorem apply_toLower {α : Type} (f : Char → α)
    (h : ∀ n < 26, f (Char.ofNat (65 + n)).toLower = f (Char.ofNat (65 + n))) (c : Char) :
    f c.toLower = f c := by
  rcases toLower_cases c with hc | ⟨hlow, hhigh, -⟩
  · rw [hc]
  · have hcapital := h (c.toNat - 65) (by omega)
    rwa [Nat.add_sub_cancel' hlow, Char.ofNat_toNat] at hcapital

theorem toUpper_toLower (c : Char) : c.toLower.toUpper = c.toUpper :=
  apply_toLower Char.toUpper (by decide +kernel) c

theorem mapThrough_lowerRuns_toLower (c : Char) :
    mapThrough lowerRuns c.toLower = mapThrough lowerRuns c :=
  apply_toLower (mapThrough lowerRuns) (by decide +kernel) c

/-- No character beyond the small letters is the image of another one. -/
theorem toLower_eq_iff_of_lt {c mark : Char} (hmark : 122 < mark.toNat) :
    c.toLower = mark ↔ c = mark := by
  rcases toLower_cases c with h | ⟨hlow, hhigh, h⟩
  · rw [h]
  · constructor
    · rintro rfl
      omega
    · rintro rfl
      omega

/-! ## Neighbours of a sigma -/

theorem isCased_toLower (c : Char) : isCased c.toLower = isCased c := by
  rcases toLower_cases c with h | ⟨hlow, hhigh, h⟩
  · rw [h]
  · have hsmall : Category.ofChar c.toLower = .lowercaseLetter :=
      Category.ofChar_of_small (by omega) (by omega)
    rw [isCased, isCased, hsmall, Category.ofChar_of_capital hlow hhigh]
    rfl

theorem isCaseIgnorable_toLower (c : Char) : isCaseIgnorable c.toLower = isCaseIgnorable c := by
  have hranges := apply_toLower (fun c => inRanges insideWord c.toNat) (by decide +kernel) c
  rcases toLower_cases c with h | ⟨hlow, hhigh, h⟩
  · rw [h]
  · have hsmall : Category.ofChar c.toLower = .lowercaseLetter :=
      Category.ofChar_of_small (by omega) (by omega)
    rw [isCaseIgnorable, isCaseIgnorable, hsmall, Category.ofChar_of_capital hlow hhigh]
    exact hranges

theorem startsCased_of_ignorable {c : Char} (h : isCaseIgnorable c = true) (rest : List Char) :
    startsCased (c :: rest) = startsCased rest := by
  rw [startsCased, List.dropWhile_cons_of_pos h, startsCased]

theorem startsCased_of_not_ignorable {c : Char} (h : isCaseIgnorable c = false)
    (rest : List Char) : startsCased (c :: rest) = isCased c := by
  rw [startsCased, List.dropWhile_cons_of_neg (by rw [h]; exact Bool.false_ne_true)]

theorem startsCased_lowerAscii (text : List Char) :
    startsCased (lowerAscii text) = startsCased text := by
  induction text with
  | nil => rfl
  | cons c rest ih =>
      have hignorable := isCaseIgnorable_toLower c
      rw [lowerAscii, List.map_cons]
      cases h : isCaseIgnorable c with
      | true =>
          rw [h] at hignorable
          rw [startsCased_of_ignorable h, startsCased_of_ignorable hignorable]
          exact ih
      | false =>
          rw [h] at hignorable
          rw [startsCased_of_not_ignorable h, startsCased_of_not_ignorable hignorable,
            isCased_toLower]

/-! ## Texts -/

theorem lowerChar_toLower (before : List Char) (c : Char) (after : List Char) :
    lowerChar (lowerAscii before) c.toLower (lowerAscii after) = lowerChar before c after := by
  have hsigma : c.toLower = 'Σ' ↔ c = 'Σ' := toLower_eq_iff_of_lt (by decide)
  have hdotted : c.toLower = 'İ' ↔ c = 'İ' := toLower_eq_iff_of_lt (by decide)
  simp only [lowerChar, hsigma, hdotted, startsCased_lowerAscii, mapThrough_lowerRuns_toLower]

theorem lowerFrom_lowerAscii (before text : List Char) :
    lowerFrom (lowerAscii before) (lowerAscii text) = lowerFrom before text := by
  induction text generalizing before with
  | nil => rfl
  | cons c rest ih =>
      have hstep := lowerChar_toLower before c rest
      have hrest := ih (c :: before)
      rw [lowerAscii, List.map_cons] at hrest
      rw [lowerFrom, ← hstep, ← hrest]
      rfl

theorem lowercase_eq_of_sameAscii {a b : List Char} (h : sameAscii a b = true) :
    lowercase a = lowercase b := by
  have hlower : lowerAscii a = lowerAscii b := eq_of_beq h
  calc
    lowercase a = lowercase (lowerAscii a) := (lowerFrom_lowerAscii [] a).symm
    _ = lowercase (lowerAscii b) := by rw [hlower]
    _ = lowercase b := lowerFrom_lowerAscii [] b

theorem upperAscii_eq_of_sameAscii {a b : List Char} (h : sameAscii a b = true) :
    upperAscii a = upperAscii b := by
  have hlower : lowerAscii a = lowerAscii b := eq_of_beq h
  have hupper (text : List Char) : upperAscii (lowerAscii text) = upperAscii text := by
    rw [upperAscii, lowerAscii, List.map_map]
    exact List.map_congr_left fun c _ => toUpper_toLower c
  rw [← hupper a, hlower, hupper]

end Text
end Xacml
