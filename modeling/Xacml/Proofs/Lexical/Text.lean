import Mathlib.Algebra.GroupWithZero.Nat
import Mathlib.Data.List.Basic
import Mathlib.Data.List.TakeWhile
import Xacml.Text.Blank
import Xacml.Text.Cut
import Xacml.Text.Letter
import Xacml.Text.Numeral

/-!
# Reading back what was written: texts and numerals

The canonical forms of values are put together from numerals, marks and names.  This module collects
what reading them back rests on:

* `trim_eq_self` and `trim_trim`: a text without white space at its ends is not changed,
* `cut?_append` and `splitOn_join`: marks are found again where they were put,
* `splitOn_lowerAscii` and its companions: lower-casing moves no marks,
* `ofDigitChars_padZeros` and its companions: digits have the value that they were written for.
-/

namespace Xacml
namespace Text

/-! ## White space -/

/-- The visible ASCII characters are not white space. -/
theorem isBlank_of_visible {c : Char} (h : 0x20 < c.toNat) (h' : c.toNat < 0x7F) :
    isBlank c = false := by
  simp only [isBlank]
  simp
  omega

/-- A text that neither starts nor ends with white space is not changed. -/
theorem trim_eq_self {text : List Char} (hhead : ∀ c ∈ text.head?, isBlank c = false)
    (hlast : ∀ c ∈ text.getLast?, isBlank c = false) : trim text = text := by
  have keep {list : List Char} (h : ∀ c ∈ list.head?, isBlank c = false) :
      list.dropWhile isBlank = list := by
    cases list with
    | nil => rfl
    | cons c rest => rw [List.dropWhile_cons_of_neg (by simp [h c rfl])]
  have hreverse : ∀ c ∈ text.reverse.head?, isBlank c = false := by
    rwa [List.head?_reverse]
  rw [trim, trimStart, keep hhead, trimEnd, keep hreverse, List.reverse_reverse]

theorem trim_eq_self_of_forall {text : List Char} (h : ∀ c ∈ text, isBlank c = false) :
    trim text = text :=
  trim_eq_self (fun c hc => h c (List.mem_of_mem_head? hc))
    fun c hc => h c (List.mem_of_mem_getLast? hc)

theorem isBlank_head_trimStart {text : List Char} :
    ∀ c ∈ (trimStart text).head?, isBlank c = false := by
  intro c hc
  have h := List.head?_dropWhile_not isBlank text
  rw [trimStart] at hc
  rw [Option.mem_def.1 hc] at h
  simpa using h

/-- What is trimmed neither starts nor ends with white space. -/
theorem isBlank_ends_trim (text : List Char) :
    (∀ c ∈ (trim text).head?, isBlank c = false) ∧
      ∀ c ∈ (trim text).getLast?, isBlank c = false := by
  have hprefix : trim text <+: trimStart text := by
    have hsuffix := List.dropWhile_suffix isBlank (l := (trimStart text).reverse)
    have hreverse := List.reverse_prefix.2 hsuffix
    rwa [List.reverse_reverse] at hreverse
  constructor
  · intro c hc
    rcases hprefix with ⟨rest, hrest⟩
    apply @isBlank_head_trimStart text
    rw [← hrest]
    cases htrim : trim text with
    | nil =>
        rw [htrim] at hc
        cases hc
    | cons d more =>
        rw [htrim] at hc
        exact hc
  · intro c hc
    rw [trim, trimEnd, List.getLast?_reverse] at hc
    have h := List.head?_dropWhile_not isBlank (trimStart text).reverse
    rw [Option.mem_def.1 hc] at h
    simpa using h

theorem trim_trim (text : List Char) : trim (trim text) = trim text :=
  trim_eq_self (isBlank_ends_trim text).1 (isBlank_ends_trim text).2

/-- Whether a text is nothing but white space. -/
def AllBlank (text : List Char) : Prop :=
  ∀ c ∈ text, isBlank c = true

instance : DecidablePred AllBlank := fun text => inferInstanceAs (Decidable (∀ c ∈ text, _))

/-- Trimming takes white space away and nothing else. -/
theorem exists_eq_append_trim (text : List Char) :
    ∃ before after, AllBlank before ∧ AllBlank after ∧ text = before ++ (trim text ++ after) := by
  refine ⟨text.takeWhile isBlank, ((trimStart text).reverse.takeWhile isBlank).reverse, ?_, ?_, ?_⟩
  · intro c hc
    exact List.mem_takeWhile_imp hc
  · intro c hc
    exact List.mem_takeWhile_imp (List.mem_reverse.1 hc)
  · rw [trim, trimEnd, ← List.reverse_append, List.takeWhile_append_dropWhile,
      List.reverse_reverse, trimStart, List.takeWhile_append_dropWhile]

theorem mem_of_mem_trim {text : List Char} {c : Char} (h : c ∈ trim text) : c ∈ text := by
  obtain ⟨before, after, -, -, heq⟩ := exists_eq_append_trim text
  rw [heq]
  exact List.mem_append_right _ (List.mem_append_left _ h)

/-- White space around a text does not count. -/
theorem trim_append_blanks {before after : List Char} (hbefore : AllBlank before)
    (hafter : AllBlank after) (text : List Char) :
    trim (before ++ (text ++ after)) = trim text := by
  have hend (text : List Char) : trimEnd (text ++ after) = trimEnd text := by
    have hreverse : ∀ c ∈ after.reverse, isBlank c = true :=
      fun c hc => hafter c (List.mem_reverse.1 hc)
    rw [trimEnd, List.reverse_append, List.dropWhile_append_of_pos hreverse, trimEnd]
  rw [trim, trimStart, List.dropWhile_append_of_pos hbefore, List.dropWhile_append, trim, trimStart]
  split
  case isTrue hblank =>
    -- All of the text is white space.
    rw [List.isEmpty_iff.1 hblank, List.dropWhile_eq_nil_iff.2 hafter]
  case isFalse => exact hend _

/-! ## Fronts -/

section Front

variable {p : Char → Bool} {front rest : List Char}

/-- The characters that satisfy a test go as far as the first one that does not. -/
theorem takeWhile_eq_front (h : ∀ c ∈ front, p c = true) (hrest : ∀ c ∈ rest.head?, p c = false) :
    (front ++ rest).takeWhile p = front := by
  rw [List.takeWhile_append_of_pos h]
  cases rest with
  | nil => simp
  | cons c rest => simp [hrest c rfl]

theorem dropWhile_eq_rest (h : ∀ c ∈ front, p c = true) (hrest : ∀ c ∈ rest.head?, p c = false) :
    (front ++ rest).dropWhile p = rest := by
  rw [List.dropWhile_append_of_pos h]
  cases rest with
  | nil => simp
  | cons c rest => simp [hrest c rfl]

end Front

/-! ## Marks -/

theorem cut?_append {mark : Char} {before : List Char} (h : mark ∉ before) (after : List Char) :
    cut? mark (before ++ mark :: after) = some (before, after) := by
  induction before with
  | nil => simp [cut?]
  | cons c before ih =>
      have hc : c ≠ mark := fun heq => h (heq ▸ List.mem_cons_self)
      have hrest := ih fun hmem => h (List.mem_cons_of_mem _ hmem)
      simp [cut?, hc, hrest]

theorem cut?_eq_none {mark : Char} {text : List Char} (h : mark ∉ text) :
    cut? mark text = none := by
  induction text with
  | nil => rfl
  | cons c rest ih =>
      have hc : c ≠ mark := fun heq => h (heq ▸ List.mem_cons_self)
      have hrest := ih fun hmem => h (List.mem_cons_of_mem _ hmem)
      simp [cut?, hc, hrest]

theorem not_mem_of_cut?_eq_none {mark : Char} {text : List Char} (h : cut? mark text = none) :
    mark ∉ text := by
  induction text with
  | nil => exact List.not_mem_nil
  | cons c rest ih =>
      rw [cut?] at h
      split at h
      case isTrue => cases h
      case isFalse hc =>
        have hrest := ih (by simpa using h)
        simp [Ne.symm hc, hrest]

/-- Texts without the mark are what they were between the marks. -/
theorem splitOn_join {mark : Char} {texts : List (List Char)} (h : ∀ text ∈ texts, mark ∉ text)
    (hne : texts ≠ []) : (join [mark] texts).splitOn mark = texts :=
  List.splitOn_intercalate mark h hne

theorem join_splitOn (mark : Char) (text : List Char) : join [mark] (text.splitOn mark) = text :=
  List.intercalate_splitOn mark

/-- Marks are put between texts only. -/
theorem mem_of_mem_join {mark c : Char} {texts : List (List Char)} (h : c ∈ join [mark] texts) :
    c = mark ∨ ∃ text ∈ texts, c ∈ text := by
  induction texts with
  | nil => cases h
  | cons text rest ih =>
      cases rest with
      | nil => exact .inr ⟨text, List.mem_cons_self, by simpa [join] using h⟩
      | cons second rest =>
          have hstep : join [mark] (text :: second :: rest) =
              text ++ mark :: join [mark] (second :: rest) := rfl
          rw [hstep] at h
          rcases List.mem_append.1 h with h | h
          · exact .inr ⟨text, List.mem_cons_self, h⟩
          · rcases List.mem_cons.1 h with h | h
            · exact .inl h
            · rcases ih h with h | ⟨t, ht, hc⟩
              · exact .inl h
              · exact .inr ⟨t, List.mem_cons_of_mem _ ht, hc⟩

/-! ## Lower case -/

/-- Lower-casing moves the capitals alone. -/
theorem toLower_cases (c : Char) :
    c.toLower = c ∨ (65 ≤ c.toNat ∧ c.toNat ≤ 90 ∧ c.toLower.toNat = c.toNat + 32) := by
  unfold Char.toLower
  split
  case isTrue h =>
    have hlow : 65 ≤ c.toNat := UInt32.le_iff_toNat_le.1 h.1
    have hhigh : c.toNat ≤ 90 := UInt32.le_iff_toNat_le.1 h.2
    refine .inr ⟨hlow, hhigh, ?_⟩
    have hval : (c.val + ('a'.val - 'A'.val)).toNat = (c.toNat + 32) % 4294967296 :=
      UInt32.toNat_add c.val 32
    exact hval.trans (Nat.mod_eq_of_lt (by omega))
  case isFalse => exact .inl rfl

theorem toLower_toLower (c : Char) : c.toLower.toLower = c.toLower := by
  rcases toLower_cases c with h | ⟨hlow, hhigh, h⟩
  · rw [h, h]
  · rcases toLower_cases c.toLower with h' | ⟨hlow', hhigh', -⟩
    · exact h'
    · omega

/-- Only a small letter is the image of another character. -/
theorem toLower_eq_iff {c mark : Char} (hmark : mark.toNat < 65) : c.toLower = mark ↔ c = mark := by
  rcases toLower_cases c with h | ⟨hlow, hhigh, h⟩
  · rw [h]
  · constructor
    · rintro rfl
      omega
    · rintro rfl
      omega

theorem isBlank_toLower {c : Char} (h : isBlank c = false) : isBlank c.toLower = false := by
  rcases toLower_cases c with heq | ⟨hlow, hhigh, heq⟩
  · rwa [heq]
  · exact isBlank_of_visible (by omega) (by omega)

theorem isAlphanum_toLower {c : Char} (h : c.isAlphanum = true) : c.toLower.isAlphanum = true := by
  rcases toLower_cases c with heq | ⟨hlow, hhigh, heq⟩
  · rwa [heq]
  · have hlower : c.toLower.isLower = true := by
      unfold Char.isLower
      simp only [ge_iff_le, Bool.and_eq_true, decide_eq_true_eq]
      exact ⟨UInt32.le_iff_toNat_le.2 (show 97 ≤ c.toLower.toNat by omega),
        UInt32.le_iff_toNat_le.2 (show c.toLower.toNat ≤ 122 by omega)⟩
    unfold Char.isAlphanum Char.isAlpha
    simp [hlower]

theorem lowerAscii_lowerAscii (text : List Char) :
    lowerAscii (lowerAscii text) = lowerAscii text := by
  rw [lowerAscii, lowerAscii, List.map_map]
  exact List.map_congr_left fun c _ => toLower_toLower c

/-- Texts with marks between them are lowered one by one. -/
theorem lowerAscii_join {mark : Char} (hmark : mark.toNat < 65) (texts : List (List Char)) :
    lowerAscii (join [mark] texts) = join [mark] (texts.map lowerAscii) := by
  induction texts with
  | nil => rfl
  | cons text rest ih =>
      cases rest with
      | nil => simp [join]
      | cons second rest =>
          have hstep (text second : List Char) (rest : List (List Char)) :
              join [mark] (text :: second :: rest) = text ++ mark :: join [mark] (second :: rest) :=
            rfl
          rw [List.map_cons, List.map_cons, hstep, hstep, ← List.map_cons, ← ih]
          simp [lowerAscii, (toLower_eq_iff hmark).2]

/-- The parts between marks are lowered one by one. -/
theorem splitOn_lowerAscii {mark : Char} (hmark : mark.toNat < 65) (text : List Char) :
    (lowerAscii text).splitOn mark = (text.splitOn mark).map lowerAscii := by
  induction text with
  | nil => rfl
  | cons c text ih =>
      rw [lowerAscii] at ih
      rw [lowerAscii, List.map_cons, List.splitOn_cons_eq_if_modifyHead,
        List.splitOn_cons_eq_if_modifyHead, ih]
      by_cases hc : c = mark
      · simp [hc, (toLower_eq_iff hmark).2 rfl, lowerAscii]
      · have hlower : c.toLower ≠ mark := fun heq => hc ((toLower_eq_iff hmark).1 heq)
        rw [if_neg (by simpa using hlower), if_neg (by simpa using hc)]
        cases text.splitOn mark <;> simp [lowerAscii]

/-! ## Digits -/

/-- Whether a text consists of decimal digits. -/
def AllDigits (text : List Char) : Prop :=
  ∀ c ∈ text, c.isDigit = true

theorem toNat_of_isDigit {c : Char} (h : c.isDigit = true) : 48 ≤ c.toNat ∧ c.toNat ≤ 57 := by
  simp only [Char.isDigit, ge_iff_le, Bool.and_eq_true, decide_eq_true_eq] at h
  exact ⟨UInt32.le_iff_toNat_le.1 h.1, UInt32.le_iff_toNat_le.1 h.2⟩

theorem isBlank_of_isDigit {c : Char} (h : c.isDigit = true) : isBlank c = false := by
  rcases toNat_of_isDigit h with ⟨low, high⟩
  exact isBlank_of_visible (by omega) (by omega)

theorem isBlank_of_isAlphanum {c : Char} (h : c.isAlphanum = true) : isBlank c = false := by
  unfold Char.isAlphanum Char.isAlpha Char.isUpper Char.isLower at h
  simp only [Bool.or_eq_true, Bool.and_eq_true, decide_eq_true_eq] at h
  rcases h with (⟨hlow, hhigh⟩ | ⟨hlow, hhigh⟩) | hdigit
  · have hlow' : 65 ≤ c.toNat := UInt32.le_iff_toNat_le.1 hlow
    have hhigh' : c.toNat ≤ 90 := UInt32.le_iff_toNat_le.1 hhigh
    exact isBlank_of_visible (by omega) (by omega)
  · have hlow' : 97 ≤ c.toNat := UInt32.le_iff_toNat_le.1 hlow
    have hhigh' : c.toNat ≤ 122 := UInt32.le_iff_toNat_le.1 hhigh
    exact isBlank_of_visible (by omega) (by omega)
  · exact isBlank_of_isDigit hdigit

/-- A character is no white space if it is a digit or one of some marks that are none. -/
theorem isBlank_of_isDigit_or_mem {c : Char} {marks : List Char}
    (hmarks : (marks.all fun mark => !isBlank mark) = true)
    (h : c.isDigit = true ∨ c ∈ marks) : isBlank c = false := by
  rcases h with h | h
  · exact isBlank_of_isDigit h
  · simpa using List.all_eq_true.1 hmarks c h

namespace AllDigits

variable {text more : List Char}

theorem append (h : AllDigits text) (h' : AllDigits more) : AllDigits (text ++ more) := by
  intro c hc
  rcases List.mem_append.1 hc with hc | hc
  · exact h c hc
  · exact h' c hc

theorem not_mem {mark : Char} (h : AllDigits text) (hmark : mark.isDigit = false) :
    mark ∉ text := by
  intro hmem
  rw [h mark hmem] at hmark
  cases hmark

/-- Digits go as far as the first other character. -/
theorem takeWhile_append (h : AllDigits text) {rest : List Char}
    (hrest : ∀ c ∈ rest.head?, c.isDigit = false) :
    (text ++ rest).takeWhile Char.isDigit = text :=
  takeWhile_eq_front h hrest

theorem dropWhile_append (h : AllDigits text) {rest : List Char}
    (hrest : ∀ c ∈ rest.head?, c.isDigit = false) :
    (text ++ rest).dropWhile Char.isDigit = rest :=
  dropWhile_eq_rest h hrest

end AllDigits

theorem allDigits_decimal (n : Nat) : AllDigits (decimal n) :=
  fun _ hc => Nat.isDigit_of_mem_toDigits (by decide) (by decide) hc

theorem decimal_ne_nil (n : Nat) : decimal n ≠ [] :=
  Nat.toDigits_ne_nil

theorem allDigits_padZeros (width n : Nat) : AllDigits (padZeros width (decimal n)) := by
  refine AllDigits.append (fun c hc => ?_) (allDigits_decimal n)
  rw [List.eq_of_mem_replicate hc]
  rfl

theorem padZeros_ne_nil (width n : Nat) : padZeros width (decimal n) ≠ [] :=
  List.append_ne_nil_of_right_ne_nil _ (decimal_ne_nil n)

/-- Zeros in front do not change the value. -/
theorem ofDigitChars_padZeros (width n : Nat) :
    Nat.ofDigitChars 10 (padZeros width (decimal n)) 0 = n := by
  rw [padZeros, Nat.ofDigitChars_append, Nat.ofDigitChars_replicate_zero, Nat.mul_zero, decimal,
    Nat.ofDigitChars_ten_toDigits]

theorem length_decimal_le {n k : Nat} (hk : 0 < k) : (decimal n).length ≤ k ↔ n < 10 ^ k :=
  Nat.length_toDigits_le_iff (by decide) hk

theorem length_padZeros {width n : Nat} (hwidth : 0 < width) (h : n < 10 ^ width) :
    (padZeros width (decimal n)).length = width := by
  have hlength := (length_decimal_le hwidth).2 h
  rw [padZeros, List.length_append, List.length_replicate]
  omega

theorem le_ofDigitChars (digits : List Char) (value : Nat) :
    value ≤ Nat.ofDigitChars 10 digits value := by
  have hpos : 0 < 10 ^ digits.length := Nat.pow_pos (by decide)
  calc
    value ≤ 10 ^ digits.length * value := Nat.le_mul_of_pos_left value hpos
    _ ≤ 10 ^ digits.length * value + Nat.ofDigitChars 10 digits 0 := Nat.le_add_right _ _
    _ = Nat.ofDigitChars 10 digits value := Nat.ofDigitChars_eq_ofDigitChars_zero.symm

/-- The digits of a number say how great it is at most. -/
theorem ofDigitChars_lt {digits : List Char} (h : AllDigits digits) :
    Nat.ofDigitChars 10 digits 0 < 10 ^ digits.length := by
  have hvalue (value : Nat) :
      Nat.ofDigitChars 10 digits value < (value + 1) * 10 ^ digits.length := by
    induction digits generalizing value with
    | nil => simp
    | cons c digits ih =>
        have hc := toNat_of_isDigit (h c List.mem_cons_self)
        have hzero : '0'.toNat = 48 := rfl
        rw [Nat.ofDigitChars_cons]
        calc
          _ < (10 * value + (c.toNat - '0'.toNat) + 1) * 10 ^ digits.length :=
            ih (fun d hd => h d (List.mem_cons_of_mem _ hd)) _
          _ ≤ ((value + 1) * 10) * 10 ^ digits.length := Nat.mul_le_mul_right _ (by omega)
          _ = (value + 1) * 10 ^ (digits.length + 1) := by rw [Nat.mul_assoc, Nat.pow_succ']
  simpa using hvalue 0

end Text
end Xacml
