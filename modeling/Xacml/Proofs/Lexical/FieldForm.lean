import Mathlib.Data.List.TakeWhile
import Xacml.Proofs.Lexical.Numeral
import Xacml.Proofs.Typing.Ending
import Xacml.Temporal.Field

/-!
# What the readers of fields take

A reader of dates or times of day that comes to the end of a text has met digits and marks only,
and white space before the digits.

* `IsField` says what one field is made of,
* `exists_of_readClock` takes a time of day apart into its fields, and `exists_of_readDateFields` a
  date.
-/

namespace Xacml
namespace Temporal

variable {text rest : List Char} {n : Nat}

/-! ## Numbers -/

theorem eq_of_readDigits {digits found : List Char} (h : readDigits digits text = .ok found) :
    found = digits ∧ digits ≠ [] := by
  rw [readDigits] at h
  split at h
  · cases h
  · split at h
    case isTrue => cases h
    case isFalse hne =>
      cases h
      exact ⟨rfl, by simpa using hne⟩

/-- The digits at the front of a text are followed by what is left when they are dropped. -/
theorem append_drop_of_prefix {digits : List Char} (h : digits <+: text) :
    text = digits ++ text.drop digits.length := by
  rcases h with ⟨after, rfl⟩
  rw [List.drop_left]

theorem isNumeral_takeWhile (hne : text.takeWhile Char.isDigit ≠ []) :
    Text.IsNumeral (text.takeWhile Char.isDigit) :=
  ⟨hne, fun _ hc => List.mem_takeWhile_imp hc⟩

theorem exists_of_readNumber {width : Nat} (h : readNumber width text = .ok (n, rest)) :
    ∃ digits, text = digits ++ rest ∧ Text.IsNumeral digits := by
  rcases exists_of_bind_eq_ok h with ⟨digits, hdigits, h⟩
  cases h
  rcases eq_of_readDigits hdigits with ⟨rfl, hne⟩
  exact ⟨_, append_drop_of_prefix ((List.takeWhile_prefix _).trans (List.take_prefix width text)),
    isNumeral_takeWhile hne⟩

theorem exists_of_readLongNumber (h : readLongNumber text = .ok (n, rest)) :
    ∃ digits, text = digits ++ rest ∧ Text.IsNumeral digits := by
  rcases exists_of_bind_eq_ok h with ⟨digits, hdigits, h⟩
  rcases eq_of_readDigits hdigits with ⟨rfl, hne⟩
  dsimp only at h
  split at h
  case isTrue =>
    cases h
    exact ⟨_, append_drop_of_prefix (List.takeWhile_prefix _), isNumeral_takeWhile hne⟩
  case isFalse => cases h

/-! ## Fields -/

/-- Whether a text is made of digits and white space, and ends in a digit. -/
structure IsField (field : List Char) : Prop where
  chars : ∀ c ∈ field, c.isDigit = true ∨ Text.isBlank c = true
  last : ∃ c ∈ field.getLast?, c.isDigit = true

theorem IsField.of_isNumeral {digits : List Char} (h : Text.IsNumeral digits) : IsField digits :=
  ⟨fun c hc => .inl (h.digits c hc), h.exists_last⟩

theorem IsField.blanks_append {blanks field : List Char} (h : IsField field)
    (hblanks : ∀ c ∈ blanks, Text.isBlank c = true) : IsField (blanks ++ field) := by
  refine ⟨fun c hc => ?_, ?_⟩
  · exact (List.mem_append.1 hc).elim (fun hc => .inr (hblanks c hc)) (h.chars c)
  · rcases h.last with ⟨c, hc, hdigit⟩
    exact ⟨c, List.mem_getLast?_append_of_mem_getLast? hc, hdigit⟩

theorem IsField.ne_nil {field : List Char} (h : IsField field) : field ≠ [] := by
  rintro rfl
  rcases h.last with ⟨c, hc, -⟩
  cases hc

/-- The white space that a text starts with, and the rest of it. -/
theorem exists_blanks (text : List Char) :
    ∃ blanks, (∀ c ∈ blanks, Text.isBlank c = true) ∧ text = blanks ++ Text.trimStart text :=
  ⟨text.takeWhile Text.isBlank, fun _ hc => List.mem_takeWhile_imp hc,
    List.takeWhile_append_dropWhile.symm⟩

theorem exists_of_readField {low high : Nat} (h : readField low high text = .ok (n, rest)) :
    ∃ field, text = field ++ rest ∧ IsField field := by
  rcases exists_blanks text with ⟨blanks, hblanks, htext⟩
  rcases exists_of_bind_eq_ok h with ⟨⟨value, after⟩, hnumber, h⟩
  rcases exists_of_readNumber hnumber with ⟨digits, hdigits, hnumeral⟩
  dsimp only at h
  split at h
  case isTrue =>
    cases h
    refine ⟨blanks ++ digits, ?_, (IsField.of_isNumeral hnumeral).blanks_append hblanks⟩
    rw [List.append_assoc, ← hdigits, ← htext]
  case isFalse => cases h

theorem eq_of_readMark {mark : Char} (h : readMark mark text = .ok rest) : text = mark :: rest := by
  cases text with
  | nil => cases h
  | cons c more =>
      rw [readMark] at h
      split at h
      case isTrue hc =>
        cases h
        rw [hc]
      case isFalse => cases h

/-! ## Times of day -/

/-- A fraction up to the end of the text is a point with digits after it, however many. -/
theorem exists_of_readFraction (h : readFraction text = .ok (n, [])) :
    text = [] ∨ ∃ digits, text = '.' :: digits ∧ Text.IsNumeral digits := by
  unfold readFraction at h
  split at h
  case h_1 more =>
    rcases exists_of_bind_eq_ok h with ⟨digits, hdigits, h⟩
    rcases eq_of_readDigits hdigits with ⟨rfl, hne⟩
    have hprefix := (List.takeWhile_prefix Char.isDigit).trans (List.take_prefix 9 more)
    have hmore := append_drop_of_prefix hprefix
    have hafter : Text.AllDigits (more.drop ((more.take 9).takeWhile Char.isDigit).length) := by
      have hnil := congrArg Prod.snd (Except.ok.inj h)
      exact List.dropWhile_eq_nil_iff.1 hnil
    have hdigits' := isNumeral_takeWhile hne
    refine .inr ⟨more, rfl, ?_, ?_⟩
    · rw [hmore]
      exact List.append_ne_nil_of_left_ne_nil hne _
    · rw [hmore]
      exact hdigits'.digits.append hafter
  case h_2 =>
    cases h
    exact .inl rfl

/-- A time of day consists of its fields with colons between them, and a fraction. -/
theorem exists_of_readClock {clock : Clock} (h : readClock text = .ok (clock, [])) :
    ∃ hour minute second fraction,
      text = hour ++ ':' :: (minute ++ ':' :: (second ++ fraction)) ∧
        IsField hour ∧ IsField minute ∧ IsField second ∧
          (fraction = [] ∨ ∃ digits, fraction = '.' :: digits ∧ Text.IsNumeral digits) := by
  rcases exists_of_bind_eq_ok h with ⟨⟨_, rest₁⟩, hhour, h⟩
  rcases exists_of_bind_eq_ok h with ⟨rest₂, hmark, h⟩
  rcases exists_of_bind_eq_ok h with ⟨⟨_, rest₃⟩, hminute, h⟩
  rcases exists_of_bind_eq_ok h with ⟨rest₄, hmark', h⟩
  rcases exists_of_bind_eq_ok h with ⟨⟨_, rest₅⟩, hsecond, h⟩
  rcases exists_of_bind_eq_ok h with ⟨⟨_, rest₆⟩, hfraction, h⟩
  cases h
  rcases exists_of_readField hhour with ⟨hour, rfl, hhour'⟩
  rcases exists_of_readField hminute with ⟨minute, rfl, hminute'⟩
  rcases exists_of_readField hsecond with ⟨second, rfl, hsecond'⟩
  cases eq_of_readMark hmark
  cases eq_of_readMark hmark'
  exact ⟨hour, minute, second, rest₅, rfl, hhour', hminute', hsecond',
    exists_of_readFraction hfraction⟩

/-- A time of day ends in a digit, of its second or of its fraction. -/
theorem exists_last_of_readClock {clock : Clock} (h : readClock text = .ok (clock, [])) :
    ∃ c ∈ text.getLast?, c.isDigit = true := by
  rcases exists_of_readClock h with ⟨hour, minute, second, fraction, rfl, -, -, hsecond, hfraction⟩
  have hend : ∃ c ∈ (second ++ fraction).getLast?, c.isDigit = true := by
    rcases hfraction with rfl | ⟨digits, rfl, hdigits⟩
    · simpa using hsecond.last
    · rcases hdigits.exists_last with ⟨c, hc, hdigit⟩
      exact ⟨c, List.mem_getLast?_append_of_mem_getLast? (List.mem_getLast?_cons hc), hdigit⟩
  rcases hend with ⟨c, hc, hdigit⟩
  refine ⟨c, List.mem_getLast?_append_of_mem_getLast? (List.mem_getLast?_cons ?_), hdigit⟩
  exact List.mem_getLast?_append_of_mem_getLast? (List.mem_getLast?_cons hc)

/-! ## Dates -/

/-- A year is a number with a sign or without, which white space may precede. -/
theorem exists_of_readYear {year : Int} (h : readYear text = .ok (year, rest)) :
    ∃ field, text = field ++ rest ∧ ':' ∉ field := by
  rcases exists_blanks text with ⟨blanks, hblanks, htext⟩
  have hfront {sign digits : List Char} (hsign : ':' ∉ sign) (hdigits : Text.IsNumeral digits)
      (hstart : Text.trimStart text = sign ++ (digits ++ rest)) :
      ∃ field, text = field ++ rest ∧ ':' ∉ field := by
    refine ⟨blanks ++ (sign ++ digits), ?_, ?_⟩
    · rw [List.append_assoc, List.append_assoc, ← hstart, ← htext]
    · simp only [List.mem_append, not_or]
      exact ⟨fun hmem => absurd (hblanks _ hmem) (by decide), hsign,
        hdigits.digits.not_mem (by decide)⟩
  have hafter {supported : Bool} {value : Int} {after : List Char}
      (h : (if supported = true then (pure (value, after) : Except Fault (Int × List Char))
        else throw .outOfRange) = .ok (year, rest)) : after = rest := by
    split at h <;> cases h
    rfl
  unfold readYear at h
  split at h
  case h_1 more hstart =>
    rcases exists_of_bind_eq_ok h with ⟨_, hnumber, hcheck⟩
    rcases exists_of_map_eq_ok hnumber with ⟨⟨_, after⟩, hread, rfl⟩
    rcases exists_of_readLongNumber hread with ⟨digits, rfl, hdigits⟩
    exact @hfront ['-'] digits (by decide) hdigits (hafter hcheck ▸ hstart)
  case h_2 more hstart =>
    rcases exists_of_bind_eq_ok h with ⟨_, hnumber, hcheck⟩
    rcases exists_of_map_eq_ok hnumber with ⟨⟨_, after⟩, hread, rfl⟩
    rcases exists_of_readLongNumber hread with ⟨digits, rfl, hdigits⟩
    exact @hfront ['+'] digits (by decide) hdigits (hafter hcheck ▸ hstart)
  case h_3 =>
    rcases exists_of_bind_eq_ok h with ⟨_, hnumber, hcheck⟩
    rcases exists_of_map_eq_ok hnumber with ⟨⟨_, after⟩, hread, rfl⟩
    rcases exists_of_readNumber hread with ⟨digits, hstart, hdigits⟩
    exact @hfront [] digits (by decide) hdigits (hafter hcheck ▸ hstart)

/-- A date has no colon in it, and ends in the field of its day. -/
theorem exists_of_readDateFields {fields : DateFields}
    (h : readDateFields text = .ok (fields, rest)) :
    ∃ front day, text = front ++ (day ++ rest) ∧ ':' ∉ front ++ day ∧ IsField day := by
  rcases exists_of_bind_eq_ok h with ⟨⟨_, rest₁⟩, hyear, h⟩
  rcases exists_of_bind_eq_ok h with ⟨rest₂, hmark, h⟩
  rcases exists_of_bind_eq_ok h with ⟨⟨_, rest₃⟩, hmonth, h⟩
  rcases exists_of_bind_eq_ok h with ⟨rest₄, hmark', h⟩
  rcases exists_of_bind_eq_ok h with ⟨⟨_, rest₅⟩, hday, h⟩
  cases h
  rcases exists_of_readYear hyear with ⟨year, rfl, hyear'⟩
  rcases exists_of_readField hmonth with ⟨month, rfl, hmonth'⟩
  rcases exists_of_readField hday with ⟨day, rfl, hday'⟩
  cases eq_of_readMark hmark
  cases eq_of_readMark hmark'
  have hcolon {field : List Char} (hfield : IsField field) : ':' ∉ field := by
    intro hmem
    rcases hfield.chars _ hmem with hc | hc <;> exact absurd hc (by decide)
  refine ⟨year ++ '-' :: (month ++ ['-']), day, by simp, ?_, hday'⟩
  simp [hyear', hcolon hmonth', hcolon hday']

theorem exists_last_of_readDateFields {fields : DateFields}
    (h : readDateFields text = .ok (fields, [])) : ∃ c ∈ text.getLast?, c.isDigit = true := by
  rcases exists_of_readDateFields h with ⟨front, day, rfl, -, hday⟩
  rcases hday.last with ⟨c, hc, hdigit⟩
  rw [List.append_nil]
  exact ⟨c, List.mem_getLast?_append_of_mem_getLast? hc, hdigit⟩

end Temporal
end Xacml
