import Mathlib.Data.List.Basic
import Xacml.Proofs.Lexical.Numeral
import Xacml.Proofs.Typing.Ending
import Xacml.Temporal.Zone

/-!
# Forms of zones

A zone is looked for at the end of a text, by counting octets from there.

* `ZoneForm` is the form of a zone, with a switch for the signs that the reader takes for digits,
* `splitZone_eq_some_iff`: what is cut off is a zone of this form, whatever stands before it,
* `isValidZone_of_splitZone`: a zone that was cut off is a number of minutes below fifteen hours.
-/

namespace Xacml
namespace Temporal

/-! ## Fields of zones -/

theorem utf8Size_of_isDigit {c : Char} (h : c.isDigit = true) : c.utf8Size = 1 := by
  have hrange := Text.toNat_of_isDigit h
  rw [Char.utf8Size, if_pos]
  exact UInt32.le_iff_toNat_le.2 (show c.toNat ≤ 127 by omega)

/-- Whether a text of two characters is the hours or the minutes of a zone: two digits, or a sign
and a digit if the reader is lenient. -/
structure IsZoneField (lenient : Bool) (field : List Char) (n : Int) : Prop where
  length : field.length = 2
  signed : Text.Signed field n
  digits : lenient = false → Text.AllDigits field

namespace IsZoneField

variable {lenient : Bool} {field : List Char} {n : Int}

theorem of_isNumeral (hlength : field.length = 2) (h : Text.IsNumeral field) :
    IsZoneField lenient field (Nat.ofDigitChars 10 field 0 : Nat) :=
  ⟨hlength, .bare h, fun _ => h.digits⟩

theorem of_strict (h : IsZoneField false field n) : IsZoneField lenient field n :=
  ⟨h.length, h.signed, fun _ => h.digits rfl⟩

/-- Two characters denote a number from -9 to 99. -/
theorem bounds (h : IsZoneField lenient field n) : -9 ≤ n ∧ n ≤ 99 := by
  have hlength := h.length
  have hlt {digits : List Char} (hdigits : Text.IsNumeral digits) {width : Nat}
      (hwidth : digits.length = width) : Nat.ofDigitChars 10 digits 0 < 10 ^ width :=
    hwidth ▸ Text.ofDigitChars_lt hdigits.digits
  cases h.signed with
  | bare hdigits =>
      have hvalue := hlt hdigits hlength
      omega
  | plus hdigits | minus hdigits =>
      -- One of the two characters is the sign.
      have hvalue := hlt hdigits (Nat.succ.inj hlength)
      omega

theorem signed?_eq (h : IsZoneField lenient field n) :
    Text.signed? (Nat.pow 2 31) field = some n := by
  have hbounds := h.bounds
  have hpow : Nat.pow 2 31 = 2147483648 := by decide
  exact Text.signed?_eq_some_iff.2 ⟨h.signed, by omega⟩

/-- The characters of a field take an octet each. -/
theorem exists_pair (h : IsZoneField lenient field n) :
    ∃ a b, field = [a, b] ∧ a.utf8Size = 1 ∧ b.utf8Size = 1 := by
  rcases List.length_eq_two.1 h.length with ⟨a, b, rfl⟩
  have hsize : ∀ c ∈ [a, b], c.utf8Size = 1 := by
    intro c hc
    cases h.signed with
    | bare hdigits => exact utf8Size_of_isDigit (hdigits.digits c hc)
    | plus hdigits | minus hdigits =>
        rcases List.mem_cons.1 hc with rfl | hc
        · rfl
        · exact utf8Size_of_isDigit (hdigits.digits c hc)
  exact ⟨a, b, rfl, hsize a (by simp), hsize b (by simp)⟩

end IsZoneField

/-! ## Forms of zones -/

/-- The zones that a text may end in, and their offsets in seconds: `Z`, or a sign, the hours up to
14, a colon and the minutes up to 59. -/
inductive ZoneForm (lenient : Bool) : List Char → Int → Prop
  | universal : ZoneForm lenient ['Z'] 0
  | east {hours minutes : List Char} {h m : Int} (hhours : IsZoneField lenient hours h)
      (hminutes : IsZoneField lenient minutes m) (hmaxHours : h ≤ 14) (hmaxMinutes : m ≤ 59) :
      ZoneForm lenient ('+' :: (hours ++ ':' :: minutes)) (h * 3600 + m * 60)
  | west {hours minutes : List Char} {h m : Int} (hhours : IsZoneField lenient hours h)
      (hminutes : IsZoneField lenient minutes m) (hmaxHours : h ≤ 14) (hmaxMinutes : m ≤ 59) :
      ZoneForm lenient ('-' :: (hours ++ ':' :: minutes)) (-(h * 3600 + m * 60))

/-- Whether an offset is a number of minutes that two digits for the hours, up to 14, and two for
the minutes can write. -/
def IsValidZone (zone : Option Int) : Prop :=
  ∀ offset ∈ zone, offset % 60 = 0 ∧ offset.natAbs ≤ 53940

theorem ZoneForm.of_strict {lenient : Bool} {zone : List Char} {offset : Int}
    (h : ZoneForm false zone offset) : ZoneForm lenient zone offset := by
  cases h with
  | universal => exact .universal
  | east hhours hminutes hmaxHours hmaxMinutes =>
      exact .east hhours.of_strict hminutes.of_strict hmaxHours hmaxMinutes
  | west hhours hminutes hmaxHours hmaxMinutes =>
      exact .west hhours.of_strict hminutes.of_strict hmaxHours hmaxMinutes

theorem ZoneForm.isValidZone {lenient : Bool} {zone : List Char} {offset : Int}
    (h : ZoneForm lenient zone offset) : IsValidZone (some offset) := by
  rintro _ ⟨⟩
  cases h with
  | universal => decide
  | east hhours hminutes | west hhours hminutes =>
      have hlow := hhours.bounds
      have hlow' := hminutes.bounds
      omega

/-- A zone ends in `Z` or in a digit, and in no white space. -/
theorem ZoneForm.exists_last {lenient : Bool} {zone : List Char} {offset : Int}
    (h : ZoneForm lenient zone offset) : ∃ c ∈ zone.getLast?, Text.isBlank c = false := by
  cases h with
  | universal => exact ⟨'Z', rfl, by decide⟩
  | @east hours minutes _ _ _ hminutes | @west hours minutes _ _ _ hminutes =>
      rcases hminutes.signed.exists_last with ⟨c, hc, hdigit⟩
      refine ⟨c, List.mem_getLast?_cons ?_, Text.isBlank_of_isDigit hdigit⟩
      exact List.mem_getLast?_append_of_mem_getLast? (List.mem_getLast?_cons hc)

/-! ## Cutting octets -/

/-- What is cut off are two octets, in two characters or in one. -/
theorem cutOctets_spec {text octets rest : List Char} (h : cutOctets text = some (octets, rest)) :
    text = octets.reverse ++ rest ∧
      (octets.length = 2 ∨ ∃ c, octets = [c] ∧ c.utf8Size = 2) := by
  unfold cutOctets at h
  split at h
  case h_1 last more =>
    split at h
    case isTrue hsize =>
      cases h
      exact ⟨rfl, .inr ⟨last, rfl, hsize⟩⟩
    case isFalse =>
      split at h
      case h_1 first more =>
        split at h
        case isTrue =>
          cases h
          exact ⟨rfl, .inl rfl⟩
        case isFalse => cases h
      case h_2 => cases h
  case h_2 => cases h

/-- A number of two octets has two characters. -/
theorem isZoneField_of_signed? {limit : Nat} {octets : List Char} {n : Int}
    (hlength : octets.length = 2 ∨ ∃ c, octets = [c] ∧ c.utf8Size = 2)
    (h : Text.signed? limit octets = some n) : IsZoneField true octets n := by
  have hsigned := (Text.signed?_eq_some_iff.1 h).1
  rcases hlength with hlength | ⟨c, rfl, hsize⟩
  · exact ⟨hlength, hsigned, fun heq => nomatch heq⟩
  · cases hsigned with
    | bare hdigits =>
        rw [utf8Size_of_isDigit (hdigits.digits c (by simp))] at hsize
        cases hsize
    | plus hdigits | minus hdigits => exact absurd rfl hdigits.ne_nil

theorem cutOctets_pair {a b : Char} {rest : List Char} (ha : a.utf8Size = 1)
    (hb : b.utf8Size = 1) : cutOctets (b :: a :: rest) = some ([a, b], rest) := by
  simp [cutOctets, ha, hb]

/-- The sign before the hours of a zone. -/
def ZoneParts.sign (parts : ZoneParts) : Char :=
  if parts.negative then '-' else '+'

/-- The parts that are found make up the end of the text. -/
theorem zoneParts?_spec {text : List Char} {parts : ZoneParts}
    (h : zoneParts? text = some parts) :
    text = parts.before ++ parts.sign :: (parts.hours ++ ':' :: parts.minutes) ∧
      (parts.hours.length = 2 ∨ ∃ c, parts.hours = [c] ∧ c.utf8Size = 2) ∧
        (parts.minutes.length = 2 ∨ ∃ c, parts.minutes = [c] ∧ c.utf8Size = 2) := by
  have hparts {negative : Bool} {hours minutes rest before : List Char}
      (hminutes : cutOctets text.reverse = some (minutes, ':' :: rest))
      (hhours : cutOctets rest =
        some (hours, (ZoneParts.mk negative hours minutes before.reverse).sign :: before)) :
      text = before.reverse ++ (ZoneParts.mk negative hours minutes before.reverse).sign ::
        (hours ++ ':' :: minutes) := by
    rw [← List.reverse_reverse text, (cutOctets_spec hminutes).1, (cutOctets_spec hhours).1]
    simp
  unfold zoneParts? at h
  split at h
  case h_1 minutes rest hminutes =>
    split at h
    case h_1 hours before hhours =>
      cases h
      exact ⟨hparts hminutes hhours, (cutOctets_spec hhours).2, (cutOctets_spec hminutes).2⟩
    case h_2 hours before hhours =>
      cases h
      exact ⟨hparts hminutes hhours, (cutOctets_spec hhours).2, (cutOctets_spec hminutes).2⟩
    case h_3 => cases h
  case h_2 => cases h

/-- The parts of a zone are found at the end of a text. -/
theorem zoneParts?_append {body hours minutes : List Char} {h m : Int} {sign : Char}
    (hsign : sign = '+' ∨ sign = '-') (hhours : IsZoneField true hours h)
    (hminutes : IsZoneField true minutes m) :
    zoneParts? (body ++ sign :: (hours ++ ':' :: minutes)) =
      some ⟨sign == '-', hours, minutes, body⟩ := by
  rcases hhours.exists_pair with ⟨a, b, rfl, ha, hb⟩
  rcases hminutes.exists_pair with ⟨c, d, rfl, hc, hd⟩
  have hreverse : (body ++ sign :: ([a, b] ++ ':' :: [c, d])).reverse =
      d :: c :: ':' :: b :: a :: sign :: body.reverse := by simp
  rw [zoneParts?, hreverse, cutOctets_pair hc hd]
  simp only [cutOctets_pair ha hb]
  rcases hsign with rfl | rfl <;> simp

/-- Hours after the fourteenth are refused. -/
theorem ZoneParts.offset_of_fields {parts : ZoneParts} {h m : Int}
    (hhours : IsZoneField true parts.hours h) (hminutes : IsZoneField true parts.minutes m)
    (hmaxMinutes : m ≤ 59) :
    parts.offset =
      if 14 < h then .error .zoneRange
      else .ok (if parts.negative then -(h * 3600 + m * 60) else h * 3600 + m * 60) := by
  have hlow := hhours.bounds
  have hlow' := hminutes.bounds
  have hrange : (decide (14 < h) || decide (59 < m) ||
      decide (daySeconds ≤ (h * 3600 + m * 60).natAbs)) = true ↔ 14 < h := by
    have hday : daySeconds = 86400 := rfl
    simp only [Bool.or_eq_true, decide_eq_true_eq]
    omega
  rw [ZoneParts.offset, hhours.signed?_eq, hminutes.signed?_eq]
  simp only [hrange]

theorem ne_of_isDigit {c mark : Char} (h : c.isDigit = true) (hmark : mark.isDigit = false) :
    c ≠ mark := by
  rintro rfl
  rw [h] at hmark
  cases hmark

/-- A text that ends in a digit does not end in `Z`. -/
theorem getLast?_ne_of_digit {text : List Char} (h : ∃ c ∈ text.getLast?, c.isDigit = true)
    (front : List Char) : (front ++ text).getLast? ≠ some 'Z' := by
  rcases h with ⟨c, hc, hdigit⟩
  rw [List.mem_getLast?_append_of_mem_getLast? hc]
  exact fun heq => ne_of_isDigit hdigit (by decide) (Option.some.inj heq)

/-- A text that ends in another character than `Z` has no zone or one with a sign. -/
theorem splitZone_of_last {text : List Char} (h : text.getLast? ≠ some 'Z') :
    splitZone text =
      match zoneParts? text with
      | some parts => parts.offset.map fun offset => (parts.before, some offset)
      | none => .ok (text, none) := by
  rw [splitZone]
  split
  case h_1 before heq =>
    rw [List.getLast?_eq_head?_reverse, heq] at h
    exact absurd rfl h
  case h_2 => rfl

/-- A sign, two digits for the hours, a colon and two for the minutes are cut off as a zone,
whatever stands before them.  Hours after the fourteenth are refused. -/
theorem splitZone_signed {body hours minutes : List Char} {h m : Int} {sign : Char}
    (hsign : sign = '+' ∨ sign = '-') (hhours : IsZoneField true hours h)
    (hminutes : IsZoneField true minutes m) (hmaxMinutes : m ≤ 59) :
    splitZone (body ++ sign :: (hours ++ ':' :: minutes)) =
      if 14 < h then .error .zoneRange
      else .ok (body, some (if sign = '-' then -(h * 3600 + m * 60) else h * 3600 + m * 60)) := by
  have hlast : (body ++ sign :: (hours ++ ':' :: minutes)).getLast? ≠ some 'Z' := by
    have hminutes' := getLast?_ne_of_digit hminutes.signed.exists_last
      (body ++ sign :: (hours ++ [':']))
    simpa using hminutes'
  have hoffset := @ZoneParts.offset_of_fields ⟨sign == '-', hours, minutes, body⟩ h m hhours
    hminutes hmaxMinutes
  rw [splitZone_of_last hlast, zoneParts?_append hsign hhours hminutes]
  dsimp only
  rw [hoffset]
  simp only [beq_iff_eq]
  split <;> rfl

theorem splitZone_append {zone : List Char} {offset : Int} (h : ZoneForm true zone offset)
    (body : List Char) : splitZone (body ++ zone) = .ok (body, some offset) := by
  cases h with
  | universal => simp [splitZone]
  | east hhours hminutes hmaxHours hmaxMinutes =>
      rw [splitZone_signed (.inl rfl) hhours hminutes hmaxMinutes, if_neg (by omega)]
      rfl
  | west hhours hminutes hmaxHours hmaxMinutes =>
      rw [splitZone_signed (.inr rfl) hhours hminutes hmaxMinutes, if_neg (by omega)]
      rfl

theorem zoneForm_of_offset {parts : ZoneParts} {offset : Int}
    (hhours : parts.hours.length = 2 ∨ ∃ c, parts.hours = [c] ∧ c.utf8Size = 2)
    (hminutes : parts.minutes.length = 2 ∨ ∃ c, parts.minutes = [c] ∧ c.utf8Size = 2)
    (h : parts.offset = .ok offset) :
    ZoneForm true (parts.sign :: (parts.hours ++ ':' :: parts.minutes)) offset := by
  rw [ZoneParts.offset] at h
  split at h
  case h_1 => cases h
  case h_2 => cases h
  case h_3 hours minutes hread hread' =>
    dsimp only at h
    split at h
    case isTrue => cases h
    case isFalse hrange =>
      simp only [Bool.or_eq_true, decide_eq_true_eq, not_or] at hrange
      have hfield := isZoneField_of_signed? hhours hread
      have hfield' := isZoneField_of_signed? hminutes hread'
      rw [ZoneParts.sign]
      cases hnegative : parts.negative with
      | true =>
          rw [hnegative] at h
          cases h
          exact .west hfield hfield' (by omega) (by omega)
      | false =>
          rw [hnegative] at h
          cases h
          exact .east hfield hfield' (by omega) (by omega)

/-- What is cut off is a zone at the end of the text, and every zone there is cut off. -/
theorem splitZone_eq_some_iff {text body : List Char} {offset : Int} :
    splitZone text = .ok (body, some offset) ↔
      ∃ zone, text = body ++ zone ∧ ZoneForm true zone offset := by
  constructor
  · intro h
    unfold splitZone at h
    split at h
    case h_1 before hreverse =>
      cases h
      refine ⟨['Z'], ?_, .universal⟩
      rw [← List.reverse_reverse text, hreverse, List.reverse_cons]
    case h_2 =>
      split at h
      case h_2 => cases h
      case h_1 parts hparts =>
        rcases exists_of_map_eq_ok h with ⟨found, hoffset, heq⟩
        cases heq
        rcases zoneParts?_spec hparts with ⟨htext, hhours, hminutes⟩
        exact ⟨_, htext, zoneForm_of_offset hhours hminutes hoffset⟩
  · rintro ⟨zone, rfl, h⟩
    exact splitZone_append h body

theorem isValidZone_of_splitZone {text body : List Char} {zone : Option Int}
    (h : splitZone text = .ok (body, zone)) : IsValidZone zone := by
  cases zone with
  | none => exact fun _ hoffset => nomatch hoffset
  | some offset =>
      rcases splitZone_eq_some_iff.1 h with ⟨zone, -, hform⟩
      exact hform.isValidZone

end Temporal
end Xacml
