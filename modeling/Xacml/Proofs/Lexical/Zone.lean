import Xacml.Proofs.Lexical.Field
import Xacml.Proofs.Lexical.ZoneForm

/-!
# Cutting zones off again

A date or a time of day without a zone ends in digits, among which no zone is found.

* `Unzoned`: the texts from which nothing is cut off; dates and times of day are such texts,
* `splitZone_writeZone`: the zone that was written is the one that is cut off, if it is valid;
  `splitZone_written` tells what is cut off in general.
-/

namespace Xacml
namespace Temporal

/-! ## Texts without a zone -/

/-- Whether nothing at the end of a text is taken for a zone. -/
structure Unzoned (body : List Char) : Prop where
  last : body.getLast? ≠ some 'Z'
  parts : zoneParts? body = none

theorem splitZone_unzoned {body : List Char} (hbody : Unzoned body) :
    splitZone body = .ok (body, none) := by
  rw [splitZone_of_last hbody.last, hbody.parts]

theorem unzoned_of_splitZone {text body : List Char} (h : splitZone text = .ok (body, none)) :
    body = text ∧ Unzoned text := by
  unfold splitZone at h
  split at h
  case h_1 => cases h
  case h_2 hlast =>
    split at h
    case h_1 =>
      rcases exists_of_map_eq_ok h with ⟨_, -, heq⟩
      cases heq
    case h_2 hparts =>
      cases h
      refine ⟨rfl, fun heq => ?_, hparts⟩
      rw [List.getLast?_eq_head?_reverse] at heq
      exact hlast _ (List.eq_cons_of_mem_head? heq)

/-- A digit and another character after another mark than a colon are no minutes of a zone. -/
theorem unzoned_of_mark {front : List Char} {mark a b : Char} (hmark : mark ≠ ':')
    (hb : b.isDigit = true) : Unzoned (front ++ [mark, a, b]) := by
  have hreverse : (front ++ [mark, a, b]).reverse = b :: a :: mark :: front.reverse := by simp
  constructor
  · rw [List.getLast?_eq_head?_reverse, hreverse]
    exact fun heq => ne_of_isDigit hb (by decide) (Option.some.inj heq)
  · rw [zoneParts?, hreverse, cutOctets, if_neg (by simp [utf8Size_of_isDigit hb])]
    by_cases ha : a.utf8Size = 1
    · simp [utf8Size_of_isDigit hb, ha, hmark]
    · simp [ha]

/-- Six characters without a sign are no zone. -/
theorem unzoned_of_unsigned {front text : List Char} (hlength : 6 ≤ text.length)
    (hsign : ∀ c ∈ text, c ≠ '+' ∧ c ≠ '-') (hlast : (front ++ text).getLast? ≠ some 'Z') :
    Unzoned (front ++ text) := by
  refine ⟨hlast, ?_⟩
  cases hparts : zoneParts? (front ++ text) with
  | none => rfl
  | some parts =>
      rcases zoneParts?_spec hparts with ⟨htext, hhours, hminutes⟩
      have hzone : (parts.sign :: (parts.hours ++ ':' :: parts.minutes)).length ≤ text.length := by
        have hhours' : parts.hours.length ≤ 2 := by
          rcases hhours with h | ⟨c, h, -⟩ <;> simp [h]
        have hminutes' : parts.minutes.length ≤ 2 := by
          rcases hminutes with h | ⟨c, h, -⟩ <;> simp [h]
        simp only [List.length_cons, List.length_append]
        omega
      -- The sign of a zone would be among the six characters.
      have hsuffix := List.suffix_of_suffix_length_le (htext ▸ List.suffix_append _ _)
        (List.suffix_append front text) hzone
      have hmem := hsign _ (hsuffix.subset List.mem_cons_self)
      rw [ZoneParts.sign] at hmem
      split at hmem
      · exact absurd rfl hmem.2
      · exact absurd rfl hmem.1

theorem IsField.unsigned {field : List Char} (h : IsField field) :
    ∀ c ∈ field, c ≠ '+' ∧ c ≠ '-' := by
  intro c hc
  rcases h.chars c hc with hdigit | hblank
  · exact ⟨ne_of_isDigit hdigit (by decide), ne_of_isDigit hdigit (by decide)⟩
  · constructor <;> rintro rfl <;> exact absurd hblank (by decide)

/-- A time of day ends in no zone: it has no sign in it, and six characters at least unless each of
its fields is a single digit. -/
theorem unzoned_of_readClock {text : List Char} {clock : Clock}
    (h : readClock text = .ok (clock, [])) (front : List Char) : Unzoned (front ++ text) := by
  rcases exists_of_readClock h with
    ⟨hour, minute, second, fraction, rfl, hhour, hminute, hsecond, hfraction⟩
  have hunsigned : ∀ c ∈ fraction, c ≠ '+' ∧ c ≠ '-' := by
    rcases hfraction with rfl | ⟨digits, rfl, hdigits⟩
    · simp
    · exact List.forall_mem_cons.2 ⟨by decide, (IsField.of_isNumeral hdigits).unsigned⟩
  by_cases hsix : 6 ≤ (hour ++ ':' :: (minute ++ ':' :: (second ++ fraction))).length
  · refine unzoned_of_unsigned hsix ?_ (getLast?_ne_of_digit (exists_last_of_readClock h) front)
    simp only [List.forall_mem_append, List.forall_mem_cons]
    exact ⟨hhour.unsigned, by decide, hminute.unsigned, by decide, hsecond.unsigned, hunsigned⟩
  · have hlength := List.length_pos_of_ne_nil hhour.ne_nil
    have hlength' := List.length_pos_of_ne_nil hminute.ne_nil
    have hlength'' := List.length_pos_of_ne_nil hsecond.ne_nil
    simp only [List.length_append, List.length_cons] at hsix
    rcases hfraction with rfl | ⟨digits, rfl, hdigits⟩
    · obtain ⟨m, rfl⟩ := List.length_eq_one_iff.1 (show minute.length = 1 by omega)
      obtain ⟨s, rfl⟩ := List.length_eq_one_iff.1 (show second.length = 1 by omega)
      rcases hminute.last with ⟨_, ⟨⟩, hm⟩
      rcases hsecond.last with ⟨_, ⟨⟩, hs⟩
      have hmark := @unzoned_of_mark (front ++ (hour ++ [':'])) m ':' s
        (ne_of_isDigit hm (by decide)) hs
      simpa using hmark
    · have hpositive := List.length_pos_of_ne_nil hdigits.ne_nil
      simp only [List.length_cons] at hsix
      omega

/-- A date ends in no zone, for want of a colon. -/
theorem unzoned_of_readDateFields {text : List Char} {fields : DateFields}
    (h : readDateFields text = .ok (fields, [])) : Unzoned text := by
  refine ⟨getLast?_ne_of_digit (exists_last_of_readDateFields h) [], ?_⟩
  rcases exists_of_readDateFields h with ⟨front, day, rfl, hcolon, -⟩
  rw [List.append_nil]
  cases hparts : zoneParts? (front ++ day) with
  | none => rfl
  | some parts =>
      rw [(zoneParts?_spec hparts).1] at hcolon
      simp at hcolon

theorem unzoned_writeDate {date : CalendarDate} (h : HasFields date) :
    Unzoned (writeDate date) := by
  have hread := readDateFields_writeDate h []
  rw [List.append_nil] at hread
  exact unzoned_of_readDateFields hread

theorem unzoned_writeClock {clock : Clock} (h : clock.InDay) (front : List Char) :
    Unzoned (front ++ writeClock clock) :=
  unzoned_of_readClock (readClock_written h) front

/-! ## Written zones -/

theorem isZoneField_writeTwo {lenient : Bool} {n : Nat} (h : n < 100) :
    IsZoneField lenient (writeTwo n) n := by
  have hfield : IsZoneField lenient (writeTwo n) (Nat.ofDigitChars 10 (writeTwo n) 0 : Nat) :=
    .of_isNumeral (length_writeTwo h) ⟨writeTwo_ne_nil n, allDigits_writeTwo n⟩
  rwa [writeTwo, Text.ofDigitChars_padZeros, ← writeTwo] at hfield

/-- An offset without its seconds. -/
def wholeMinutes (offset : Int) : Int :=
  if offset < 0 then -((offset.natAbs / 60 * 60 : Nat) : Int)
  else (offset.natAbs / 60 * 60 : Nat)

theorem wholeMinutes_of_mod {offset : Int} (h : offset % 60 = 0) :
    wholeMinutes offset = offset := by
  unfold wholeMinutes
  split <;> omega

theorem natAbs_sub_wholeMinutes (offset : Int) : (offset - wholeMinutes offset).natAbs < 60 := by
  unfold wholeMinutes
  split <;> omega

/-- The seconds of an offset are not written, and hours after the fourteenth are not read. -/
theorem splitZone_written {body : List Char} {offset : Int} (hoffset : offset.natAbs < 86400) :
    splitZone (body ++ writeZone (some offset)) =
      if offset.natAbs < 54000 then .ok (body, some (wholeMinutes offset))
      else .error .zoneRange := by
  rw [writeZone]
  split
  case isTrue hzero =>
    rw [splitZone, List.reverse_append, hzero]
    simp [wholeMinutes]
  case isFalse hne =>
    have hsign : (if offset < 0 then '-' else '+') = '+' ∨
        (if offset < 0 then '-' else '+') = '-' := by
      split
      · exact .inr rfl
      · exact .inl rfl
    have hfield : IsZoneField true (writeTwo (offset.natAbs / 3600)) (offset.natAbs / 3600 : Nat) :=
      isZoneField_writeTwo (by omega)
    have hfield' : IsZoneField true (writeTwo (offset.natAbs % 3600 / 60))
        (offset.natAbs % 3600 / 60 : Nat) := isZoneField_writeTwo (by omega)
    dsimp only
    rw [List.cons_append, splitZone_signed hsign hfield hfield' (by omega)]
    by_cases hread : offset.natAbs < 54000
    · rw [if_neg (by omega), if_pos hread, wholeMinutes]
      congr 3
      by_cases hnegative : offset < 0
      · rw [if_pos hnegative, if_pos rfl, if_pos hnegative]
        omega
      · rw [if_neg hnegative, if_neg (by decide), if_neg hnegative]
        omega
    · rw [if_pos (by omega), if_neg hread]

/-- The zone that was written is cut off again. -/
theorem splitZone_writeZone {body : List Char} {zone : Option Int} (hbody : Unzoned body)
    (hzone : IsValidZone zone) : splitZone (body ++ writeZone zone) = .ok (body, zone) := by
  cases zone with
  | none => rw [writeZone, List.append_nil, splitZone_unzoned hbody]
  | some offset =>
      rcases hzone offset rfl with ⟨hmod, hmax⟩
      -- A valid offset is a whole number of minutes, so nothing is lost.
      rw [splitZone_written (by omega), if_pos (by omega), wholeMinutes_of_mod hmod]

/-- What is cut off is the zone that was written, without its seconds. -/
theorem eq_of_splitZone_writeZone {body before : List Char} {zone found : Option Int}
    (hbody : Unzoned body) (hzone : ∀ offset ∈ zone, offset.natAbs < 86400)
    (h : splitZone (body ++ writeZone zone) = .ok (before, found)) :
    before = body ∧ found = zone.map wholeMinutes := by
  cases zone with
  | none =>
      rw [writeZone, List.append_nil, splitZone_unzoned hbody] at h
      cases h
      exact ⟨rfl, rfl⟩
  | some offset =>
      rw [splitZone_written (hzone offset rfl)] at h
      split at h
      · cases h
        exact ⟨rfl, rfl⟩
      · cases h

end Temporal
end Xacml
