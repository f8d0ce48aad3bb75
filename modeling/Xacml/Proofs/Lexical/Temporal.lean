import Mathlib.Data.List.Basic
import Xacml.Proofs.Lexical.Zone
import Xacml.Temporal.DateTime

/-!
# Reading dates and times back

Times and date-times are kept in universal time, so that their local form goes through the zone in
both directions.

* `Time.read_write`, `Date.read_write`, `DateTime.read_write`: a valid value reads back,
* `Time.isValid_of_read`, `Date.isValid_of_read`, `DateTime.isValid_of_read`: what was read is
  valid.
-/

namespace Xacml

/-! ## White space -/

namespace Temporal

theorem mem_writeTwo {n : Nat} {c : Char} (h : c ∈ writeTwo n) : c.isDigit = true :=
  allDigits_writeTwo n c h

/-- The characters of dates and times that are no digits. -/
def marks : List Char :=
  ['-', '+', ':', '.', 'T', 'Z']

theorem isBlank_marks : (marks.all fun c => !Text.isBlank c) = true := by
  decide

theorem mem_writeDate {date : CalendarDate} {c : Char} (h : c ∈ writeDate date) :
    c.isDigit = true ∨ c ∈ marks := by
  have hyear (hc : c ∈ writeYear date.year) : c.isDigit = true ∨ c ∈ marks := by
    have hdigits := Text.allDigits_padZeros 4 date.year.natAbs
    unfold writeYear at hc
    split at hc
    · rcases List.mem_cons.1 hc with rfl | hc
      · exact .inr (by decide)
      · exact .inl (hdigits c hc)
    · split at hc
      · rcases List.mem_cons.1 hc with rfl | hc
        · exact .inr (by decide)
        · exact .inl (hdigits c hc)
      · exact .inl (hdigits c hc)
  simp only [writeDate, List.mem_append, List.mem_cons] at h
  rcases h with (h | rfl | h) | rfl | h
  · exact hyear h
  · exact .inr (by decide)
  · exact .inl (mem_writeTwo h)
  · exact .inr (by decide)
  · exact .inl (mem_writeTwo h)

theorem mem_writeClock {clock : Clock} {c : Char} (h : c ∈ writeClock clock) :
    c.isDigit = true ∨ c ∈ marks := by
  have hfraction {nanos : Nat} (hc : c ∈ writeFraction nanos) : c.isDigit = true ∨ c ∈ marks := by
    have hpadded {width n : Nat} (hc : c ∈ '.' :: Text.padZeros width (Text.decimal n)) :
        c.isDigit = true ∨ c ∈ marks := by
      rcases List.mem_cons.1 hc with rfl | hc
      · exact .inr (by decide)
      · exact .inl (Text.allDigits_padZeros width n c hc)
    unfold writeFraction at hc
    split at hc
    · cases hc
    · split at hc
      · exact hpadded hc
      · split at hc <;> exact hpadded hc
  simp only [writeClock, List.mem_append, List.mem_cons] at h
  rcases h with ((h | rfl | h) | rfl | h) | h
  · exact .inl (mem_writeTwo h)
  · exact .inr (by decide)
  · exact .inl (mem_writeTwo h)
  · exact .inr (by decide)
  · exact .inl (mem_writeTwo h)
  · exact hfraction h

theorem mem_writeZone {zone : Option Int} {c : Char} (h : c ∈ writeZone zone) :
    c.isDigit = true ∨ c ∈ marks := by
  unfold writeZone at h
  split at h
  case h_1 => cases h
  case h_2 offset =>
    split at h
    · rw [List.mem_singleton.1 h]
      exact .inr (by decide)
    · simp only [List.mem_append, List.mem_cons] at h
      rcases h with (rfl | h) | rfl | h
      · split <;> exact .inr (by decide)
      · exact .inl (mem_writeTwo h)
      · exact .inr (by decide)
      · exact .inl (mem_writeTwo h)

theorem trim_of_forall {text : List Char} (h : ∀ c ∈ text, c.isDigit = true ∨ c ∈ marks) :
    Text.trim text = text :=
  Text.trim_eq_self_of_forall fun c hc => Text.isBlank_of_isDigit_or_mem isBlank_marks (h c hc)

end Temporal

/-! ## Dates -/

namespace Date

open Temporal

variable {date : Date} {text : List Char}

/-- Whether a date is one of the calendar and its zone is valid. -/
structure IsValid (date : Date) : Prop where
  calendar : date.date.isValid = true
  zone : IsValidZone date.zone

/-- A valid date reads back. -/
theorem read_write (h : date.IsValid) : read date.write = .ok date := by
  have htrim : Text.trim date.write = date.write :=
    trim_of_forall fun c hc => (List.mem_append.1 hc).elim mem_writeDate mem_writeZone
  have hwritable := hasFields_of_isValid h.calendar
  have hfields := readDateFields_writeDate hwritable []
  rw [List.append_nil] at hfields
  rw [read, htrim, write, splitZone_writeZone (unzoned_writeDate hwritable) h.zone]
  simp only [Bind.bind, Except.bind, hfields, atEnd, toDate_fieldsOf h.calendar, Pure.pure,
    Except.pure]

theorem isValid_of_read (h : read text = .ok date) : date.IsValid := by
  rcases exists_of_bind_eq_ok h with ⟨⟨body, zone⟩, hzone, h⟩
  rcases exists_of_bind_eq_ok h with ⟨⟨fields, rest⟩, _, h⟩
  rcases exists_of_bind_eq_ok h with ⟨_, _, h⟩
  rcases exists_of_bind_eq_ok h with ⟨found, hfound, h⟩
  cases h
  exact ⟨isValid_of_toDate hfound, isValidZone_of_splitZone hzone⟩

end Date

/-! ## Times of day -/

namespace Time

open Temporal

variable {time : Time} {text : List Char} {clock : Clock}

/-- Whether a time of day is one and its zone is valid.  A leap second is kept where universal and
local time agree; elsewhere it has become a second of the next minute. -/
structure IsValid (time : Time) : Prop where
  clock : time.utc.IsValid
  zone : IsValidZone time.zone
  leap : time.zone.getD 0 ≠ 0 → time.utc.nanos < 1000000000

theorem carry_of_lt {seconds nanos : Int} (h : 0 ≤ nanos) (h' : nanos < 1000000000) :
    Count.carry seconds nanos = ⟨seconds, nanos⟩ := by
  have hsecond : secondNanos = 1000000000 := rfl
  rw [Count.carry, if_neg (by omega), if_neg (by omega)]

/-- Whole seconds leave the nanoseconds alone, but end a leap second. -/
theorem advance_seconds (h : clock.nanos < 2000000000) (seconds : Int) :
    clock.count.advance (seconds * secondNanos) =
      if clock.nanos < 1000000000 then ⟨clock.seconds + seconds, clock.nanos⟩
      else if 0 < seconds then ⟨clock.seconds + seconds, clock.nanos - 1000000000⟩
      else if seconds < 0 then ⟨clock.seconds + 1 + seconds, clock.nanos - 1000000000⟩
      else ⟨clock.seconds, clock.nanos⟩ := by
  have hsecond : (secondNanos : Int) = 1000000000 := rfl
  have hdiv : (seconds * 1000000000).tdiv 1000000000 = seconds :=
    Int.mul_tdiv_cancel seconds (by decide)
  have hmod : (seconds * 1000000000).tmod 1000000000 = 0 := Int.mul_tmod_left seconds _
  rw [Count.advance]
  simp only [hsecond, hdiv, hmod, Clock.count]
  by_cases hleap : clock.nanos < 1000000000
  · rw [if_neg (by omega), if_pos hleap, Int.add_zero, carry_of_lt (by omega) (by omega)]
  · -- A leap second has a second's nanoseconds more, which a move in either direction takes off.
    rw [if_pos (by omega), if_neg hleap]
    by_cases hlater : 0 < seconds
    · rw [if_pos (by simp [hlater]), if_pos hlater, Int.add_zero,
        carry_of_lt (by omega) (by omega)]
    · rw [if_neg (by simp [hlater]), if_neg hlater]
      split
      case isTrue => rw [Int.add_zero, carry_of_lt (by omega) (by omega)]
      case isFalse => rw [Int.add_zero]

theorem rotate_zero (h : clock.InDay) : rotate clock 0 = clock := by
  have hseconds := h.seconds
  rcases clock with ⟨seconds, nanos⟩
  rw [rotate, advance_seconds h.nanos]
  dsimp only at hseconds ⊢
  have hback : (Int.fmod (seconds : Int) 86400).toNat = seconds := by
    rw [Int.fmod_eq_emod_of_nonneg _ (by decide)]
    omega
  split <;> simp [Count.clock, hback]

/-- Outside of leap seconds a time of day moves around the clock. -/
theorem rotate_of_lt {start nanos : Nat} (h : nanos < 1000000000) (seconds : Int) :
    rotate ⟨start, nanos⟩ seconds = ⟨((start + seconds) % 86400).toNat, nanos⟩ := by
  have hlt : (Clock.mk start nanos).nanos < 2000000000 := Nat.lt_trans h (by decide)
  rw [rotate, advance_seconds hlt, if_pos h, Count.clock, Int.fmod_eq_emod_of_nonneg _ (by decide)]
  rfl

/-- Moving a time of day ends its leap second. -/
theorem nanos_rotate_lt (h : clock.nanos < 2000000000) {seconds : Int} (hseconds : seconds ≠ 0) :
    (rotate clock seconds).nanos < 1000000000 := by
  rw [rotate, advance_seconds h, Count.clock]
  dsimp only
  split
  · dsimp only
    omega
  · split
    · dsimp only
      omega
    · rw [if_pos (by omega)]
      dsimp only
      omega

theorem seconds_rotate_lt (seconds : Int) : (rotate clock seconds).seconds < 86400 := by
  rw [rotate, Count.clock, Int.fmod_eq_emod_of_nonneg _ (by decide)]
  dsimp only
  omega

/-- The local time of a valid time is valid, and leads back to universal time. -/
theorem IsValid.rotate (h : time.IsValid) :
    (Time.rotate time.utc (time.zone.getD 0)).IsValid ∧
      Time.rotate (Time.rotate time.utc (time.zone.getD 0)) (-(time.zone.getD 0)) = time.utc := by
  rcases time with ⟨⟨seconds, nanos⟩, zone⟩
  have hseconds := h.clock.seconds
  have hclock := h.clock
  have hleap := h.leap
  dsimp only at hseconds hclock hleap ⊢
  by_cases hzone : zone.getD 0 = 0
  · rw [hzone, rotate_zero hclock.inDay, Int.neg_zero, rotate_zero hclock.inDay]
    exact ⟨hclock, rfl⟩
  · -- Another zone than universal time has no leap second, so both moves go around the clock.
    have hnanos := hleap hzone
    rw [rotate_of_lt hnanos, rotate_of_lt hnanos]
    refine ⟨⟨?_, ?_, ?_⟩, ?_⟩
    · dsimp only
      omega
    · dsimp only
      omega
    · dsimp only
      omega
    · rw [Clock.mk.injEq]
      refine ⟨?_, rfl⟩
      omega

theorem trim_write (time : Time) : Text.trim time.write = time.write :=
  trim_of_forall fun _ hc => (List.mem_append.1 hc).elim mem_writeClock mem_writeZone

/-- A valid time reads back. -/
theorem read_write (h : time.IsValid) : read time.write = .ok time := by
  rcases h.rotate with ⟨hlocal, hback⟩
  have hunzoned := unzoned_writeClock hlocal.inDay []
  rw [List.nil_append] at hunzoned
  rw [read, trim_write, write, splitZone_writeZone hunzoned h.zone]
  simp only [Bind.bind, Except.bind, readClock_writeClock hlocal, atEnd, hback, Pure.pure,
    Except.pure]

theorem isValid_of_read (h : read text = .ok time) : time.IsValid := by
  rcases exists_of_bind_eq_ok h with ⟨⟨body, zone⟩, hzone, h⟩
  rcases exists_of_bind_eq_ok h with ⟨⟨clock, rest⟩, hclock, h⟩
  rcases exists_of_bind_eq_ok h with ⟨_, _, h⟩
  cases h
  have hvalid := Clock.isValid_of_readClock hclock
  have hzone := isValidZone_of_splitZone hzone
  by_cases hoffset : zone.getD 0 = 0
  · have hutc : Time.rotate clock (-(zone.getD 0)) = clock := by
      rw [hoffset, Int.neg_zero, rotate_zero hvalid.inDay]
    exact ⟨by rw [hutc]; exact hvalid, hzone, fun hne => absurd hoffset hne⟩
  · -- A leap second of local time does not survive the move to universal time.
    have hnanos : (Time.rotate clock (-(zone.getD 0))).nanos < 1000000000 :=
      nanos_rotate_lt hvalid.nanos (by omega)
    refine ⟨⟨seconds_rotate_lt _, ?_, ?_⟩, hzone, fun _ => hnanos⟩
    · exact Nat.lt_trans hnanos (by decide)
    · exact fun hleap => absurd hnanos (Nat.not_lt.2 hleap)

end Time

/-! ## Date-times -/

namespace DateTime

open Temporal

variable {dateTime : DateTime} {text : List Char} {date : CalendarDate} {clock : Clock}

/-- Whether a date-time is a local date with a time of day in a valid zone. -/
def IsValid (dateTime : DateTime) : Prop :=
  ∃ date clock, date.isValid = true ∧ clock.IsValid ∧ IsValidZone dateTime.zone ∧
    ofLocal? (countOf date clock) dateTime.zone = some dateTime

theorem dateOf_countOf (hdate : date.isValid = true) (hclock : clock.IsValid) :
    dateOf (countOf date clock) = date := by
  have hday : dayOf (countOf date clock) = date.dayNumber := by
    have hseconds := hclock.seconds
    rw [dayOf, countOf, Int.fdiv_eq_ediv_of_nonneg _ (by decide)]
    simp only [daySeconds]
    omega
  rw [dateOf, hday, CalendarDate.ofDayNumber_dayNumber hdate]

theorem clock_countOf (hclock : clock.IsValid) : (countOf date clock).clock = clock := by
  have hseconds := hclock.seconds
  rcases clock with ⟨seconds, nanos⟩
  rw [Count.clock, countOf, Clock.mk.injEq, Int.fmod_eq_emod_of_nonneg _ (by decide)]
  simp only [daySeconds] at hseconds ⊢
  omega

theorem localCount_of_ofLocal? {count : Count} {zone : Option Int}
    (h : ofLocal? count zone = some dateTime) : dateTime.localCount = count := by
  rw [ofLocal?] at h
  split at h
  case isTrue =>
    cases h
    rcases count with ⟨seconds, nanos⟩
    simp only [localCount, shift]
    rw [Int.neg_add_cancel_right]
  case isFalse => cases h

theorem inRange_of_ofLocal? {count : Count} {zone : Option Int}
    (h : ofLocal? count zone = some dateTime) : inRange dateTime.instant = true := by
  rw [ofLocal?] at h
  split at h
  case isTrue hrange =>
    cases h
    exact hrange
  case isFalse => cases h

theorem zone_of_ofLocal? {count : Count} {zone : Option Int}
    (h : ofLocal? count zone = some dateTime) : dateTime.zone = zone := by
  rw [ofLocal?] at h
  split at h <;> cases h
  rfl

theorem trim_write (dateTime : DateTime) : Text.trim dateTime.write = dateTime.write := by
  refine trim_of_forall fun c hc => ?_
  rcases List.mem_append.1 hc with hc | hc
  · rcases List.mem_append.1 hc with hc | hc
    · exact mem_writeDate hc
    · rcases List.mem_cons.1 hc with rfl | hc
      · exact .inr (by decide)
      · exact mem_writeClock hc
  · exact mem_writeZone hc

theorem unzoned_writeBody {clock : Clock} (h : clock.InDay) (date : CalendarDate) :
    Unzoned (writeDate date ++ 'T' :: writeClock clock) := by
  have hfront := unzoned_writeClock h (writeDate date ++ ['T'])
  rwa [List.append_assoc, List.singleton_append] at hfront

/-- A valid date-time reads back. -/
theorem read_write (h : dateTime.IsValid) : read dateTime.write = .ok dateTime := by
  rcases h with ⟨date, clock, hdate, hclock, hzone, hlocal⟩
  have hwrite : dateTime.write =
      (writeDate date ++ 'T' :: writeClock clock) ++ writeZone dateTime.zone := by
    rw [write, localCount_of_ofLocal? hlocal, dateOf_countOf hdate hclock, clock_countOf hclock]
  rw [read, trim_write, hwrite, splitZone_writeZone (unzoned_writeBody hclock.inDay date) hzone]
  simp only [Bind.bind, Except.bind, readDateFields_writeDate (hasFields_of_isValid hdate),
    readMark, if_true, readClock_writeClock hclock, atEnd, toDate_fieldsOf hdate, hlocal,
    Pure.pure, Except.pure]

theorem isValid_of_read (h : read text = .ok dateTime) : dateTime.IsValid := by
  rcases exists_of_bind_eq_ok h with ⟨⟨body, zone⟩, hzone, h⟩
  rcases exists_of_bind_eq_ok h with ⟨⟨fields, _⟩, _, h⟩
  rcases exists_of_bind_eq_ok h with ⟨_, _, h⟩
  rcases exists_of_bind_eq_ok h with ⟨⟨clock, _⟩, hclock, h⟩
  rcases exists_of_bind_eq_ok h with ⟨_, _, h⟩
  rcases exists_of_bind_eq_ok h with ⟨date, hdate, h⟩
  split at h
  case h_1 found hfound =>
    cases h
    have hzone' := zone_of_ofLocal? hfound
    exact ⟨date, clock, isValid_of_toDate hdate, Clock.isValid_of_readClock hclock,
      hzone' ▸ isValidZone_of_splitZone hzone, hzone' ▸ hfound⟩
  case h_2 => cases h

end DateTime

end Xacml
