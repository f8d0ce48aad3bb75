import Xacml.Proofs.Lexical.Temporal

/-!
# Times that no text denotes

A time of day or a date-time may be one that no text denotes: its zone may have seconds, its local
day may not be supported, or it may be in a leap second that its local time does not have.  Such a
value is not read back from its own text, not even as an equal one.

* `Time.IsStored` and `DateTime.IsStored` say what holds of every time of day and date-time,
* `DateTime.isValid_iff` says which of these are valid,
* `Time.isValid_of_same` and `DateTime.isValid_of_same`: a value is valid if an equal one is read
  from its text.
-/

namespace Xacml

open Temporal

/-- Whether an offset, if there is one, is less than a day. -/
def Temporal.IsOffset (zone : Option Int) : Prop :=
  ∀ offset ∈ zone, offset.natAbs < 86400

theorem Temporal.IsValidZone.isOffset {zone : Option Int} (h : IsValidZone zone) : IsOffset zone :=
  fun offset hoffset => Nat.lt_of_le_of_lt (h offset hoffset).2 (by decide)

/-! ## Times of day -/

namespace Time

variable {time back : Time} {clock : Clock}

/-- What holds of every time of day: it lies within the day, and its zone is less than a day. -/
structure IsStored (time : Time) : Prop where
  utc : time.utc.InDay
  zone : IsOffset time.zone

theorem IsValid.isStored (h : time.IsValid) : time.IsStored :=
  ⟨h.clock.inDay, h.zone.isOffset⟩

theorem inDay_rotate (h : clock.InDay) (seconds : Int) : (rotate clock seconds).InDay := by
  refine ⟨seconds_rotate_lt seconds, ?_⟩
  by_cases hzero : seconds = 0
  · rw [hzero, rotate_zero h]
    exact h.nanos
  · exact Nat.lt_trans (nanos_rotate_lt h.nanos hzero) (by decide)

/-- What is read from the text of a time of day. -/
theorem eq_of_read_write (h : time.IsStored) (hread : read time.write = .ok back) :
    back = ⟨rotate (rotate time.utc (time.zone.getD 0)).written
      (-((time.zone.map wholeMinutes).getD 0)), time.zone.map wholeMinutes⟩ := by
  have hlocal := inDay_rotate h.utc (time.zone.getD 0)
  have hunzoned := unzoned_writeClock hlocal []
  rw [read, trim_write, write] at hread
  rcases exists_of_bind_eq_ok hread with ⟨⟨body, zone⟩, hzone, hbody⟩
  rcases eq_of_splitZone_writeZone hunzoned h.zone hzone with ⟨rfl, rfl⟩
  rcases exists_of_bind_eq_ok hbody with ⟨⟨clock, rest⟩, hclock, hrest⟩
  rw [List.nil_append, readClock_written hlocal] at hclock
  cases hclock
  cases hrest
  rfl

/-- Another zone than universal time is only read back if it is a number of minutes. -/
theorem eq_wholeMinutes {offset : Int} (hutc : clock.InDay) (hoffset : offset ≠ 0)
    (h : rotate (rotate clock offset).written (-(wholeMinutes offset)) = clock) :
    clock.nanos < 1000000000 ∧ wholeMinutes offset = offset := by
  have hminutes := natAbs_sub_wholeMinutes offset
  have hseconds := hutc.seconds
  -- A leap second does not survive the move to the zone.
  have hlocal := nanos_rotate_lt hutc.nanos hoffset
  have hwritten : (rotate clock offset).written = rotate clock offset := by
    refine Clock.IsValid.written ⟨seconds_rotate_lt offset, Nat.lt_trans hlocal (by decide), ?_⟩
    exact fun hleap => absurd hlocal (Nat.not_lt.2 hleap)
  rw [hwritten] at h
  have hnanos : (rotate (rotate clock offset) (-(wholeMinutes offset))).nanos =
      (rotate clock offset).nanos := by rw [rotate_of_lt hlocal]
  have hlt' : clock.nanos < 1000000000 := by rwa [h.symm, hnanos]
  refine ⟨hlt', ?_⟩
  rcases clock with ⟨seconds, nanos⟩
  rw [rotate_of_lt hlt', rotate_of_lt hlt', Clock.mk.injEq] at h
  dsimp only at hseconds
  omega

/-- A time of day is valid if an equal one is read from its text. -/
theorem isValid_of_same (h : time.IsStored) (hread : read time.write = .ok back)
    (hsame : back.utc = time.utc) : time.IsValid := by
  have hback := isValid_of_read hread
  have hclock : time.utc.IsValid := hsame ▸ hback.clock
  have heq := eq_of_read_write h hread
  rcases time with ⟨utc, _ | offset⟩
  · exact ⟨hclock, by simp [IsValidZone], fun hne => absurd rfl hne⟩
  · by_cases hoffset : offset = 0
    · subst hoffset
      refine ⟨hclock, ?_, fun hne => absurd rfl hne⟩
      rintro _ ⟨⟩
      decide
    · have hutc : back.utc = _ := congrArg Time.utc heq
      have hzone : back.zone = _ := congrArg Time.zone heq
      rcases eq_wholeMinutes h.utc hoffset (hutc.symm.trans hsame) with
        ⟨hnanos, hminutes⟩
      refine ⟨hclock, ?_, fun _ => hnanos⟩
      have hvalid := hback.zone
      rw [hzone] at hvalid
      simpa [hminutes] using hvalid

end Time

/-! ## Date-times -/

namespace DateTime

variable {dateTime back : DateTime} {count : Count}

/-- What holds of every date-time: its instant is supported and its nanoseconds are those of at most
two seconds, and its zone is less than a day. -/
structure IsStored (dateTime : DateTime) : Prop where
  inRange : inRange dateTime.instant = true
  nanos_nonneg : 0 ≤ dateTime.instant.nanos
  nanos_lt : dateTime.instant.nanos < 2000000000
  zone : IsOffset dateTime.zone

theorem inDay_clock (h : count.nanos < 2000000000) : count.clock.InDay := by
  refine ⟨?_, ?_⟩ <;> rw [Count.clock] <;> dsimp only
  · rw [Int.fmod_eq_emod_of_nonneg _ (by decide)]
    omega
  · omega

/-- A count is that of its date and its time of day. -/
theorem countOf_dateOf_clock (h : 0 ≤ count.nanos) :
    countOf (dateOf count) count.clock = count := by
  rcases count with ⟨seconds, nanos⟩
  dsimp only at h
  simp only [countOf, dateOf, CalendarDate.dayNumber_ofDayNumber, dayOf, Count.clock, daySeconds,
    Int.fdiv_eq_ediv_of_nonneg _ (show (0 : Int) ≤ (86400 : Nat) by decide),
    Int.fmod_eq_emod_of_nonneg _ (show (0 : Int) ≤ 86400 by decide), Count.mk.injEq]
  omega

/-- A count falls on a supported day if and only if its date is valid. -/
theorem inRange_iff : inRange count = true ↔ (dateOf count).isValid = true := by
  rw [dateOf, CalendarDate.isValid_ofDayNumber_iff, inRange, Bool.and_eq_true, decide_eq_true_eq,
    decide_eq_true_eq]

theorem natAbs_offset_lt {zone : Option Int} (h : IsOffset zone) :
    (zone.getD 0).natAbs < 86400 := by
  cases zone with
  | none => decide
  | some offset => exact h offset rfl

/-- The local day of a date-time is one day off the supported ones at most, so that its fields can
be read still. -/
theorem hasFields_dateOf (h : dateTime.IsStored) : HasFields (dateOf dateTime.localCount) := by
  have hoffset := natAbs_offset_lt h.zone
  have hinstant := h.inRange
  simp only [inRange, dayOf, daySeconds, Bool.and_eq_true, decide_eq_true_eq,
    Int.fdiv_eq_ediv_of_nonneg _ (show (0 : Int) ≤ (86400 : Nat) by decide)] at hinstant
  have hday : CalendarDate.firstDay - 1 ≤ dayOf dateTime.localCount ∧
      dayOf dateTime.localCount ≤ CalendarDate.lastDay + 1 := by
    simp only [dayOf, localCount, shift, daySeconds,
      Int.fdiv_eq_ediv_of_nonneg _ (show (0 : Int) ≤ (86400 : Nat) by decide)]
    omega
  rw [dateOf]
  generalize dayOf dateTime.localCount = number at hday ⊢
  rcases CalendarDate.ofDayNumber_spec number with ⟨hyear, hlow, hhigh, -⟩
  rcases CalendarDate.yearOf_spec number with ⟨hbefore, hafter⟩
  rcases CalendarDate.month_day_bounds hlow hhigh with ⟨hmonth, hmonth', hlow'⟩
  have hfirst : CalendarDate.daysBeforeYear (-262145) < CalendarDate.firstDay - 1 := by decide
  have hlast : CalendarDate.lastDay + 1 < CalendarDate.daysBeforeYear 262145 := by decide
  refine ⟨?_, ?_, hmonth, hmonth', hlow, hlow'⟩ <;> rw [hyear]
  · by_contra hyears
    have hmono := CalendarDate.daysBeforeYear_mono
      (show CalendarDate.yearOf number + 1 ≤ -262145 by omega)
    omega
  · by_contra hyears
    have hmono := CalendarDate.daysBeforeYear_mono
      (show 262145 ≤ CalendarDate.yearOf number by omega)
    omega

/-- Which date-times are valid: the zone is valid, the local day is supported, and a leap second is
the last one of a minute in local time. -/
theorem isValid_iff (h : dateTime.IsStored) :
    dateTime.IsValid ↔ IsValidZone dateTime.zone ∧ inRange dateTime.localCount = true ∧
      (1000000000 ≤ dateTime.localCount.nanos → dateTime.localCount.seconds % 60 = 59) := by
  have hcount : countOf (dateOf dateTime.localCount) dateTime.localCount.clock =
      dateTime.localCount := countOf_dateOf_clock h.nanos_nonneg
  constructor
  · rintro ⟨date, clock, hdate, hclock, hzone, hlocal⟩
    rw [localCount_of_ofLocal? hlocal]
    refine ⟨hzone, ?_, ?_⟩
    · rw [inRange_iff, dateOf_countOf hdate hclock, hdate]
    · have hleap := hclock.leap
      simp only [countOf, daySeconds]
      omega
  · rintro ⟨hzone, hday, hleap⟩
    refine ⟨dateOf dateTime.localCount, dateTime.localCount.clock, inRange_iff.1 hday, ?_, hzone,
      ?_⟩
    · have hclock : dateTime.localCount.clock.InDay := inDay_clock h.nanos_lt
      refine ⟨hclock.seconds, hclock.nanos, ?_⟩
      simp only [Count.clock, Int.fmod_eq_emod_of_nonneg _ (show (0 : Int) ≤ 86400 by decide)]
      omega
    · rw [hcount, ofLocal?]
      have hinstant : shift dateTime.localCount (-(dateTime.zone.getD 0)) = dateTime.instant := by
        simp only [localCount, shift, Int.add_neg_cancel_right]
      rw [hinstant, if_pos h.inRange]

/-- A date-time is valid if an equal one is read from its text. -/
theorem isValid_of_same (h : dateTime.IsStored) (hread : read dateTime.write = .ok back)
    (hsame : back.instant = dateTime.instant) : dateTime.IsValid := by
  have hback := isValid_of_read hread
  have hclock : dateTime.localCount.clock.InDay := inDay_clock h.nanos_lt
  have hcount : countOf (dateOf dateTime.localCount) dateTime.localCount.clock =
      dateTime.localCount := countOf_dateOf_clock h.nanos_nonneg
  rw [read, trim_write, write] at hread
  rcases exists_of_bind_eq_ok hread with ⟨⟨body, zone⟩, hzone, hbody⟩
  rcases eq_of_splitZone_writeZone (unzoned_writeBody hclock _) h.zone hzone with ⟨rfl, rfl⟩
  rcases exists_of_bind_eq_ok hbody with ⟨⟨fields, _⟩, hfields, hrest⟩
  rw [readDateFields_writeDate (hasFields_dateOf h)] at hfields
  cases hfields
  rcases exists_of_bind_eq_ok hrest with ⟨_, hmark, hrest'⟩
  cases hmark
  rcases exists_of_bind_eq_ok hrest' with ⟨⟨clock, _⟩, hreadClock, hrest''⟩
  rw [readClock_written hclock] at hreadClock
  cases hreadClock
  rcases exists_of_bind_eq_ok hrest'' with ⟨_, _, hend⟩
  rcases exists_of_bind_eq_ok hend with ⟨date, hdate, hlast⟩
  rcases eq_of_toDate hdate with ⟨heq, hvalid⟩
  obtain rfl : dateOf dateTime.localCount = date := fieldsOf_injective heq
  have hfound : ofLocal? (countOf (dateOf dateTime.localCount) dateTime.localCount.clock.written)
      (dateTime.zone.map wholeMinutes) = some back := by
    split at hlast
    case h_1 hfound =>
      cases hlast
      exact hfound
    case h_2 => cases hlast
  have hlocal := localCount_of_ofLocal? hfound
  have hnanos : (dateTime.localCount.clock.written.nanos : Int) = dateTime.localCount.nanos := by
    have hcounts := congrArg Count.nanos hlocal
    simp only [localCount, shift, hsame, countOf] at hcounts ⊢
    exact hcounts.symm
  have hleap : 1000000000 ≤ dateTime.localCount.nanos →
      dateTime.localCount.seconds % 60 = 59 := by
    intro hlong
    by_contra hminute
    have hlost : dateTime.localCount.clock.seconds % 60 ≠ 59 := by
      simp only [Count.clock, Int.fmod_eq_emod_of_nonneg _ (show (0 : Int) ≤ 86400 by decide)]
      omega
    have hlt := Clock.nanos_written_lt hclock hlost
    omega
  have hwritten : dateTime.localCount.clock.written = dateTime.localCount.clock := by
    refine Clock.IsValid.written ⟨hclock.seconds, hclock.nanos, ?_⟩
    simp only [Count.clock, Int.fmod_eq_emod_of_nonneg _ (show (0 : Int) ≤ 86400 by decide)]
    omega
  -- Local times are equal, and so are instants, so that the zones are.
  have hzones : (dateTime.zone.map wholeMinutes).getD 0 = dateTime.zone.getD 0 := by
    rw [hwritten, hcount] at hlocal
    have hseconds := congrArg Count.seconds hlocal
    simp only [localCount, shift, hsame, zone_of_ofLocal? hfound] at hseconds
    omega
  have hvalidZone : IsValidZone dateTime.zone := by
    rcases hback with ⟨_, _, _, _, hzone', _⟩
    rw [zone_of_ofLocal? hfound] at hzone'
    cases hzone : dateTime.zone with
    | none => simp [IsValidZone]
    | some offset =>
        rw [hzone] at hzone' hzones
        simp only [Option.map_some, Option.getD_some] at hzone' hzones
        rwa [hzones] at hzone'
  exact (isValid_iff h).2 ⟨hvalidZone, inRange_iff.2 hvalid, hleap⟩

end DateTime

end Xacml
