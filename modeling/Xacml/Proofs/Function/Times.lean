import Xacml.Attribute.Facade
import Xacml.Proofs.Lexical.Canonical
import Xacml.Proofs.Lexical.Expressible
import Xacml.Proofs.Typing.Call

/-!
# Times that an evaluation comes by

An evaluation comes by times, dates and date-times in three ways: they are read, they are told by
the clock, or they are moved by durations.  Their zones and local days are checked only when they
are read, and when they are moved by months.

* `Value.Produced` says which values an evaluation comes by, and `Value.isStored_of_produced` what
  holds of them,
* `DateTime.isValid_of_addMonths?` and `DateTime.isValid_iff_of_addDuration?`: what moves keep,
* `times_read_back`: which of these values are read back as equal ones from the strings that they
  are converted to, and that values which are read or are moved by months are among them.
-/

namespace Xacml

open Temporal

/-! ## Counts -/

namespace Temporal.Count

variable {count : Count}

theorem carry_spec {seconds nanos : Int} (hlow : -1000000000 ≤ nanos) (hhigh : nanos < 2000000000) :
    0 ≤ (carry seconds nanos).nanos ∧ (carry seconds nanos).nanos < 1000000000 := by
  have hsecond : (secondNanos : Int) = 1000000000 := rfl
  unfold carry
  split
  · dsimp only
    omega
  · split <;> dsimp only <;> omega

/-- A count that is in a leap second after a move was in the same one before. -/
theorem advance_spec (delta : Int) (hlow : 0 ≤ count.nanos) (hhigh : count.nanos < 2000000000) :
    0 ≤ (count.advance delta).nanos ∧ (count.advance delta).nanos < 2000000000 ∧
      (1000000000 ≤ (count.advance delta).nanos →
        1000000000 ≤ count.nanos ∧ (count.advance delta).seconds = count.seconds) := by
  have hsecond : (secondNanos : Int) = 1000000000 := rfl
  have hsplit := Int.mul_tdiv_add_tmod delta 1000000000
  have hpos := fun h : 0 ≤ delta => Int.tmod_nonneg 1000000000 h
  have hneg := fun h : 0 ≤ -delta => Int.tmod_nonneg 1000000000 h
  rw [Int.neg_tmod] at hneg
  have hlt := Int.tmod_lt_of_pos delta (show (0 : Int) < 1000000000 by decide)
  have hgt := Int.lt_tmod_of_pos delta (show (0 : Int) < 1000000000 by decide)
  unfold advance
  simp only [hsecond]
  generalize delta.tdiv 1000000000 = seconds at *
  generalize delta.tmod 1000000000 = nanos at *
  have hcarry {seconds nanos : Int} (hlow : -1000000000 ≤ nanos) (hhigh : nanos < 2000000000) :
      0 ≤ (carry seconds nanos).nanos ∧ (carry seconds nanos).nanos < 2000000000 ∧
        (1000000000 ≤ (carry seconds nanos).nanos →
          1000000000 ≤ count.nanos ∧ (carry seconds nanos).seconds = count.seconds) := by
    have hspec := @carry_spec seconds nanos hlow hhigh
    omega
  split
  case isTrue hleap =>
    split
    case isTrue hlater =>
      simp only [Bool.or_eq_true, Bool.and_eq_true, decide_eq_true_eq] at hlater
      exact hcarry (by omega) (by omega)
    case isFalse hlater =>
      simp only [Bool.or_eq_true, Bool.and_eq_true, decide_eq_true_eq, not_or, not_and] at hlater
      split
      case isTrue hearlier => exact hcarry (by omega) (by omega)
      case isFalse hearlier =>
        -- The move is too short to leave the second.
        dsimp only
        omega
  case isFalse hleap => exact hcarry (by omega) (by omega)

end Temporal.Count

/-! ## Moves -/

theorem CalendarDate.isValid_of_addMonths? {date moved : CalendarDate} {months : Int}
    (h : date.isValid = true) (hmoved : date.addMonths? months = some moved) :
    moved.isValid = true := by
  rw [addMonths?] at hmoved
  split at hmoved
  case isTrue =>
    cases hmoved
    exact h
  case isFalse =>
    split at hmoved
    case isTrue => cases hmoved
    case isFalse =>
      simp only [ofParts?] at hmoved
      split at hmoved
      case isTrue hvalid =>
        cases hmoved
        exact hvalid
      case isFalse => cases hmoved

theorem Date.isValid_of_addMonths? {date moved : Date} {months : Int} (h : date.IsValid)
    (hmoved : date.addMonths? months = some moved) : moved.IsValid := by
  rcases Option.map_eq_some_iff.1 hmoved with ⟨calendar, hcalendar, rfl⟩
  exact ⟨CalendarDate.isValid_of_addMonths? h.calendar hcalendar, h.zone⟩

namespace DateTime

variable {dateTime moved : DateTime}

theorem isStored_of_isValid (h : dateTime.IsValid) : dateTime.IsStored := by
  rcases h with ⟨date, clock, _, hclock, hzone, hlocal⟩
  have hnanos := hclock.nanos
  have hcount := localCount_of_ofLocal? hlocal
  have hinstant : dateTime.instant.nanos = clock.nanos := by
    have hnanos' := congrArg Count.nanos hcount
    simpa only [localCount, shift, countOf] using hnanos'
  refine ⟨inRange_of_ofLocal? hlocal, by omega, by omega, hzone.isOffset⟩

theorem isStored_of_addDuration? {duration : DayTimeDuration} (h : dateTime.IsStored)
    (hmoved : dateTime.addDuration? duration = some moved) : moved.IsStored := by
  have hspec := Count.advance_spec duration.nanos h.nanos_nonneg h.nanos_lt
  rw [addDuration?] at hmoved
  split at hmoved
  case isTrue hrange =>
    cases hmoved
    exact ⟨hrange, hspec.1, hspec.2.1, h.zone⟩
  case isFalse => cases hmoved

/-- A move by days and times checks neither the zone nor the local day. -/
theorem isValid_iff_of_addDuration? {duration : DayTimeDuration} (h : dateTime.IsValid)
    (hmoved : dateTime.addDuration? duration = some moved) :
    moved.IsValid ↔ inRange moved.localCount = true := by
  have hstored := isStored_of_isValid h
  rcases (isValid_iff hstored).1 h with ⟨hzone, -, hleap⟩
  rw [isValid_iff (isStored_of_addDuration? hstored hmoved)]
  have hspec := Count.advance_spec duration.nanos hstored.nanos_nonneg hstored.nanos_lt
  rw [addDuration?] at hmoved
  split at hmoved
  case isFalse => cases hmoved
  case isTrue =>
    cases hmoved
    refine ⟨fun hvalid => hvalid.2.1, fun hday => ⟨hzone, hday, ?_⟩⟩
    intro hlong
    simp only [localCount, shift] at hlong hleap ⊢
    rcases hspec.2.2 hlong with ⟨hbefore, hsame⟩
    rw [hsame]
    exact hleap hbefore

theorem isStored_of_addMonths? {months : Int} (h : dateTime.IsStored)
    (hmoved : dateTime.addMonths? months = some moved) : moved.IsStored := by
  rcases Option.bind_eq_some_iff.1 hmoved with ⟨date, -, hlocal⟩
  have hcount := congrArg Count.nanos (localCount_of_ofLocal? hlocal)
  have hnanos : moved.instant.nanos = dateTime.instant.nanos.toNat := by
    simpa only [localCount, shift, countOf, Count.clock] using hcount
  have hlow := h.nanos_nonneg
  have hhigh := h.nanos_lt
  refine ⟨inRange_of_ofLocal? hlocal, by omega, by omega, ?_⟩
  rw [zone_of_ofLocal? hlocal]
  exact h.zone

/-- A move by months keeps a date-time valid. -/
theorem isValid_of_addMonths? {months : Int} (h : dateTime.IsValid)
    (hmoved : dateTime.addMonths? months = some moved) : moved.IsValid := by
  rcases h with ⟨date, clock, hdate, hclock, hzone, hlocal⟩
  rcases Option.bind_eq_some_iff.1 hmoved with ⟨date', hdate', hlocal'⟩
  rw [localCount_of_ofLocal? hlocal] at hdate' hlocal'
  rw [dateOf_countOf hdate hclock] at hdate'
  rw [clock_countOf hclock] at hlocal'
  have hzone' := zone_of_ofLocal? hlocal'
  exact ⟨date', clock, CalendarDate.isValid_of_addMonths? hdate hdate', hclock, hzone' ▸ hzone,
    hzone' ▸ hlocal'⟩

end DateTime

/-! ## Values -/

namespace Value

variable {v back : Value}

/-- Whether a value is a time of day, a date or a date-time. -/
def IsTime (v : Value) : Prop :=
  v.type = .time ∨ v.type = .date ∨ v.type = .dateTime

/-- What holds of every time of day and date-time. -/
def IsStored : Value → Prop
  | time t => t.IsStored
  | dateTime t => t.IsStored
  | _ => True

/-- Whether a time of day, a date or a date-time is one that a text denotes.  Its zone is a number
of minutes below fifteen hours, its local day is supported, and a leap second is the last second of
a minute in local time, and in universal time if it is that of a time of day. -/
def IsExpressible : Value → Prop
  | time t => t.IsValid
  | date d => d.IsValid
  | dateTime t => t.IsValid
  | _ => True

/-- Whether the local day of a date-time is supported. -/
def IsLocallyInRange : Value → Prop
  | dateTime t => DateTime.inRange t.localCount = true
  | _ => True

/-- The string of a value, converted back. -/
def convertedBack (v : Value) : Except EvaluationError Datum := do
  let text ← (Function.ofStrict (.conversion (.stringFrom v.type))).call [.single v]
  (Function.ofStrict (.conversion (.fromString v.type))).call [text]

/-- Whether a value is converted to a string from which an equal one is converted back. -/
def ReadsBackAlike (v : Value) : Prop :=
  ∃ back, v.convertedBack = .ok (.single back) ∧ back.same v = true

/-! ### Reading back -/

theorem readsBackAlike_iff :
    v.ReadsBackAlike ↔ ∃ back, read v.type v.text = .ok back ∧ back.same v = true := by
  have hstring : (Function.ofStrict (.conversion (.stringFrom v.type))).call [.single v] =
      .ok (.single (.string v.text)) :=
    Function.call_ofStrict (.of_fixed rfl)
  have hback : (Function.ofStrict (.conversion (.fromString v.type))).call
      [.single (.string v.text)] =
        ((read v.type v.text).mapError fun error => .of (.value error)).map .single := by
    have hfits : (StrictOp.conversion (.fromString v.type)).params.Fits
        ([Datum.single (.string v.text)].map Datum.type) := .of_fixed rfl
    rw [Function.call_ofStrict hfits]
    simp only [StrictOp.call, ConversionOp.call, ConversionOp.convert, Datum.asText, Bind.bind,
      Except.bind]
    cases read v.type v.text <;> rfl
  have hconverted : v.convertedBack =
      ((read v.type v.text).mapError fun error => .of (.value error)).map .single := by
    rw [convertedBack, hstring]
    exact hback
  rw [ReadsBackAlike, hconverted]
  cases read v.type v.text with
  | error fault => simp [Except.mapError, Except.map]
  | ok value => simp [Except.mapError, Except.map]

/-- A value that a text denotes is read back as itself. -/
theorem read_text_of_isExpressible (htime : v.IsTime) (h : v.IsExpressible) :
    read v.type v.text = .ok v := by
  rw [read, mapError_eq_ok_iff, text, String.toList_ofList]
  cases v with
  | time t => exact readForm_time_iff.2 ⟨t, Time.read_write h, rfl⟩
  | date d => exact readForm_date_iff.2 ⟨d, Date.read_write h, rfl⟩
  | dateTime t => exact readForm_dateTime_iff.2 ⟨t, DateTime.read_write h, rfl⟩
  | _ => rcases htime with h | h | h <;> cases h

/-- A value from whose text an equal one is read is one that a text denotes. -/
theorem isExpressible_of_same (hstored : v.IsStored) (hread : read v.type v.text = .ok back)
    (hsame : back.same v = true) : v.IsExpressible := by
  rw [same_iff] at hsame
  have hform := eq_ok_of_mapError hread
  rw [text, String.toList_ofList] at hform
  cases v with
  | time t =>
      rcases readForm_time_iff.1 hform with ⟨found, hfound, rfl⟩
      simp only [normal, time.injEq, Time.mk.injEq, and_true] at hsame
      exact Time.isValid_of_same hstored hfound hsame
  | date d =>
      rcases readForm_date_iff.1 hform with ⟨found, hfound, rfl⟩
      simp only [normal, date.injEq] at hsame
      exact hsame ▸ Date.isValid_of_read hfound
  | dateTime t =>
      rcases readForm_dateTime_iff.1 hform with ⟨found, hfound, rfl⟩
      simp only [normal, dateTime.injEq, DateTime.mk.injEq, and_true] at hsame
      exact DateTime.isValid_of_same hstored hfound hsame
  | _ => trivial

/-- The values that are read back alike are those that texts denote. -/
theorem readsBackAlike_iff_isExpressible (hstored : v.IsStored) (htime : v.IsTime) :
    v.ReadsBackAlike ↔ v.IsExpressible := by
  rw [readsBackAlike_iff]
  constructor
  · rintro ⟨back, hread, hsame⟩
    exact isExpressible_of_same hstored hread hsame
  · exact fun h => ⟨v, read_text_of_isExpressible htime h, same_refl v⟩

/-! ### Values that are produced -/

/-- The values that an evaluation comes by: they are read, told by a clock, or moved by a
duration. -/
inductive Produced : Value → Prop
  | read {type : DataType} {text : String} {v : Value} (hread : Value.read type text = .ok v) :
      Produced v
  | told {now : DateTime} {key : String} {v : Value} (hnow : now.IsStored)
      (htold : (Xacml.Clock.mk now).valueOf? key = some v) : Produced v
  | moved {f : Function} {op : ShiftOp} {subject duration v : Value} (hsubject : Produced subject)
      (hf : f.operation = .strict (.shift op))
      (hcall : f.call [.single subject, .single duration] = .ok (.single v)) : Produced v

theorem isExpressible_of_read {type : DataType} {text : String} (h : read type text = .ok v) :
    v.IsExpressible := by
  have htype := type_of_read h
  have hform := eq_ok_of_mapError h
  cases v with
  | time t =>
      obtain rfl : DataType.time = type := htype
      rcases readForm_time_iff.1 hform with ⟨found, hfound, heq⟩
      cases heq
      exact Time.isValid_of_read hfound
  | date d =>
      obtain rfl : DataType.date = type := htype
      rcases readForm_date_iff.1 hform with ⟨found, hfound, heq⟩
      cases heq
      exact Date.isValid_of_read hfound
  | dateTime t =>
      obtain rfl : DataType.dateTime = type := htype
      rcases readForm_dateTime_iff.1 hform with ⟨found, hfound, heq⟩
      cases heq
      exact DateTime.isValid_of_read hfound
  | _ => trivial

theorem isStored_of_isExpressible (h : v.IsExpressible) : v.IsStored := by
  cases v with
  | time t => exact Time.IsValid.isStored h
  | dateTime t => exact DateTime.isStored_of_isValid h
  | _ => trivial

/-- What the clock tells is the time of day, the date or the date-time of its instant. -/
theorem cases_of_valueOf? {clock : Xacml.Clock} {key : String}
    (h : clock.valueOf? key = some v) :
    v = .time clock.now.time ∨ v = .date clock.now.date ∨ v = .dateTime clock.now := by
  unfold Xacml.Clock.valueOf? at h
  split at h <;> cases h <;> simp

theorem isStored_of_valueOf? {now : DateTime} {key : String} (hnow : now.IsStored)
    (h : (Xacml.Clock.mk now).valueOf? key = some v) : v.IsStored := by
  rcases cases_of_valueOf? h with rfl | rfl | rfl
  · exact ⟨DateTime.inDay_clock hnow.nanos_lt, hnow.zone⟩
  · trivial
  · exact hnow

/-- What the clock tells can be written, unless its instant cannot or is in a leap second of another
zone than universal time. -/
theorem isExpressible_of_valueOf? {now : DateTime} {key : String} (hnow : now.IsValid)
    (hleap : now.instant.nanos < 1000000000 ∨ now.zone.getD 0 = 0)
    (h : (Xacml.Clock.mk now).valueOf? key = some v) : v.IsExpressible := by
  have hstored := DateTime.isStored_of_isValid hnow
  rcases (DateTime.isValid_iff hstored).1 hnow with ⟨hzone, hday, hminute⟩
  rcases cases_of_valueOf? h with rfl | rfl | rfl
  · have hclock := DateTime.inDay_clock hstored.nanos_lt
    refine ⟨⟨hclock.seconds, hclock.nanos, ?_⟩, hzone, ?_⟩
    · simp only [DateTime.time, Count.clock, DateTime.localCount, DateTime.shift,
        Int.fmod_eq_emod_of_nonneg _ (show (0 : Int) ≤ 86400 by decide)] at hminute ⊢
      omega
    · simp only [DateTime.time, Count.clock]
      omega
  · exact ⟨DateTime.inRange_iff.1 hday, hzone⟩
  · exact hnow

/-- A date-time is moved by days and times or by months, and a date by months. -/
inductive Moves : ShiftOp → Value → Value → Prop
  | days {op : ShiftOp} {t moved : DateTime} {duration : DayTimeDuration}
      (hop : op.duration = .dayTimeDuration) (hmoved : t.addDuration? duration = some moved) :
      Moves op (.dateTime t) (.dateTime moved)
  | months {op : ShiftOp} {t moved : DateTime} {months : Int}
      (hop : op.duration = .yearMonthDuration) (hmoved : t.addMonths? months = some moved) :
      Moves op (.dateTime t) (.dateTime moved)
  | dateMonths {op : ShiftOp} {d moved : Date} {months : Int}
      (hop : op.duration = .yearMonthDuration) (hmoved : d.addMonths? months = some moved) :
      Moves op (.date d) (.date moved)

theorem moves_of_move? {op : ShiftOp} {subject duration : Value}
    (h : op.move? subject duration = some v) : Moves op subject v := by
  unfold ShiftOp.move? at h
  split at h
  case h_1 | h_2 =>
    rcases Option.map_eq_some_iff.1 h with ⟨moved, hmoved, rfl⟩
    exact .days rfl hmoved
  case h_3 | h_4 =>
    rcases Option.map_eq_some_iff.1 h with ⟨moved, hmoved, rfl⟩
    exact .months rfl hmoved
  case h_5 | h_6 =>
    rcases Option.map_eq_some_iff.1 h with ⟨moved, hmoved, rfl⟩
    exact .dateMonths rfl hmoved
  case h_7 => cases h

theorem moves_of_call {f : Function} {op : ShiftOp} {subject duration : Value}
    (hf : f.operation = .strict (.shift op))
    (hcall : f.call [.single subject, .single duration] = .ok (.single v)) :
    Moves op subject v := by
  simp only [Function.call, hf] at hcall
  rcases exists_of_bind_eq_ok hcall with ⟨_, -, hmove⟩
  rcases exists_of_bind_eq_ok hmove with ⟨args, hargs, hmove⟩
  cases hargs
  split at hmove
  case h_1 a b heq =>
    cases heq
    split at hmove
    case h_1 value hvalue =>
      cases hmove
      exact moves_of_move? hvalue
    case h_2 => cases hmove
  case h_2 hne => exact absurd rfl (hne _ _)

theorem isStored_of_moves {op : ShiftOp} {subject : Value} (h : subject.IsStored)
    (hmoves : Moves op subject v) : v.IsStored := by
  cases hmoves with
  | days hop hmoved => exact DateTime.isStored_of_addDuration? h hmoved
  | months hop hmoved => exact DateTime.isStored_of_addMonths? h hmoved
  | dateMonths => trivial

/-- What holds of every time of day and date-time holds of those that an evaluation comes by. -/
theorem isStored_of_produced (h : v.Produced) : v.IsStored := by
  induction h with
  | read hread => exact isStored_of_isExpressible (isExpressible_of_read hread)
  | told hnow htold => exact isStored_of_valueOf? hnow htold
  | moved hsubject hf hcall ih => exact isStored_of_moves ih (moves_of_call hf hcall)

/-- What a move makes of a value that a text denotes. -/
theorem isExpressible_iff_of_moves {op : ShiftOp} {subject : Value} (h : subject.IsExpressible)
    (hmoves : Moves op subject v) :
    (op.duration = .yearMonthDuration → v.IsExpressible) ∧
      (v.IsExpressible ↔ v.IsLocallyInRange) := by
  cases hmoves with
  | days hop hmoved =>
      refine ⟨fun hmonths => ?_, DateTime.isValid_iff_of_addDuration? h hmoved⟩
      rw [hop] at hmonths
      cases hmonths
  | months hop hmoved =>
      have hvalid := DateTime.isValid_of_addMonths? h hmoved
      have hday := ((DateTime.isValid_iff (DateTime.isStored_of_isValid hvalid)).1 hvalid).2.1
      exact ⟨fun _ => hvalid, iff_of_true hvalid hday⟩
  | dateMonths hop hmoved =>
      have hvalid := Date.isValid_of_addMonths? h hmoved
      exact ⟨fun _ => hvalid, iff_of_true hvalid trivial⟩

end Value

/-- A time of day, date or date-time that an evaluation comes by is converted to a string, and an
equal one is converted back from the string if and only if it is one that a text denotes.  What was
read is such a value, and so is what a clock tells whose instant is one, unless that is in a leap
second of another zone than universal time.  A move by months makes such a value of one, and any
move does if the local day of the result is supported. -/
theorem times_read_back (v : Value) :
    (v.Produced → v.IsTime → (v.ReadsBackAlike ↔ v.IsExpressible)) ∧
    (∀ type text, Value.read type text = .ok v → v.IsExpressible) ∧
    (∀ now : DateTime, now.IsValid →
      (now.instant.nanos < 1000000000 ∨ now.zone.getD 0 = 0) →
        ∀ key, (Xacml.Clock.mk now).valueOf? key = some v → v.IsExpressible) ∧
    ∀ (f : Function) op, f.operation = .strict (.shift op) →
      ∀ subject duration : Value, subject.IsExpressible →
        f.call [.single subject, .single duration] = .ok (.single v) →
          (op.duration = .yearMonthDuration → v.IsExpressible) ∧
            (v.IsExpressible ↔ v.IsLocallyInRange) := by
  refine ⟨?_, ?_, ?_, ?_⟩
  · intro hv htime
    exact Value.readsBackAlike_iff_isExpressible (Value.isStored_of_produced hv) htime
  · exact fun type text => Value.isExpressible_of_read
  · exact fun now hnow hleap key => Value.isExpressible_of_valueOf? hnow hleap
  · intro f op hf subject duration hsubject hcall
    exact Value.isExpressible_iff_of_moves hsubject (Value.moves_of_call hf hcall)

/-! ## Two times that are lost -/

namespace LeapSecond

/-- The leap second at the end of the year 2016, an hour east of universal time. -/
def now : DateTime := ⟨⟨63618825599, 1000000000⟩, some 3600⟩

/-- Half an hour before the end of the last supported day, an hour east of universal time. -/
def lastEvening : DateTime := ⟨⟨CalendarDate.lastDay * 86400 + 81000, 0⟩, some 3600⟩

/-- An hour later, after the end of that day. -/
def nextMorning : DateTime := ⟨⟨CalendarDate.lastDay * 86400 + 84600, 0⟩, some 3600⟩

/-- The time of day of a clock in a leap second, and a date-time moved across the end of the last
supported day, are not read back. -/
theorem times_read_back_lost :
    (Value.read .dateTime "2017-01-01T00:59:60+01:00" = .ok (.dateTime now) ∧
      ¬(Value.time now.time).ReadsBackAlike) ∧
    (Value.read .dateTime "+262142-12-31T23:30:00+01:00" = .ok (.dateTime lastEvening) ∧
      (Function.ofStrict (.shift .dateTimeAddDayTime)).call [.single (.dateTime lastEvening),
        .single (.dayTimeDuration ⟨3600000000000⟩)] = .ok (.single (.dateTime nextMorning)) ∧
      ¬(Value.dateTime nextMorning).ReadsBackAlike) := by
  have hnow : Value.read .dateTime "2017-01-01T00:59:60+01:00" = .ok (.dateTime now) := by
    decide +kernel
  have hevening : Value.read .dateTime "+262142-12-31T23:30:00+01:00" =
      .ok (.dateTime lastEvening) := by decide +kernel
  have hcall : (Function.ofStrict (.shift .dateTimeAddDayTime)).call
      [.single (.dateTime lastEvening), .single (.dayTimeDuration ⟨3600000000000⟩)] =
        .ok (.single (.dateTime nextMorning)) := by
    have hfits : (StrictOp.shift .dateTimeAddDayTime).params.Fits
      ([Datum.single (.dateTime lastEvening), .single (.dayTimeDuration ⟨3600000000000⟩)].map
        Datum.type) := .of_fixed rfl
    rw [Function.call_ofStrict hfits]
    rfl
  refine ⟨⟨hnow, ?_⟩, hevening, hcall, ?_⟩
  · have hvalid : now.IsValid := (times_read_back (.dateTime now)).2.1 _ _ hnow
    have hstored : now.IsStored := DateTime.isStored_of_isValid hvalid
    have htold : (Xacml.Clock.mk now).valueOf?
        "urn:oasis:names:tc:xacml:1.0:environment:current-time" = some (.time now.time) := by
      decide +kernel
    rw [(times_read_back _).1 (.told hstored htold) (.inl rfl)]
    intro hvalid
    exact absurd (Time.IsValid.leap hvalid (by decide)) (by decide)
  · have hvalid : lastEvening.IsValid := (times_read_back (.dateTime lastEvening)).2.1 _ _ hevening
    rcases times_read_back (.dateTime nextMorning) with ⟨hlost, -, -, hmoves⟩
    rw [hlost (.moved (.read hevening) rfl hcall) (.inr (.inr rfl)),
      (hmoves _ _ rfl (.dateTime lastEvening) _ hvalid hcall).2]
    change ¬DateTime.inRange nextMorning.localCount = true
    decide +kernel

end LeapSecond

end Xacml
