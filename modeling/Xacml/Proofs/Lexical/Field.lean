import Xacml.Proofs.Lexical.Calendar
import Xacml.Proofs.Lexical.FieldForm
import Xacml.Temporal.Zone

/-!
# Reading the fields of dates and times back

* `readDateFields_writeDate`: the fields of a date read back, whatever follows them, also if its
  year is not supported,
* `readClock_writeClock`: a time of day reads back up to the end of the text, also in a leap second;
  `readClock_written` tells what is read if the leap second follows another than the last second of
  a minute,
* `Clock.isValid_of_readClock`: a time of day that was read is valid.
-/

namespace Xacml
namespace Temporal

/-! ## Numbers -/

section Numbers

variable {digits rest : List Char} {n : Nat}

theorem trimStart_cons {c : Char} (h : Text.isBlank c = false) :
    Text.trimStart (c :: rest) = c :: rest := by
  rw [Text.trimStart, List.dropWhile_cons_of_neg (by simp [h])]

theorem trimStart_digits (h : Text.AllDigits digits) (hne : digits ≠ []) :
    Text.trimStart (digits ++ rest) = digits ++ rest := by
  cases digits with
  | nil => exact absurd rfl hne
  | cons c more => exact trimStart_cons (Text.isBlank_of_isDigit (h c List.mem_cons_self))

/-- As many digits as are asked for are read. -/
theorem readNumber_append (h : Text.AllDigits digits) (hne : digits ≠ []) (rest : List Char) :
    readNumber digits.length (digits ++ rest) = .ok (Nat.ofDigitChars 10 digits 0, rest) := by
  have htake : ((digits ++ rest).take digits.length).takeWhile Char.isDigit = digits := by
    rw [List.take_left, List.takeWhile_eq_self_iff.2 h]
  have hempty : (digits ++ rest).isEmpty = false := by simp [hne]
  rw [readNumber, htake, readDigits, hempty, if_neg (by decide), if_neg (by simpa using hne)]
  simp [Bind.bind, Except.bind, Pure.pure, Except.pure]

theorem length_writeTwo (h : n < 100) : (writeTwo n).length = 2 :=
  Text.length_padZeros (by decide) h

theorem allDigits_writeTwo (n : Nat) : Text.AllDigits (writeTwo n) :=
  Text.allDigits_padZeros 2 n

theorem writeTwo_ne_nil (n : Nat) : writeTwo n ≠ [] :=
  Text.padZeros_ne_nil 2 n

theorem readField_writeTwo {low high : Nat} (hlow : low ≤ n) (hhigh : n ≤ high) (h : n < 100) :
    readField low high (writeTwo n ++ rest) = .ok (n, rest) := by
  have hread := readNumber_append (allDigits_writeTwo n) (writeTwo_ne_nil n) rest
  rw [length_writeTwo h, writeTwo, Text.ofDigitChars_padZeros, ← writeTwo] at hread
  rw [readField, trimStart_digits (allDigits_writeTwo n) (writeTwo_ne_nil n), hread]
  simp [Bind.bind, Except.bind, Pure.pure, Except.pure, hlow, hhigh]

theorem readLongNumber_append (h : Text.AllDigits digits) (hne : digits ≠ [])
    (hrest : ∀ c ∈ rest.head?, c.isDigit = false)
    (hvalue : Nat.ofDigitChars 10 digits 0 < Nat.pow 2 63) :
    readLongNumber (digits ++ rest) = .ok (Nat.ofDigitChars 10 digits 0, rest) := by
  have hempty : (digits ++ rest).isEmpty = false := by simp [hne]
  rw [readLongNumber, h.takeWhile_append hrest, readDigits, hempty, if_neg (by decide),
    if_neg (by simpa using hne)]
  simp only [Bind.bind, Except.bind, if_pos hvalue, List.drop_left]
  rfl

end Numbers

/-! ## Dates -/

/-- The years that are read take 32 bits. -/
theorem readYear_writeYear {year : Int} (hlow : -2147483648 ≤ year) (hhigh : year ≤ 2147483647)
    (rest : List Char) :
    readYear (writeYear year ++ '-' :: rest) = .ok (year, '-' :: rest) := by
  have hrange : (decide (-(Nat.pow 2 31 : Nat) ≤ year) && decide (year < (Nat.pow 2 31 : Nat))) =
      true := by
    have hpow : Nat.pow 2 31 = 2147483648 := by decide
    simp only [Bool.and_eq_true, decide_eq_true_eq]
    omega
  have hdigits := Text.allDigits_padZeros 4 year.natAbs
  have hne := Text.padZeros_ne_nil 4 year.natAbs
  have hvalue := Text.ofDigitChars_padZeros 4 year.natAbs
  have hhead : ∀ c ∈ ('-' :: rest).head?, c.isDigit = false := by
    intro c hc
    cases hc
    rfl
  have hlong : readLongNumber (Text.padZeros 4 (Text.decimal year.natAbs) ++ '-' :: rest) =
      .ok (year.natAbs, '-' :: rest) := by
    have hread := readLongNumber_append hdigits hne hhead (by
      have hpow : Nat.pow 2 63 = 9223372036854775808 := by decide
      omega)
    rwa [hvalue] at hread
  unfold writeYear
  split
  case isTrue hneg =>
    have hyear : -(year.natAbs : Int) = year := by omega
    rw [List.cons_append, readYear, trimStart_cons (by decide)]
    simp only [hlong, Except.map, Bind.bind, Except.bind, hyear]
    exact if_pos hrange
  case isFalse hneg =>
    split
    case isTrue hbig =>
      have hyear : (year.natAbs : Int) = year := by omega
      rw [List.cons_append, readYear, trimStart_cons (by decide)]
      simp only [hlong, Except.map, Bind.bind, Except.bind, hyear]
      exact if_pos hrange
    case isFalse hsmall =>
      have hyear : (year.natAbs : Int) = year := by omega
      have hfour : (Text.padZeros 4 (Text.decimal year.natAbs)).length = 4 :=
        Text.length_padZeros (by decide) (by omega)
      have hnumber := readNumber_append hdigits hne ('-' :: rest)
      rw [hfour, hvalue] at hnumber
      have hsign {mark : Char} {more : List Char} (hmark : mark.isDigit = false) :
          Text.padZeros 4 (Text.decimal year.natAbs) ++ '-' :: rest ≠ mark :: more := by
        intro heq
        cases hcons : Text.padZeros 4 (Text.decimal year.natAbs) with
        | nil => exact hne hcons
        | cons c digits =>
            rw [hcons] at heq hdigits
            cases heq
            exact hdigits.not_mem hmark List.mem_cons_self
      rw [readYear, trimStart_digits hdigits hne]
      split
      case h_1 heq => exact absurd heq (hsign (by decide))
      case h_2 heq => exact absurd heq (hsign (by decide))
      case h_3 =>
        simp only [hnumber, Except.map, Bind.bind, Except.bind, hyear]
        exact if_pos hrange

/-- The fields of a date. -/
def fieldsOf (date : CalendarDate) : DateFields :=
  ⟨date.year, date.month, date.day⟩

theorem fieldsOf_injective {date date' : CalendarDate} (h : fieldsOf date = fieldsOf date') :
    date = date' := by
  rcases date with ⟨year, month, day⟩
  rcases date' with ⟨year', month', day'⟩
  simpa [fieldsOf] using h

/-- What the fields of a date that can be read lie between. -/
structure HasFields (date : CalendarDate) : Prop where
  minYear : -2147483648 ≤ date.year
  maxYear : date.year ≤ 2147483647
  minMonth : 1 ≤ date.month
  maxMonth : date.month ≤ 12
  minDay : 1 ≤ date.day
  maxDay : date.day ≤ 31

theorem hasFields_of_isValid {date : CalendarDate} (h : date.isValid = true) : HasFields date := by
  rcases CalendarDate.bounds_of_isValid h with ⟨hlow, hhigh, hmonth, hmonth', hday, hday'⟩
  exact ⟨Int.le_trans (by decide) hlow, Int.le_trans hhigh (by decide), hmonth, hmonth', hday,
    hday'⟩

theorem readDateFields_writeDate {date : CalendarDate} (h : HasFields date) (rest : List Char) :
    readDateFields (writeDate date ++ rest) = .ok (fieldsOf date, rest) := by
  have hyear := readYear_writeYear h.minYear h.maxYear
    (writeTwo date.month ++ '-' :: (writeTwo date.day ++ rest))
  have hmonth : readField 1 12 (writeTwo date.month ++ '-' :: (writeTwo date.day ++ rest)) =
      .ok (date.month, '-' :: (writeTwo date.day ++ rest)) :=
    readField_writeTwo h.minMonth h.maxMonth (by have := h.maxMonth; omega)
  have hday : readField 1 31 (writeTwo date.day ++ rest) = .ok (date.day, rest) :=
    readField_writeTwo h.minDay h.maxDay (by have := h.maxDay; omega)
  simp only [writeDate, List.append_assoc, List.cons_append, readDateFields, Bind.bind,
    Except.bind, hyear, hmonth, hday, readMark, if_true, Pure.pure, Except.pure]
  rfl

theorem toDate_fieldsOf {date : CalendarDate} (h : date.isValid = true) :
    (fieldsOf date).toDate = .ok date := by
  have hparts : CalendarDate.ofParts? date.year date.month date.day = some date := if_pos h
  rw [DateFields.toDate, fieldsOf, hparts]

theorem eq_of_toDate {fields : DateFields} {date : CalendarDate} (h : fields.toDate = .ok date) :
    fields = fieldsOf date ∧ date.isValid = true := by
  rw [DateFields.toDate] at h
  split at h
  case h_1 found hfound =>
    cases h
    rw [CalendarDate.ofParts?] at hfound
    split at hfound
    case isTrue hvalid =>
      cases hfound
      exact ⟨rfl, hvalid⟩
    case isFalse => cases hfound
  case h_2 => cases h

theorem isValid_of_toDate {fields : DateFields} {date : CalendarDate}
    (h : fields.toDate = .ok date) : date.isValid = true :=
  (eq_of_toDate h).2

/-! ## Times of day -/

/-- Whether a time of day lies within the day, and is in a leap second only after the last second of
a minute. -/
structure Clock.IsValid (clock : Clock) : Prop where
  seconds : clock.seconds < 86400
  nanos : clock.nanos < 2000000000
  leap : 1000000000 ≤ clock.nanos → clock.seconds % 60 = 59

/-- Whether a time of day lies within the day. -/
structure Clock.InDay (clock : Clock) : Prop where
  seconds : clock.seconds < 86400
  nanos : clock.nanos < 2000000000

theorem Clock.IsValid.inDay {clock : Clock} (h : clock.IsValid) : clock.InDay :=
  ⟨h.seconds, h.nanos⟩

theorem readFraction_append {width n : Nat} (hwidth : width ≤ 9) (hpos : 0 < width)
    (h : n < 10 ^ width) :
    readFraction ('.' :: Text.padZeros width (Text.decimal n)) =
      .ok (n * 10 ^ (9 - width), []) := by
  have hlength := Text.length_padZeros hpos h
  have htake : ((Text.padZeros width (Text.decimal n)).take 9).takeWhile Char.isDigit =
      Text.padZeros width (Text.decimal n) := by
    rw [List.take_of_length_le (by omega), List.takeWhile_eq_self_iff.2]
    exact Text.allDigits_padZeros width n
  have hempty : (Text.padZeros width (Text.decimal n)).isEmpty = false := by
    simpa using Text.padZeros_ne_nil width n
  have hdrop : (Text.padZeros width (Text.decimal n)).drop width = [] :=
    List.drop_eq_nil_of_le (Nat.le_of_eq hlength)
  rw [readFraction, htake, readDigits, hempty, if_neg (by decide), if_neg (by decide)]
  simp [Bind.bind, Except.bind, Pure.pure, Except.pure, Text.ofDigitChars_padZeros, hlength, hdrop]

theorem readFraction_writeFraction {nanos : Nat} (h : nanos < 1000000000) :
    readFraction (writeFraction nanos) = .ok (nanos, []) := by
  unfold writeFraction
  split
  case isTrue hzero => rw [readFraction, hzero]; simp
  case isFalse =>
    split
    case isTrue hmod =>
      rw [readFraction_append (by decide) (by decide) (by omega)]
      simp only [Except.ok.injEq, Prod.mk.injEq, and_true]
      omega
    case isFalse =>
      split
      case isTrue hmod =>
        rw [readFraction_append (by decide) (by decide) (by omega)]
        simp only [Except.ok.injEq, Prod.mk.injEq, and_true]
        omega
      case isFalse =>
        rw [readFraction_append (by decide) (by decide) (by omega)]
        simp

/-- The time of day with the fields that a time of day is written with. -/
def Clock.written (clock : Clock) : Clock :=
  Clock.ofFields (clock.seconds / 3600) (clock.seconds / 60 % 60)
    (clock.seconds % 60 + clock.nanos / 1000000000) (clock.nanos % 1000000000)

/-- The fields of a valid time of day are put together again. -/
theorem Clock.IsValid.written {clock : Clock} (h : clock.IsValid) : clock.written = clock := by
  rcases clock with ⟨seconds, nanos⟩
  rcases h with ⟨hseconds, hnanos, hleap⟩
  dsimp only at hseconds hnanos hleap
  unfold Clock.written Clock.ofFields
  dsimp only
  split <;> simp only [Clock.mk.injEq] <;> constructor <;> omega

/-- A leap second after another second than the last one of a minute is lost. -/
theorem Clock.nanos_written_lt {clock : Clock} (h : clock.InDay) (hleap : clock.seconds % 60 ≠ 59) :
    clock.written.nanos < 1000000000 := by
  have hnanos := h.nanos
  unfold Clock.written Clock.ofFields
  split <;> dsimp only <;> omega

theorem readClock_written {clock : Clock} (h : clock.InDay) :
    readClock (writeClock clock) = .ok (clock.written, []) := by
  have hseconds := h.seconds
  have hnanos := h.nanos
  have hhour (rest : List Char) :
      readField 0 23 (writeTwo (clock.seconds / 3600) ++ rest) = .ok (clock.seconds / 3600, rest) :=
    readField_writeTwo (Nat.zero_le _) (by omega) (by omega)
  have hminute (rest : List Char) : readField 0 59 (writeTwo (clock.seconds / 60 % 60) ++ rest) =
      .ok (clock.seconds / 60 % 60, rest) :=
    readField_writeTwo (Nat.zero_le _) (by omega) (by omega)
  have hsecond (rest : List Char) :
      readField 0 60 (writeTwo (clock.seconds % 60 + clock.nanos / 1000000000) ++ rest) =
        .ok (clock.seconds % 60 + clock.nanos / 1000000000, rest) :=
    readField_writeTwo (Nat.zero_le _) (by omega) (by omega)
  have hfraction : readFraction (writeFraction (clock.nanos % 1000000000)) =
      .ok (clock.nanos % 1000000000, []) :=
    readFraction_writeFraction (Nat.mod_lt _ (by decide))
  simp only [writeClock, List.append_assoc, List.cons_append, readClock, Bind.bind, Except.bind,
    hhour, hminute, hsecond, readMark, if_true, hfraction, Pure.pure, Except.pure]
  rfl

theorem readClock_writeClock {clock : Clock} (h : clock.IsValid) :
    readClock (writeClock clock) = .ok (clock, []) := by
  rw [readClock_written h.inDay, h.written]

theorem readField_spec {low high n : Nat} {text rest : List Char}
    (h : readField low high text = .ok (n, rest)) : low ≤ n ∧ n ≤ high := by
  rcases exists_of_bind_eq_ok h with ⟨⟨value, after⟩, _, h⟩
  dsimp only at h
  split at h
  case isTrue hrange =>
    cases h
    simpa using hrange
  case isFalse => cases h

theorem readFraction_lt {n : Nat} {text rest : List Char} (h : readFraction text = .ok (n, rest)) :
    n < 1000000000 := by
  unfold readFraction at h
  split at h
  case h_1 rest' =>
    rcases exists_of_bind_eq_ok h with ⟨digits, hdigits, h⟩
    cases h
    have hread := (eq_of_readDigits hdigits).1
    have hall : Text.AllDigits digits := fun c hc => List.mem_takeWhile_imp (hread ▸ hc)
    have hlength : digits.length ≤ 9 :=
      calc
        digits.length ≤ (rest'.take 9).length := hread ▸ (List.takeWhile_sublist _).length_le
        _ ≤ 9 := List.length_take_le 9 rest'
    calc
      _ < 10 ^ digits.length * 10 ^ (9 - digits.length) :=
        Nat.mul_lt_mul_of_pos_right (Text.ofDigitChars_lt hall) (Nat.pow_pos (by decide))
      _ = 10 ^ 9 := by rw [← Nat.pow_add, Nat.add_sub_cancel' hlength]
  case h_2 =>
    cases h
    decide

theorem Clock.isValid_of_readClock {clock : Clock} {text rest : List Char}
    (h : readClock text = .ok (clock, rest)) : clock.IsValid := by
  rcases exists_of_bind_eq_ok h with ⟨⟨hour, _⟩, hhour, h⟩
  rcases exists_of_bind_eq_ok h with ⟨_, _, h⟩
  rcases exists_of_bind_eq_ok h with ⟨⟨minute, _⟩, hminute, h⟩
  rcases exists_of_bind_eq_ok h with ⟨_, _, h⟩
  rcases exists_of_bind_eq_ok h with ⟨⟨second, _⟩, hsecond, h⟩
  rcases exists_of_bind_eq_ok h with ⟨⟨nanos, _⟩, hnanos, h⟩
  cases h
  have hhour := readField_spec hhour
  have hminute := readField_spec hminute
  have hsecond := readField_spec hsecond
  have hnanos := readFraction_lt hnanos
  unfold Clock.ofFields
  split <;> refine ⟨?_, ?_, ?_⟩ <;> dsimp only <;> omega

end Temporal
end Xacml
