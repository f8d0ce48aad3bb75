import Xacml.Proofs.Lexical.DurationForm

/-!
# Reading durations back

Components that are zero are not written, and the fraction of a second is written without its last
zeros.  What is written is still the text of components that come to the same duration:

* `DayTimeDuration.text_writtenParts` and `YearMonthDuration.text_writtenParts` name the components,
* `DayTimeDuration.read_write` and `YearMonthDuration.read_write`: durations within the range are
  read back,
* `DayTimeDuration.isInRange_of_read` and `YearMonthDuration.isInRange_of_read`: what was read lies
  within the range.
-/

namespace Xacml

/-! ## Written components -/

namespace Duration

variable {count : Nat} {unit : Char}

/-- The digits of a component, unless it is zero. -/
def digits? (count : Nat) : Option (List Char) :=
  if count = 0 then none else some (Text.decimal count)

theorem component_digits? :
    component unit (digits? count) = DayTimeDuration.writeComponent count unit := by
  unfold digits? DayTimeDuration.writeComponent
  split <;> rfl

theorem isNumeral_of_mem_digits? : ∀ text ∈ digits? count, Text.IsNumeral text := by
  intro text htext
  unfold digits? at htext
  split at htext
  case isTrue => cases htext
  case isFalse =>
    cases htext
    exact Text.isNumeral_decimal count

theorem countOf_decimal : countOf (some (Text.decimal count)) = count :=
  Nat.ofDigitChars_ten_toDigits

theorem countOf_digits? : countOf (digits? count) = count := by
  unfold digits?
  split
  case isTrue hzero => exact hzero.symm
  case isFalse => exact countOf_decimal

theorem digits?_eq_none_iff : digits? count = none ↔ count = 0 := by
  simp [digits?]

theorem withSign_natAbs (n : Int) : withSign (decide (n < 0)) n.natAbs = n := by
  simp only [withSign, decide_eq_true_eq]
  split <;> omega

theorem natAbs_withSign {negative : Bool} {magnitude : Nat} :
    (withSign negative magnitude).natAbs = magnitude := by
  cases negative <;> simp [withSign]

end Duration

/-! ## Days and times -/

namespace DayTimeDuration

open Duration

/-- Whether the magnitude of a duration does not pass the greatest one. -/
def IsInRange (duration : DayTimeDuration) : Prop :=
  duration.nanos.natAbs ≤ maxNanos

/-! ### The fraction of a second -/

/-- The digits of a fraction of a second. -/
def fractionDigits (nanos : Nat) : List Char :=
  ((Text.padZeros 9 (Text.decimal nanos)).reverse.dropWhile (· == '0')).reverse

/-- Only zeros are left out at the end. -/
theorem exists_zeros_eq (text : List Char) :
    ∃ count, text = (text.reverse.dropWhile (· == '0')).reverse ++ List.replicate count '0' := by
  have hzeros : text.reverse.takeWhile (· == '0') =
      List.replicate (text.reverse.takeWhile (· == '0')).length '0' :=
    List.eq_replicate_of_mem fun c hc => by simpa using List.mem_takeWhile_imp hc
  refine ⟨(text.reverse.takeWhile (· == '0')).length, ?_⟩
  rw [← List.reverse_replicate, ← hzeros, ← List.reverse_append, List.takeWhile_append_dropWhile,
    List.reverse_reverse]

/-- The digits of a fraction and the zeros after them are nine digits. -/
theorem exists_fractionDigits_append {nanos : Nat} (h : nanos < 10 ^ 9) :
    ∃ count, Text.padZeros 9 (Text.decimal nanos) =
        fractionDigits nanos ++ List.replicate count '0' ∧
      (fractionDigits nanos).length + count = 9 := by
  rcases exists_zeros_eq (Text.padZeros 9 (Text.decimal nanos)) with ⟨count, heq⟩
  have hlength : (Text.padZeros 9 (Text.decimal nanos)).length = 9 :=
    Text.length_padZeros (by decide) h
  refine ⟨count, heq, ?_⟩
  rw [heq, List.length_append, List.length_replicate] at hlength
  exact hlength

theorem allDigits_fractionDigits (nanos : Nat) : Text.AllDigits (fractionDigits nanos) := by
  intro c hc
  refine Text.allDigits_padZeros 9 nanos c ?_
  exact List.mem_reverse.1 ((List.dropWhile_sublist _).mem (List.mem_reverse.1 hc))

/-- The zeros that are left out multiply by a power of ten. -/
theorem fractionNanos_fractionDigits {nanos : Nat} (h : nanos < 10 ^ 9) :
    fractionNanos (some (fractionDigits nanos)) = nanos := by
  rcases exists_fractionDigits_append h with ⟨count, heq, hlength⟩
  have hpad := Text.ofDigitChars_padZeros 9 nanos
  rw [heq, Nat.ofDigitChars_append, Nat.ofDigitChars_replicate_zero] at hpad
  rw [fractionNanos, List.take_of_length_le (by omega),
    show 9 - (fractionDigits nanos).length = count by omega, Nat.mul_comm]
  exact hpad

theorem isNumeral_fractionDigits {nanos : Nat} (hpos : nanos ≠ 0) (h : nanos < 10 ^ 9) :
    Text.IsNumeral (fractionDigits nanos) := by
  refine ⟨fun hnil => hpos ?_, allDigits_fractionDigits nanos⟩
  rw [← fractionNanos_fractionDigits h, hnil]
  rfl

/-! ### Seconds -/

/-- The digits of the seconds and of their fraction, as they are written. -/
def secondsParts (seconds nanos : Nat) : Option (List Char × Option (List Char)) :=
  if nanos = 0 then (digits? seconds).map fun digits => (digits, none)
  else some (Text.decimal seconds, some (fractionDigits nanos))

theorem secondsText_secondsParts {seconds nanos : Nat} :
    secondsText (secondsParts seconds nanos) = writeSeconds seconds nanos := by
  unfold secondsParts writeSeconds
  split
  case isTrue =>
    rw [← component_digits?]
    cases digits? seconds <;> rfl
  case isFalse => simp [secondsText, fractionDigits]

theorem isNumeral_secondsParts {seconds nanos : Nat} :
    ∀ text ∈ (secondsParts seconds nanos).map Prod.fst, Text.IsNumeral text := by
  intro text htext
  unfold secondsParts at htext
  split at htext
  case isTrue =>
    rw [Option.map_map, Option.mem_def, Option.map_eq_some_iff] at htext
    rcases htext with ⟨_, hdigits, rfl⟩
    exact isNumeral_of_mem_digits? _ hdigits
  case isFalse =>
    cases htext
    exact Text.isNumeral_decimal seconds

theorem isNumeral_fraction_secondsParts {seconds nanos : Nat} (h : nanos < 10 ^ 9) :
    ∀ text ∈ (secondsParts seconds nanos).bind Prod.snd,
      Text.IsNumeral (text.take 9) ∧ ∀ c ∈ text, isDigit c = true := by
  intro text htext
  unfold secondsParts at htext
  split at htext
  case isTrue => cases hdigits : digits? seconds <;> simp [hdigits] at htext
  case isFalse hpos =>
    cases htext
    have hnumeral := isNumeral_fractionDigits hpos h
    rcases exists_fractionDigits_append h with ⟨count, -, hlength⟩
    rw [List.take_of_length_le (by omega)]
    exact ⟨hnumeral, fun c hc => isDigit_of_ascii (hnumeral.digits c hc)⟩

theorem countOf_secondsParts {seconds nanos : Nat} :
    countOf ((secondsParts seconds nanos).map Prod.fst) = seconds := by
  unfold secondsParts
  split
  case isTrue =>
    rw [Option.map_map]
    exact (congrArg countOf Option.map_id').trans countOf_digits?
  case isFalse => exact countOf_decimal

theorem fractionNanos_secondsParts {seconds nanos : Nat} (h : nanos < 10 ^ 9) :
    fractionNanos ((secondsParts seconds nanos).bind Prod.snd) = nanos := by
  unfold secondsParts
  split
  case isTrue hzero =>
    rw [hzero]
    cases digits? seconds <;> rfl
  case isFalse => exact fractionNanos_fractionDigits h

theorem secondsParts_eq_none_iff {seconds nanos : Nat} :
    secondsParts seconds nanos = none ↔ seconds = 0 ∧ nanos = 0 := by
  unfold secondsParts
  split <;> simp [digits?_eq_none_iff, *]

/-! ### Whole durations -/

variable {duration : DayTimeDuration} {negative : Bool} {seconds nanos : Nat}

/-- The components of a written duration. -/
def writtenParts (negative : Bool) (seconds nanos : Nat) : Parts :=
  let rest := seconds % 86400
  { negative
    days := digits? (seconds / 86400)
    hours := digits? (rest / 3600)
    minutes := digits? (rest / 60 % 60)
    seconds := if seconds = 0 ∧ nanos = 0 then some (['0'], none)
      else secondsParts (rest % 60) nanos }

theorem isForm_writtenParts (h : nanos < 10 ^ 9) :
    (writtenParts negative seconds nanos).IsForm := by
  unfold writtenParts
  by_cases hzero : seconds = 0 ∧ nanos = 0
  · rw [hzero.1, hzero.2]
    refine ⟨by simp [digits?], by simp [digits?], by simp [digits?], ?_, by simp, by simp; rfl⟩
    rintro _ ⟨⟩
    decide
  · simp only [if_neg hzero]
    refine ⟨isNumeral_of_mem_digits?, isNumeral_of_mem_digits?, isNumeral_of_mem_digits?,
      isNumeral_secondsParts, isNumeral_fraction_secondsParts h, ?_⟩
    rw [← Bool.not_eq_true]
    simp only [Parts.isEmpty, Bool.and_eq_true, Option.isNone_iff_eq_none, digits?_eq_none_iff,
      secondsParts_eq_none_iff]
    omega

theorem total_writtenParts (h : nanos < 10 ^ 9) :
    (writtenParts negative seconds nanos).total = seconds * 1000000000 + nanos := by
  by_cases hzero : seconds = 0 ∧ nanos = 0
  · rw [hzero.1, hzero.2]
    cases negative <;> decide +kernel
  · simp only [Parts.total, Parts.timeTotal, writtenParts, if_neg hzero, countOf_digits?,
      countOf_secondsParts, fractionNanos_secondsParts h]
    omega

theorem timeText_writtenParts (hne : ¬(seconds = 0 ∧ nanos = 0)) :
    (writtenParts negative seconds nanos).timeText =
      writeComponent (seconds % 86400 / 3600) 'H' ++
        writeComponent (seconds % 86400 / 60 % 60) 'M' ++
          writeSeconds (seconds % 86400 % 60) nanos := by
  simp only [Parts.timeText, writtenParts, if_neg hne, component_digits?, secondsText_secondsParts,
    List.append_assoc]

/-- A duration that is not zero has a component. -/
theorem days_ne_nil_of_timeText_eq_nil (hne : ¬(seconds = 0 ∧ nanos = 0))
    (htime : (writtenParts negative seconds nanos).timeText = []) :
    writeComponent (seconds / 86400) 'D' ≠ [] := by
  intro hdays
  rw [← component_digits?, component_eq_nil_iff, digits?_eq_none_iff] at hdays
  have hparts := Parts.eq_of_timeText_eq_nil htime
  simp only [writtenParts, if_neg hne, Parts.mk.injEq, digits?_eq_none_iff,
    secondsParts_eq_none_iff] at hparts
  omega

/-- The text of a duration is that of its components. -/
theorem text_writtenParts (duration : DayTimeDuration) :
    (writtenParts (decide (duration.nanos < 0)) (duration.nanos.natAbs / 1000000000)
      (duration.nanos.natAbs % 1000000000)).text = duration.write := by
  by_cases hzero : duration.nanos = 0
  · obtain rfl : duration = ⟨0⟩ := congrArg DayTimeDuration.mk hzero
    decide +kernel
  · rw [write]
    generalize hseconds : duration.nanos.natAbs / 1000000000 = seconds
    generalize hnanos : duration.nanos.natAbs % 1000000000 = nanos
    generalize hparts : writtenParts (decide (duration.nanos < 0)) seconds nanos = parts
    have hne : ¬(seconds = 0 ∧ nanos = 0) := by omega
    have hsign : parts.negative = decide (duration.nanos < 0) := by rw [← hparts, writtenParts]
    have hdays : component 'D' parts.days = writeComponent (seconds / 86400) 'D' := by
      rw [← hparts, writtenParts, component_digits?]
    have hne' : parts.timeText = [] → writeComponent (seconds / 86400) 'D' ≠ [] := by
      rw [← hparts]
      exact days_ne_nil_of_timeText_eq_nil hne
    rw [← timeText_writtenParts hne, hparts, Parts.text, hdays, signed, hsign]
    by_cases htime : parts.timeText = []
    · simp [htime, hne' htime]
    · simp [htime]

/-! ### Reading back -/

/-- A duration within the range reads back. -/
theorem read_write (h : duration.IsInRange) : read duration.write = .ok duration := by
  have hnanos : duration.nanos.natAbs % 1000000000 < 10 ^ 9 := Nat.mod_lt _ (by decide)
  have hform := @isForm_writtenParts (decide (duration.nanos < 0))
    (duration.nanos.natAbs / 1000000000) _ hnanos
  have htotal := @total_writtenParts (decide (duration.nanos < 0))
    (duration.nanos.natAbs / 1000000000) _ hnanos
  rw [Nat.div_add_mod'] at htotal
  refine read_eq_ok_iff.2 ⟨_, hform, ?_, ?_, ?_⟩
  · rw [← text_writtenParts, trim_text hform.written]
  · rw [htotal]
    exact h
  · rw [htotal, writtenParts, withSign_natAbs]

theorem isInRange_of_read {text : List Char} (h : read text = .ok duration) :
    duration.IsInRange := by
  rcases read_eq_ok_iff.1 h with ⟨parts, -, -, hrange, rfl⟩
  rw [IsInRange, natAbs_withSign]
  exact hrange

end DayTimeDuration

/-! ## Years and months -/

namespace YearMonthDuration

open Duration

variable {duration : YearMonthDuration} {negative : Bool} {years months : Nat}

/-- Whether the magnitude of a duration does not pass the greatest one. -/
def IsInRange (duration : YearMonthDuration) : Prop :=
  duration.months.natAbs ≤ maxCount

/-- The digits of the months, as they are written. -/
def monthDigits? (years months : Nat) : Option (List Char) :=
  if months = 0 ∧ years ≠ 0 then none else some (Text.decimal months)

/-- The components of a written duration. -/
def writtenParts (negative : Bool) (years months : Nat) : Parts :=
  ⟨negative, digits? years, monthDigits? years months⟩

theorem countOf_monthDigits? : countOf (monthDigits? years months) = months := by
  unfold monthDigits?
  split
  case isTrue hzero => exact hzero.1.symm
  case isFalse => exact countOf_decimal

theorem isForm_writtenParts : (writtenParts negative years months).IsForm := by
  refine ⟨isNumeral_of_mem_digits?, ?_, ?_⟩
  · intro text htext
    simp only [writtenParts, monthDigits?] at htext
    split at htext <;> cases htext
    exact Text.isNumeral_decimal months
  · by_cases hyears : years = 0 <;> simp [writtenParts, digits?, monthDigits?, hyears]

/-- The text of a duration is that of its components. -/
theorem text_writtenParts (duration : YearMonthDuration) :
    (writtenParts (decide (duration.months < 0)) (duration.months.natAbs / 12)
      (duration.months.natAbs % 12)).text = duration.write := by
  rw [write]
  generalize duration.months.natAbs / 12 = years
  generalize duration.months.natAbs % 12 = months
  rw [Parts.text, writtenParts, component_digits?, DayTimeDuration.writeComponent, monthDigits?]
  by_cases hmonths : months = 0 ∧ years ≠ 0 <;> simp [signed, component, hmonths]

/-- A duration within the range reads back. -/
theorem read_write (h : duration.IsInRange) : read duration.write = .ok duration := by
  have hform := @isForm_writtenParts (decide (duration.months < 0)) (duration.months.natAbs / 12)
    (duration.months.natAbs % 12)
  have htotal : (writtenParts (decide (duration.months < 0)) (duration.months.natAbs / 12)
      (duration.months.natAbs % 12)).total = duration.months.natAbs := by
    rw [Parts.total, writtenParts, countOf_digits?, countOf_monthDigits?, Nat.div_add_mod']
  refine read_eq_ok_iff.2 ⟨_, hform, ?_, ?_, ?_⟩
  · rw [← text_writtenParts, trim_text hform]
  · rw [htotal]
    exact h
  · rw [htotal, writtenParts, withSign_natAbs]

theorem isInRange_of_read {text : List Char} (h : read text = .ok duration) :
    duration.IsInRange := by
  rcases read_eq_ok_iff.1 h with ⟨parts, -, -, hrange, rfl⟩
  rw [IsInRange, natAbs_withSign]
  exact hrange

end YearMonthDuration

end Xacml
