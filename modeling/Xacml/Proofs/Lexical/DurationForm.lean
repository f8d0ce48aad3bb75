import Mathlib.Data.List.TakeWhile
import Xacml.Proofs.Lexical.Numeral
import Xacml.Proofs.Lexical.Runs
import Xacml.Temporal.Duration

/-!
# The forms of durations

A duration is written as a sign, a `P`, and components in a fixed order.  This module puts written
components together to texts, and shows that the readers take exactly these texts:

* `DayTimeDuration.Parts.text` and `YearMonthDuration.Parts.text` are the texts of components,
  `Parts.IsForm` says which components can be written, and `Parts.total` is what they come to,
* `DayTimeDuration.readParts?_eq_some_iff` and `YearMonthDuration.readParts?_eq_some_iff`: taking a
  text apart is the inverse of putting it together,
* `DayTimeDuration.read_eq_ok_iff` and `YearMonthDuration.read_eq_ok_iff`: a text is a duration if
  it is that of components whose total is in range, and the duration is that total.
-/

namespace Xacml

/-! ## Components -/

namespace Duration

variable {unit : Char} {text rest : List Char} {digits : Option (List Char)}

/-- A component as it is written, its digits and its unit, unless it is left out. -/
def component (unit : Char) : Option (List Char) → List Char
  | some digits => digits ++ [unit]
  | none => []

/-- Whether a text consists of one or more decimal digits of any script. -/
structure IsRun (text : List Char) : Prop where
  ne_nil : text ≠ []
  digits : ∀ c ∈ text, isDigit c = true

theorem IsRun.of_isNumeral (h : Text.IsNumeral text) : IsRun text :=
  ⟨h.ne_nil, fun c hc => isDigit_of_ascii (h.digits c hc)⟩

/-- The number that a component counts; one that is left out counts nothing. -/
def countOf (digits : Option (List Char)) : Nat :=
  (digits.map fun digits => Nat.ofDigitChars 10 digits 0).getD 0

theorem count?_eq_some_iff {n : Nat} :
    count? digits = some n ↔
      (∀ text ∈ digits, Text.IsNumeral text) ∧ countOf digits = n ∧ n ≤ maxCount := by
  cases digits with
  | none =>
      rw [count?, countOf, Option.some.injEq]
      constructor
      · rintro rfl
        exact ⟨by simp, rfl, Nat.zero_le _⟩
      · exact fun h => h.2.1
  | some digits =>
      rw [count?, Text.natural?_eq_some_iff]
      simp [countOf]

/-- The character after the digits that a text starts with. -/
def mark? (text : List Char) : Option Char :=
  (text.dropWhile isDigit).head?

/-- The digits that a text starts with end at the first other character. -/
theorem mark?_run_append (h : ∀ c ∈ text, isDigit c = true) :
    mark? (text ++ rest) = mark? rest := by
  rw [mark?, List.dropWhile_append_of_pos h, mark?]

theorem mark?_unit (hunit : isDigit unit = false) : mark? (unit :: rest) = some unit := by
  rw [mark?, List.dropWhile_cons_of_neg (by simp [hunit]), List.head?_cons]

/-- A component is left out if another mark follows the digits. -/
theorem readComponent_eq_none (h : mark? text ≠ some unit) :
    readComponent unit text = (none, text) := by
  rw [readComponent]
  split
  case h_1 c rest hdrop =>
    have hc : c ≠ unit := fun heq => h (by rw [mark?, hdrop, heq, List.head?_cons])
    rw [if_neg (by simp [hc])]
  case h_2 => rfl

/-- What is left of a text after a component was taken off. -/
theorem eq_append_of_readComponent (h : readComponent unit text = (digits, rest)) :
    text = component unit digits ++ rest ∧ ∀ run ∈ digits, IsRun run := by
  have hsplit := List.takeWhile_append_dropWhile (p := isDigit) (l := text)
  rw [readComponent] at h
  split at h
  case h_1 c more hdrop =>
    split at h
    case isTrue hunit =>
      cases h
      simp only [Bool.and_eq_true, decide_eq_true_eq, Bool.not_eq_true', List.isEmpty_eq_false_iff]
        at hunit
      rcases hunit with ⟨rfl, hne⟩
      rw [hdrop] at hsplit
      refine ⟨by simpa [component] using hsplit.symm, ?_⟩
      rintro _ ⟨⟩
      exact ⟨hne, fun c hc => List.mem_takeWhile_imp hc⟩
    case isFalse =>
      cases h
      exact ⟨rfl, fun run hrun => by cases hrun⟩
  case h_2 =>
    cases h
    exact ⟨rfl, fun run hrun => by cases hrun⟩

/-- A component is taken off again, unless it is left out and a like one follows. -/
theorem readComponent_component (hdigits : ∀ run ∈ digits, IsRun run)
    (hunit : isDigit unit = false) (hrest : mark? rest ≠ some unit) :
    readComponent unit (component unit digits ++ rest) = (digits, rest) := by
  cases digits with
  | none => exact readComponent_eq_none hrest
  | some run =>
      have hrun := hdigits run rfl
      have hhead : ∀ c ∈ (unit :: rest).head?, isDigit c = false := by
        rintro _ ⟨⟩
        exact hunit
      rw [component, List.append_assoc, List.singleton_append, readComponent,
        Text.dropWhile_eq_rest hrun.digits hhead, Text.takeWhile_eq_front hrun.digits hhead]
      simp [hrun.ne_nil]

theorem mark?_component (hdigits : ∀ run ∈ digits, IsRun run) (hunit : isDigit unit = false) :
    mark? (component unit digits ++ rest) = if digits.isSome then some unit else mark? rest := by
  cases digits with
  | none => rfl
  | some run =>
      rw [component, List.append_assoc, mark?_run_append (hdigits run rfl).digits,
        List.singleton_append, mark?_unit hunit]
      rfl

theorem component_eq_nil_iff : component unit digits = [] ↔ digits = none := by
  cases digits <;> simp [component]

theorem getLast?_component : ∀ c ∈ (component unit digits).getLast?, c = unit := by
  cases digits with
  | none => simp [component]
  | some run =>
      intro c hc
      rw [component, List.getLast?_concat] at hc
      exact (Option.some.inj hc).symm

/-- A magnitude with its sign. -/
def withSign (negative : Bool) (magnitude : Nat) : Int :=
  if negative then -magnitude else magnitude

/-- The text of a sign, of the `P` that follows it, and of what follows them. -/
def signed (negative : Bool) (body : List Char) : List Char :=
  (if negative then ['-'] else []) ++ 'P' :: body

theorem readSign_eq_some_iff {negative : Bool} {body : List Char} :
    readSign text = some (negative, body) ↔ text = signed negative body := by
  constructor
  · intro h
    unfold readSign at h
    split at h <;> cases h <;> rfl
  · rintro rfl
    cases negative <;> rfl

theorem getLast?_signed {negative : Bool} {body : List Char} (hne : body ≠ []) :
    (signed negative body).getLast? = body.getLast? := by
  rw [signed, List.getLast?_append_of_ne_nil _ (List.cons_ne_nil _ _),
    List.getLast?_cons_of_ne_nil hne]

/-- No white space stands around a text with a sign if none stands at its end. -/
theorem trim_signed {negative : Bool} {body : List Char}
    (h : ∀ c ∈ (signed negative body).getLast?, Text.isBlank c = false) :
    Text.trim (signed negative body) = signed negative body := by
  refine Text.trim_eq_self (fun c hc => ?_) h
  cases negative <;> cases hc <;> rfl

end Duration

/-! ## Days and times -/

namespace DayTimeDuration

open Duration

variable {chars rest : List Char} {seconds : Option (List Char × Option (List Char))}
  {parts : Parts}

/-- The seconds and their fraction as they are written, unless they are left out. -/
def secondsText : Option (List Char × Option (List Char)) → List Char
  | none => []
  | some (digits, none) => digits ++ ['S']
  | some (digits, some fraction) => digits ++ '.' :: (fraction ++ ['S'])

/-- The nanoseconds of a fraction of a second: its first nine digits. -/
def fractionNanos : Option (List Char) → Nat
  | none => 0
  | some digits => Nat.ofDigitChars 10 (digits.take 9) 0 * 10 ^ (9 - (digits.take 9).length)

namespace Parts

/-- The components of the time of day as they are written. -/
def timeText (parts : Parts) : List Char :=
  component 'H' parts.hours ++ (component 'M' parts.minutes ++ secondsText parts.seconds)

/-- The text of components.  A `T` stands before those of the time of day, if there are any. -/
def text (parts : Parts) : List Char :=
  signed parts.negative (component 'D' parts.days ++
    if parts.timeText = [] then [] else 'T' :: parts.timeText)

theorem eq_of_timeText_eq_nil (h : parts.timeText = []) :
    parts = ⟨parts.negative, parts.days, none, none, none⟩ := by
  rcases parts with ⟨negative, days, hours, minutes, _ | ⟨digits, _ | fraction⟩⟩ <;>
    simp_all [timeText, secondsText, component_eq_nil_iff]

/-- Whether the components of the time of day that are not left out are runs of digits. -/
structure IsLexedTime (parts : Parts) : Prop where
  hours : ∀ run ∈ parts.hours, IsRun run
  minutes : ∀ run ∈ parts.minutes, IsRun run
  seconds : ∀ run ∈ parts.seconds.map Prod.fst, IsRun run
  fraction : ∀ run ∈ parts.seconds.bind Prod.snd, IsRun run

/-- Whether all components that are not left out are runs of digits. -/
structure IsLexed (parts : Parts) : Prop extends parts.IsLexedTime where
  days : ∀ run ∈ parts.days, IsRun run

/-- Whether a duration can be written with the components.  There is one at least, counts are
numerals, and so are the digits of the fraction that count, which are the first nine. -/
structure IsForm (parts : Parts) : Prop where
  days : ∀ text ∈ parts.days, Text.IsNumeral text
  hours : ∀ text ∈ parts.hours, Text.IsNumeral text
  minutes : ∀ text ∈ parts.minutes, Text.IsNumeral text
  seconds : ∀ text ∈ parts.seconds.map Prod.fst, Text.IsNumeral text
  fraction : ∀ text ∈ parts.seconds.bind Prod.snd,
    Text.IsNumeral (text.take 9) ∧ ∀ c ∈ text, isDigit c = true
  written : parts.isEmpty = false

/-- The number of nanoseconds that the components of the time of day come to. -/
def timeTotal (parts : Parts) : Nat :=
  (countOf parts.hours * 3600 + countOf parts.minutes * 60 +
    countOf (parts.seconds.map Prod.fst)) * 1000000000 +
      fractionNanos (parts.seconds.bind Prod.snd)

/-- The number of nanoseconds that all components come to. -/
def total (parts : Parts) : Nat :=
  countOf parts.days * 86400 * 1000000000 + parts.timeTotal

theorem IsForm.isLexed (h : parts.IsForm) : parts.IsLexed where
  hours text htext := .of_isNumeral (h.hours text htext)
  minutes text htext := .of_isNumeral (h.minutes text htext)
  seconds text htext := .of_isNumeral (h.seconds text htext)
  fraction text htext := by
    rcases h.fraction text htext with ⟨hfirst, hdigits⟩
    exact ⟨fun hnil => hfirst.ne_nil (by rw [hnil, List.take_nil]), hdigits⟩
  days text htext := .of_isNumeral (h.days text htext)

end Parts

/-! ### Taking texts apart -/

theorem eq_append_of_readSeconds (h : readSeconds chars = (seconds, rest)) :
    chars = secondsText seconds ++ rest ∧ (∀ run ∈ seconds.map Prod.fst, IsRun run) ∧
      ∀ run ∈ seconds.bind Prod.snd, IsRun run := by
  have hsplit := List.takeWhile_append_dropWhile (p := isDigit) (l := chars)
  have hnone : chars = secondsText none ++ chars ∧
      (∀ run ∈ (none : Option (List Char × Option (List Char))).map Prod.fst, IsRun run) ∧
        ∀ run ∈ (none : Option (List Char × Option (List Char))).bind Prod.snd, IsRun run := by
    simp [secondsText]
  simp only [readSeconds] at h
  split at h
  case h_1 more hdrop =>
    rw [hdrop] at hsplit
    split at h
    case isTrue =>
      cases h
      exact hnone
    case isFalse hne =>
      cases h
      refine ⟨by simpa [secondsText] using hsplit.symm, ?_, by simp⟩
      rintro _ ⟨⟩
      exact ⟨by simpa using hne, fun c hc => List.mem_takeWhile_imp hc⟩
  case h_2 more hdrop =>
    have hmore := List.takeWhile_append_dropWhile (p := isDigit) (l := more)
    rw [hdrop] at hsplit
    split at h
    case h_1 after hafter =>
      rw [hafter] at hmore
      split at h
      case isTrue =>
        cases h
        exact hnone
      case isFalse hne =>
        cases h
        simp only [Bool.or_eq_true, List.isEmpty_iff, not_or] at hne
        refine ⟨?_, ?_, ?_⟩
        · rw [← hmore] at hsplit
          simpa [secondsText] using hsplit.symm
        · rintro _ ⟨⟩
          exact ⟨hne.1, fun c hc => List.mem_takeWhile_imp hc⟩
        · rintro _ ⟨⟩
          exact ⟨hne.2, fun c hc => List.mem_takeWhile_imp hc⟩
    case h_2 =>
      cases h
      exact hnone
  case h_3 =>
    cases h
    exact hnone

theorem isDigit_head_unit : ∀ c ∈ (['S'] : List Char).head?, isDigit c = false := by
  rintro _ ⟨⟩
  exact isDigit_of_capital (by decide) (by decide)

theorem readSeconds_secondsText (hdigits : ∀ run ∈ seconds.map Prod.fst, IsRun run)
    (hfraction : ∀ run ∈ seconds.bind Prod.snd, IsRun run) :
    readSeconds (secondsText seconds) = (seconds, []) := by
  rcases seconds with _ | ⟨digits, _ | fraction⟩
  · rfl
  · have hrun := hdigits digits rfl
    rw [secondsText, readSeconds, Text.dropWhile_eq_rest hrun.digits isDigit_head_unit,
      Text.takeWhile_eq_front hrun.digits isDigit_head_unit]
    simp [hrun.ne_nil]
  · have hrun := hdigits digits rfl
    have hrun' := hfraction fraction rfl
    have hpoint : ∀ c ∈ ('.' :: (fraction ++ ['S'])).head?, isDigit c = false := by
      rintro _ ⟨⟩
      exact isDigit_point
    rw [secondsText, readSeconds, Text.dropWhile_eq_rest hrun.digits hpoint,
      Text.takeWhile_eq_front hrun.digits hpoint]
    simp [Text.dropWhile_eq_rest hrun'.digits isDigit_head_unit,
      Text.takeWhile_eq_front hrun'.digits isDigit_head_unit, hrun.ne_nil, hrun'.ne_nil]

/-- Seconds end their digits with a point or with their own unit. -/
theorem mark?_secondsText {unit : Char} (hdigits : ∀ run ∈ seconds.map Prod.fst, IsRun run)
    (hpoint : unit ≠ '.') (hunit : unit ≠ 'S') : mark? (secondsText seconds) ≠ some unit := by
  have hsecond : isDigit 'S' = false := isDigit_of_capital (by decide) (by decide)
  rcases seconds with _ | ⟨digits, _ | fraction⟩
  · simp [secondsText, mark?]
  · rw [secondsText, mark?_run_append (hdigits digits rfl).digits, mark?_unit hsecond]
    exact fun h => hunit (Option.some.inj h).symm
  · rw [secondsText, mark?_run_append (hdigits digits rfl).digits, mark?_unit isDigit_point]
    exact fun h => hpoint (Option.some.inj h).symm

theorem readTimeParts_eq_some_iff {negative : Bool} {days : Option (List Char)} :
    readTimeParts negative days chars = some parts ↔
      chars = parts.timeText ∧ parts.IsLexedTime ∧ parts.negative = negative ∧
        parts.days = days := by
  constructor
  · intro h
    simp only [readTimeParts] at h
    rcases hreadHours : readComponent 'H' chars with ⟨hours, afterHours⟩
    rw [hreadHours] at h
    rcases hreadMinutes : readComponent 'M' afterHours with ⟨minutes, afterMinutes⟩
    rw [hreadMinutes] at h
    rcases hreadSeconds : readSeconds afterMinutes with ⟨seconds, after⟩
    rw [hreadSeconds] at h
    rcases eq_append_of_readComponent hreadHours with ⟨rfl, hhours⟩
    rcases eq_append_of_readComponent hreadMinutes with ⟨rfl, hminutes⟩
    rcases eq_append_of_readSeconds hreadSeconds with ⟨rfl, hseconds, hfraction⟩
    split at h
    case isTrue hend =>
      cases h
      obtain rfl : after = [] := List.isEmpty_iff.1 hend
      exact ⟨by simp [Parts.timeText], ⟨hhours, hminutes, hseconds, hfraction⟩, rfl, rfl⟩
    case isFalse => cases h
  · rintro ⟨rfl, hlexed, rfl, rfl⟩
    have hminute : isDigit 'M' = false := isDigit_of_capital (by decide) (by decide)
    have hreadSeconds := readSeconds_secondsText hlexed.seconds hlexed.fraction
    have hreadMinutes := readComponent_component hlexed.minutes hminute
      (mark?_secondsText hlexed.seconds (by decide) (by decide))
    have hhours : mark? (component 'M' parts.minutes ++ secondsText parts.seconds) ≠ some 'H' := by
      rw [mark?_component hlexed.minutes hminute]
      split
      · decide
      · exact mark?_secondsText hlexed.seconds (by decide) (by decide)
    have hreadHours := readComponent_component hlexed.hours
      (isDigit_of_capital (by decide) (by decide)) hhours
    simp only [readTimeParts, Parts.timeText, hreadHours, hreadMinutes, hreadSeconds]
    rfl

section Signed

variable {negative : Bool} {days : Option (List Char)} (hdays : ∀ run ∈ days, IsRun run)
include hdays

theorem readParts?_days :
    readParts? (signed negative (component 'D' days)) =
      some ⟨negative, days, none, none, none⟩ := by
  have hread := readComponent_component hdays (isDigit_of_capital (by decide) (by decide))
    (show mark? [] ≠ some 'D' by simp [mark?])
  rw [List.append_nil] at hread
  simp only [readParts?, readSign_eq_some_iff.2 rfl, hread]

theorem readParts?_time :
    readParts? (signed negative (component 'D' days ++ 'T' :: rest)) =
      readTimeParts negative days rest := by
  have htime : isDigit 'T' = false := isDigit_of_capital (by decide) (by decide)
  have hmark : mark? ('T' :: rest) ≠ some 'D' := by
    rw [mark?_unit htime]
    decide
  have hread := readComponent_component hdays (isDigit_of_capital (by decide) (by decide)) hmark
  simp only [readParts?, readSign_eq_some_iff.2 rfl, hread]

end Signed

/-- The texts that are taken apart are those of components.  A `T` at the end is dealt with
later. -/
theorem readParts?_eq_some_iff :
    readParts? chars = some parts ↔
      parts.IsLexed ∧ (chars = parts.text ∨ parts.timeText = [] ∧ chars = parts.text ++ ['T']) := by
  constructor
  · intro h
    rw [readParts?] at h
    split at h
    case h_1 => cases h
    case h_2 negative body hsign =>
      obtain rfl := readSign_eq_some_iff.1 hsign
      rcases hread : readComponent 'D' body with ⟨days, after⟩
      simp only [hread] at h
      rcases eq_append_of_readComponent hread with ⟨rfl, hdays⟩
      split at h
      case h_1 =>
        cases h
        refine ⟨⟨⟨?_, ?_, ?_, ?_⟩, hdays⟩, .inl rfl⟩ <;> simp
      case h_2 more =>
        rcases readTimeParts_eq_some_iff.1 h with ⟨rfl, hlexed, rfl, rfl⟩
        refine ⟨⟨hlexed, hdays⟩, ?_⟩
        by_cases htime : parts.timeText = []
        · exact .inr ⟨htime, by simp [Parts.text, signed, htime]⟩
        · exact .inl (by rw [Parts.text, if_neg htime])
      case h_3 => cases h
  · rintro ⟨hlexed, rfl | ⟨htime, rfl⟩⟩
    · by_cases htime : parts.timeText = []
      · rw [Parts.text, if_pos htime, List.append_nil, readParts?_days hlexed.days]
        exact congrArg some (Parts.eq_of_timeText_eq_nil htime).symm
      · rw [Parts.text, if_neg htime, readParts?_time hlexed.days]
        exact readTimeParts_eq_some_iff.2 ⟨rfl, hlexed.toIsLexedTime, rfl, rfl⟩
    · have htext : parts.text ++ ['T'] =
          signed parts.negative (component 'D' parts.days ++ ['T']) := by
        simp [Parts.text, signed, htime]
      rw [htext, readParts?_time hlexed.days]
      exact readTimeParts_eq_some_iff.2 ⟨htime.symm, hlexed.toIsLexedTime, rfl, rfl⟩

/-! ### What the components come to -/

theorem fractionNanos?_eq_some_iff {digits : Option (List Char)} {n : Nat} :
    fractionNanos? digits = some n ↔
      (∀ text ∈ digits, Text.IsNumeral (text.take 9)) ∧ fractionNanos digits = n := by
  cases digits with
  | none => simp [fractionNanos?, fractionNanos]
  | some text =>
      -- Nine digits are always few enough.
      have hsmall (h : Text.IsNumeral (text.take 9)) :
          Nat.ofDigitChars 10 (text.take 9) 0 ≤ maxCount :=
        calc
          _ ≤ 10 ^ (text.take 9).length := (Text.ofDigitChars_lt h.digits).le
          _ ≤ 10 ^ 9 := Nat.pow_le_pow_right (by decide) (List.length_take_le _ _)
          _ ≤ maxCount := by decide
      simp only [fractionNanos?, Option.map_eq_some_iff, Text.natural?_eq_some_iff, fractionNanos,
        Option.mem_def, Option.some.injEq, forall_eq']
      constructor
      · rintro ⟨_, ⟨hfirst, rfl, _⟩, rfl⟩
        exact ⟨hfirst, rfl⟩
      · rintro ⟨hfirst, rfl⟩
        exact ⟨_, ⟨hfirst, rfl, hsmall hfirst⟩, rfl⟩

theorem timeNanos?_eq_some_iff {n : Nat} :
    parts.timeNanos? = some n ↔
      ((∀ text ∈ parts.hours, Text.IsNumeral text) ∧ countOf parts.hours ≤ maxCount) ∧
      ((∀ text ∈ parts.minutes, Text.IsNumeral text) ∧ countOf parts.minutes ≤ maxCount) ∧
      ((∀ text ∈ parts.seconds.map Prod.fst, Text.IsNumeral text) ∧
        countOf (parts.seconds.map Prod.fst) ≤ maxCount) ∧
      (∀ text ∈ parts.seconds.bind Prod.snd, Text.IsNumeral (text.take 9)) ∧
      parts.timeTotal = n := by
  simp only [Parts.timeNanos?, Option.bind_eq_bind, Option.bind_eq_some_iff, Option.pure_def,
    Option.some.injEq, count?_eq_some_iff, fractionNanos?_eq_some_iff]
  constructor
  · rintro ⟨_, ⟨hhours, rfl, hhours'⟩, _, ⟨hminutes, rfl, hminutes'⟩, _, ⟨hseconds, rfl, hseconds'⟩,
      _, ⟨hfraction, rfl⟩, rfl⟩
    exact ⟨⟨hhours, hhours'⟩, ⟨hminutes, hminutes'⟩, ⟨hseconds, hseconds'⟩, hfraction, rfl⟩
  · rintro ⟨⟨hhours, hhours'⟩, ⟨hminutes, hminutes'⟩, ⟨hseconds, hseconds'⟩, hfraction, rfl⟩
    exact ⟨_, ⟨hhours, rfl, hhours'⟩, _, ⟨hminutes, rfl, hminutes'⟩, _, ⟨hseconds, rfl, hseconds'⟩,
      _, ⟨hfraction, rfl⟩, rfl⟩

variable {duration : DayTimeDuration}

/-- No component is dropped, and nothing wraps. -/
theorem ofParts_eq_ok_iff (hlexed : parts.IsLexed) (hwritten : parts.isEmpty = false) :
    ofParts parts = .ok duration ↔
      parts.IsForm ∧ parts.total ≤ maxNanos ∧
        duration = ⟨withSign parts.negative parts.total⟩ := by
  constructor
  · intro h
    rw [ofParts] at h
    split at h
    case h_1 => cases h
    case h_2 days hdays =>
      rcases count?_eq_some_iff.1 hdays with ⟨hcount, rfl, _⟩
      split at h
      case h_1 => cases h
      case h_2 nanos hnanos =>
        rcases timeNanos?_eq_some_iff.1 hnanos with
          ⟨⟨hhours, _⟩, ⟨hminutes, _⟩, ⟨hseconds, _⟩, hfraction, rfl⟩
        dsimp only at h
        split at h
        case isTrue => cases h
        case isFalse hrange =>
          cases h
          have hdigits (text : List Char) (htext : text ∈ parts.seconds.bind Prod.snd) :=
            (hlexed.fraction text htext).digits
          exact ⟨⟨hcount, hhours, hminutes, hseconds,
            fun text htext => ⟨hfraction text htext, hdigits text htext⟩, hwritten⟩,
            Nat.le_of_not_lt hrange, rfl⟩
  · rintro ⟨hform, hrange, rfl⟩
    -- A component whose count passes the limit would bring the total out of the range.
    have hmax : maxNanos ≤ maxCount * 1000000000 := by decide
    have htotal : parts.total = countOf parts.days * 86400 * 1000000000 +
      ((countOf parts.hours * 3600 + countOf parts.minutes * 60 +
        countOf (parts.seconds.map Prod.fst)) * 1000000000 +
          fractionNanos (parts.seconds.bind Prod.snd)) := rfl
    have hdays : count? parts.days = some (countOf parts.days) :=
      count?_eq_some_iff.2 ⟨hform.days, rfl, by omega⟩
    have hnanos : parts.timeNanos? = some parts.timeTotal :=
      timeNanos?_eq_some_iff.2 ⟨⟨hform.hours, by omega⟩, ⟨hform.minutes, by omega⟩,
        ⟨hform.seconds, by omega⟩, fun text htext => (hform.fraction text htext).1, rfl⟩
    simp only [ofParts, hdays, hnanos]
    exact if_neg (Nat.not_lt.2 hrange)

/-! ### The forms that are read -/

/-- The components of the time of day end in a unit. -/
theorem getLast?_timeText : ∀ c ∈ parts.timeText.getLast?, c ∈ ['H', 'M', 'S'] := by
  have hseconds : ∀ c ∈ (secondsText parts.seconds).getLast?, c = 'S' := by
    rcases parts.seconds with _ | ⟨digits, _ | fraction⟩ <;>
      simp [secondsText, List.getLast?_cons]
  intro c hc
  simp only [Parts.timeText, List.getLast?_append, Option.mem_def, Option.or_eq_some_iff] at hc
  rcases hc with (hc | ⟨-, hc⟩) | ⟨-, hc⟩
  · simp [hseconds c hc]
  · simp [getLast?_component c hc]
  · simp [getLast?_component c hc]

/-- The text of components, of which there is one at least, ends in a unit. -/
theorem getLast?_text (hwritten : parts.isEmpty = false) :
    ∀ c ∈ parts.text.getLast?, c ∈ ['D', 'H', 'M', 'S'] := by
  intro c hc
  by_cases htime : parts.timeText = []
  · have hdays : component 'D' parts.days ≠ [] := by
      intro hnil
      rw [component_eq_nil_iff] at hnil
      rw [Parts.eq_of_timeText_eq_nil htime, hnil] at hwritten
      cases hwritten
    rw [Parts.text, if_pos htime, List.append_nil, getLast?_signed hdays] at hc
    simp [getLast?_component c hc]
  · rw [Parts.text, if_neg htime, getLast?_signed (by simp),
      List.getLast?_append_of_ne_nil _ (List.cons_ne_nil _ _),
      List.getLast?_cons_of_ne_nil htime] at hc
    exact List.mem_cons_of_mem _ (getLast?_timeText c hc)

/-- No white space stands around the text of components. -/
theorem trim_text (hwritten : parts.isEmpty = false) : Text.trim parts.text = parts.text :=
  trim_signed fun c hc =>
    Text.isBlank_of_isDigit_or_mem (by decide) (.inr (getLast?_text hwritten c hc))

/-- The texts of durations are those of components whose total is in range. -/
theorem read_eq_ok_iff :
    read chars = .ok duration ↔
      ∃ parts : Parts, parts.IsForm ∧ parts.text = Text.trim chars ∧ parts.total ≤ maxNanos ∧
        duration = ⟨withSign parts.negative parts.total⟩ := by
  constructor
  · intro h
    simp only [read] at h
    split at h
    case h_1 => cases h
    case h_2 parts hparts =>
      split at h
      case isTrue => cases h
      case isFalse hend =>
        simp only [Bool.or_eq_true, decide_eq_true_eq, not_or, Bool.not_eq_true] at hend
        rcases readParts?_eq_some_iff.1 hparts with ⟨hlexed, htext | ⟨-, htext⟩⟩
        · rcases (ofParts_eq_ok_iff hlexed hend.1).1 h with ⟨hform, hrange, rfl⟩
          exact ⟨parts, hform, htext.symm, hrange, rfl⟩
        · exact absurd (by rw [htext, List.getLast?_concat]) hend.2
  · rintro ⟨parts, hform, htext, hrange, rfl⟩
    have hparts : readParts? (Text.trim chars) = some parts :=
      readParts?_eq_some_iff.2 ⟨hform.isLexed, .inl htext.symm⟩
    have hend : (Text.trim chars).getLast? ≠ some 'T' := by
      intro h
      exact absurd (getLast?_text hform.written _ (htext ▸ h)) (by decide)
    simp only [read, hparts, hform.written, hend, decide_false, Bool.or_self, Bool.false_eq_true,
      if_false]
    exact (ofParts_eq_ok_iff hform.isLexed hform.written).2 ⟨hform, hrange, rfl⟩

end DayTimeDuration

/-! ## Years and months -/

namespace YearMonthDuration

open Duration

variable {chars : List Char} {parts : Parts} {duration : YearMonthDuration}

namespace Parts

/-- The text of components. -/
def text (parts : Parts) : List Char :=
  signed parts.negative (component 'Y' parts.years ++ component 'M' parts.months)

/-- Whether a duration can be written with the components.  There is one at least, and counts are
numerals. -/
structure IsForm (parts : Parts) : Prop where
  years : ∀ text ∈ parts.years, Text.IsNumeral text
  months : ∀ text ∈ parts.months, Text.IsNumeral text
  written : parts.years.isSome ∨ parts.months.isSome

/-- The number of months that all components come to. -/
def total (parts : Parts) : Nat :=
  countOf parts.years * 12 + countOf parts.months

end Parts

/-- The texts that are taken apart are those of components. -/
theorem readParts?_eq_some_iff :
    readParts? chars = some parts ↔
      chars = parts.text ∧ (∀ run ∈ parts.years, IsRun run) ∧ ∀ run ∈ parts.months, IsRun run := by
  constructor
  · intro h
    rw [readParts?] at h
    split at h
    case h_1 => cases h
    case h_2 negative body hsign =>
      obtain rfl := readSign_eq_some_iff.1 hsign
      rcases hreadYears : readComponent 'Y' body with ⟨years, afterYears⟩
      rcases hreadMonths : readComponent 'M' afterYears with ⟨months, after⟩
      simp only [hreadYears, hreadMonths] at h
      rcases eq_append_of_readComponent hreadYears with ⟨rfl, hyears⟩
      rcases eq_append_of_readComponent hreadMonths with ⟨rfl, hmonths⟩
      split at h
      case isTrue hend =>
        cases h
        obtain rfl : after = [] := List.isEmpty_iff.1 hend
        exact ⟨by simp [Parts.text], hyears, hmonths⟩
      case isFalse => cases h
  · rintro ⟨rfl, hyears, hmonths⟩
    have hmonth : isDigit 'M' = false := isDigit_of_capital (by decide) (by decide)
    have hreadMonths := readComponent_component hmonths hmonth
      (show mark? [] ≠ some 'M' by simp [mark?])
    rw [List.append_nil] at hreadMonths
    have hmark : mark? (component 'M' parts.months) ≠ some 'Y' := by
      rw [← List.append_nil (component 'M' parts.months), mark?_component hmonths hmonth]
      split
      · decide
      · simp [mark?]
    have hreadYears := readComponent_component hyears
      (isDigit_of_capital (by decide) (by decide)) hmark
    simp only [readParts?, Parts.text, readSign_eq_some_iff.2 rfl, hreadYears, hreadMonths]
    rfl

/-- No component is dropped, and nothing wraps. -/
theorem ofParts_eq_ok_iff (hwritten : parts.years.isSome ∨ parts.months.isSome) :
    ofParts parts = .ok duration ↔
      parts.IsForm ∧ parts.total ≤ maxCount ∧
        duration = ⟨withSign parts.negative parts.total⟩ := by
  constructor
  · intro h
    rw [ofParts] at h
    split at h
    case h_1 => cases h
    case h_2 years hyears =>
      rcases count?_eq_some_iff.1 hyears with ⟨hyears', rfl, _⟩
      split at h
      case h_1 => cases h
      case h_2 months hmonths =>
        rcases count?_eq_some_iff.1 hmonths with ⟨hmonths', rfl, _⟩
        dsimp only at h
        split at h
        case isTrue => cases h
        case isFalse hrange =>
          cases h
          exact ⟨⟨hyears', hmonths', hwritten⟩, Nat.le_of_not_lt hrange, rfl⟩
  · rintro ⟨hform, hrange, rfl⟩
    have htotal : parts.total = countOf parts.years * 12 + countOf parts.months := rfl
    have hyears : count? parts.years = some (countOf parts.years) :=
      count?_eq_some_iff.2 ⟨hform.years, rfl, by omega⟩
    have hmonths : count? parts.months = some (countOf parts.months) :=
      count?_eq_some_iff.2 ⟨hform.months, rfl, by omega⟩
    simp only [ofParts, hyears, hmonths]
    exact if_neg (Nat.not_lt.2 hrange)

/-- No white space stands around the text of components. -/
theorem trim_text (hform : parts.IsForm) : Text.trim parts.text = parts.text := by
  refine trim_signed fun c hc => ?_
  have hunits : (['Y', 'M'].all fun c => !Text.isBlank c) = true := by decide
  have hbody : component 'Y' parts.years ++ component 'M' parts.months ≠ [] := by
    have hwritten := hform.written
    rw [Ne, List.append_eq_nil_iff, component_eq_nil_iff, component_eq_nil_iff]
    rintro ⟨hyears, hmonths⟩
    simp [hyears, hmonths] at hwritten
  rw [getLast?_signed hbody, List.getLast?_append, Option.mem_def, Option.or_eq_some_iff] at hc
  rcases hc with hc | ⟨-, hc⟩
  · exact Text.isBlank_of_isDigit_or_mem hunits (.inr (by simp [getLast?_component c hc]))
  · exact Text.isBlank_of_isDigit_or_mem hunits (.inr (by simp [getLast?_component c hc]))

/-- The texts of durations are those of components whose total is in range. -/
theorem read_eq_ok_iff :
    read chars = .ok duration ↔
      ∃ parts : Parts, parts.IsForm ∧ parts.text = Text.trim chars ∧ parts.total ≤ maxCount ∧
        duration = ⟨withSign parts.negative parts.total⟩ := by
  constructor
  · intro h
    rw [read] at h
    split at h
    case h_1 => cases h
    case h_2 parts hparts =>
      split at h
      case isTrue => cases h
      case isFalse hwritten =>
        rcases readParts?_eq_some_iff.1 hparts with ⟨htext, -, -⟩
        have hwritten : parts.years.isSome ∨ parts.months.isSome := by
          rcases parts with ⟨_, _ | _, _ | _⟩ <;> simp_all
        rcases (ofParts_eq_ok_iff hwritten).1 h with ⟨hform, hrange, rfl⟩
        exact ⟨parts, hform, htext.symm, hrange, rfl⟩
  · rintro ⟨parts, hform, htext, hrange, rfl⟩
    have hparts : readParts? (Text.trim chars) = some parts :=
      readParts?_eq_some_iff.2 ⟨htext.symm, fun text h => .of_isNumeral (hform.years text h),
        fun text h => .of_isNumeral (hform.months text h)⟩
    have hwritten : (parts.years.isNone && parts.months.isNone) = false := by
      have := hform.written
      rcases parts with ⟨_, _ | _, _ | _⟩ <;> simp_all
    simp only [read, hparts, hwritten, Bool.false_eq_true, if_false]
    exact (ofParts_eq_ok_iff hform.written).2 ⟨hform, hrange, rfl⟩

end YearMonthDuration

end Xacml
