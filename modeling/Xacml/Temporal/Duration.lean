import Xacml.Text.Blank
import Xacml.Text.Category
import Xacml.Text.Numeral

/-!
# Durations

* `DayTimeDuration` is a number of nanoseconds, written like `P1DT2H3M4.5S`,
* `YearMonthDuration` is a number of months, written like `P1Y2M`,
* each has a reader and a writer of its canonical form.
-/

namespace Xacml

/-! ## Components -/

namespace Duration

inductive Fault
  | dayTimeForm
  | yearMonthForm
  | noComponents
  | componentRange
  | outOfRange
  deriving DecidableEq, Repr

def Fault.message : Fault → String
  | dayTimeForm => "expected a form like `P1DT2H3M4.5S`"
  | yearMonthForm => "expected a form like `P1Y2M`"
  | noComponents => "duration has no components"
  | componentRange => "duration component out of range"
  | outOfRange => "duration out of range"

def maxCount : Nat := Nat.pow 2 63 - 1

/-- Whether a character is a decimal digit of any script. -/
def isDigit (c : Char) : Bool :=
  Text.Category.ofChar c = .decimalNumber

/-- The digits before a unit, if a text starts with such a component, and the text after it. -/
def readComponent (unit : Char) (text : List Char) : Option (List Char) × List Char :=
  let digits := text.takeWhile isDigit
  match text.dropWhile isDigit with
  | c :: rest => if c = unit && !digits.isEmpty then (some digits, rest) else (none, text)
  | [] => (none, text)

/-- The digits of the seconds and those of their fraction, if a text starts with such a
component. -/
def readSeconds (text : List Char) :
    Option (List Char × Option (List Char)) × List Char :=
  let digits := text.takeWhile isDigit
  match text.dropWhile isDigit with
  | 'S' :: rest => if digits.isEmpty then (none, text) else (some (digits, none), rest)
  | '.' :: rest =>
      let fraction := rest.takeWhile isDigit
      match rest.dropWhile isDigit with
      | 'S' :: rest =>
          if digits.isEmpty || fraction.isEmpty then (none, text)
          else (some (digits, some fraction), rest)
      | _ => (none, text)
  | _ => (none, text)

/-- The sign of a duration, and what follows its `P`. -/
def readSign : List Char → Option (Bool × List Char)
  | '-' :: 'P' :: rest => some (true, rest)
  | 'P' :: rest => some (false, rest)
  | _ => none

/-- The count of a component; one that is left out counts nothing. -/
def count? (digits : Option (List Char)) : Option Nat :=
  match digits with
  | none => some 0
  | some digits => Text.natural? maxCount digits

end Duration

/-! ## Days and times -/

structure DayTimeDuration where
  nanos : Int
  deriving DecidableEq, Repr

namespace DayTimeDuration

open Duration

def maxNanos : Nat := (Nat.pow 2 63 - 1) * 1000000

/-- The written components of a duration. -/
structure Parts where
  negative : Bool
  days : Option (List Char)
  hours : Option (List Char)
  minutes : Option (List Char)
  seconds : Option (List Char × Option (List Char))
  deriving DecidableEq, Repr

/-- The components after a `T`, up to the end of the text. -/
def readTimeParts (negative : Bool) (days : Option (List Char)) (text : List Char) :
    Option Parts :=
  let (hours, rest) := readComponent 'H' text
  let (minutes, rest) := readComponent 'M' rest
  let (seconds, rest) := readSeconds rest
  if rest.isEmpty then some ⟨negative, days, hours, minutes, seconds⟩ else none

def readParts? (text : List Char) : Option Parts :=
  match readSign text with
  | none => none
  | some (negative, rest) =>
      let (days, rest) := readComponent 'D' rest
      match rest with
      | [] => some ⟨negative, days, none, none, none⟩
      | 'T' :: rest => readTimeParts negative days rest
      | _ => none

def Parts.isEmpty (parts : Parts) : Bool :=
  parts.days.isNone && parts.hours.isNone && parts.minutes.isNone && parts.seconds.isNone

/-- The nanoseconds of a fraction: its first nine digits. -/
def fractionNanos? : Option (List Char) → Option Nat
  | none => some 0
  | some digits =>
      let first := digits.take 9
      (Text.natural? maxCount first).map fun n => n * Nat.pow 10 (9 - first.length)

/-- The nanoseconds of all components but the days. -/
def Parts.timeNanos? (parts : Parts) : Option Nat := do
  let hours ← count? parts.hours
  let minutes ← count? parts.minutes
  let seconds ← count? (parts.seconds.map Prod.fst)
  let nanos ← fractionNanos? (parts.seconds.bind Prod.snd)
  return (hours * 3600 + minutes * 60 + seconds) * 1000000000 + nanos

def ofParts (parts : Parts) : Except Fault DayTimeDuration :=
  match count? parts.days with
  | none => .error .componentRange
  | some days =>
      match parts.timeNanos? with
      | none => .error .outOfRange
      | some nanos =>
          let total := days * 86400 * 1000000000 + nanos
          if maxNanos < total then .error .outOfRange
          else .ok ⟨if parts.negative then -(total : Int) else total⟩

def read (text : List Char) : Except Fault DayTimeDuration :=
  let trimmed := Text.trim text
  match readParts? trimmed with
  | none => .error .dayTimeForm
  | some parts =>
      if parts.isEmpty || trimmed.getLast? = some 'T' then .error .noComponents
      else ofParts parts

/-- A count with its unit, unless it is zero. -/
def writeComponent (count : Nat) (unit : Char) : List Char :=
  if count = 0 then [] else Text.decimal count ++ [unit]

/-- The seconds and their fraction, unless both are zero. -/
def writeSeconds (seconds nanos : Nat) : List Char :=
  if nanos = 0 then writeComponent seconds 'S'
  else
    let digits := Text.padZeros 9 (Text.decimal nanos)
    let fraction := (digits.reverse.dropWhile (· == '0')).reverse
    Text.decimal seconds ++ '.' :: fraction ++ ['S']

/-- The text of a duration: every component that is not zero, or `PT0S`. -/
def write (duration : DayTimeDuration) : List Char :=
  let magnitude := duration.nanos.natAbs
  let seconds := magnitude / 1000000000
  let nanos := magnitude % 1000000000
  let days := writeComponent (seconds / 86400) 'D'
  let rest := seconds % 86400
  let time :=
    writeComponent (rest / 3600) 'H' ++ writeComponent (rest / 60 % 60) 'M' ++
      writeSeconds (rest % 60) nanos
  let sign := if duration.nanos < 0 then ['-'] else []
  if time.isEmpty then
    sign ++ 'P' :: (if days.isEmpty then ['T', '0', 'S'] else days)
  else sign ++ 'P' :: days ++ 'T' :: time

def neg (duration : DayTimeDuration) : DayTimeDuration :=
  ⟨-duration.nanos⟩

end DayTimeDuration

/-! ## Years and months -/

structure YearMonthDuration where
  months : Int
  deriving DecidableEq, Repr

namespace YearMonthDuration

open Duration

/-- The written components of a duration. -/
structure Parts where
  negative : Bool
  years : Option (List Char)
  months : Option (List Char)
  deriving DecidableEq, Repr

def readParts? (text : List Char) : Option Parts :=
  match readSign text with
  | none => none
  | some (negative, rest) =>
      let (years, rest) := readComponent 'Y' rest
      let (months, rest) := readComponent 'M' rest
      if rest.isEmpty then some ⟨negative, years, months⟩ else none

def ofParts (parts : Parts) : Except Fault YearMonthDuration :=
  match count? parts.years with
  | none => .error .componentRange
  | some years =>
      match count? parts.months with
      | none => .error .outOfRange
      | some months =>
          let total := years * 12 + months
          if maxCount < total then .error .outOfRange
          else .ok ⟨if parts.negative then -(total : Int) else total⟩

def read (text : List Char) : Except Fault YearMonthDuration :=
  match readParts? (Text.trim text) with
  | none => .error .yearMonthForm
  | some parts =>
      if parts.years.isNone && parts.months.isNone then .error .noComponents else ofParts parts

/-- The text of a duration: years unless they are zero, and months unless they are zero beside
years. -/
def write (duration : YearMonthDuration) : List Char :=
  let magnitude := duration.months.natAbs
  let years := magnitude / 12
  let months := magnitude % 12
  (if duration.months < 0 then ['-'] else []) ++ 'P' ::
    (if years = 0 then [] else Text.decimal years ++ ['Y']) ++
    (if months = 0 && years ≠ 0 then [] else Text.decimal months ++ ['M'])

def neg (duration : YearMonthDuration) : YearMonthDuration :=
  ⟨-duration.months⟩

end YearMonthDuration

end Xacml
