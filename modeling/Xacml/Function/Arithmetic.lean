import Xacml.Evaluation.Datum
import Xacml.Function.Names

/-!
# Arithmetic

* `IntegerOp` and `DoubleOp` are the functions on numbers,
* `ShiftOp` are the functions that move dates and date-times by durations.
-/

namespace Xacml

/-! ## Integers -/

inductive IntegerOp
  | add
  | multiply
  | subtract
  | divide
  | mod
  | abs
  deriving DecidableEq, Repr

namespace IntegerOp

def all : List IntegerOp := [add, multiply, subtract, divide, mod, abs]

def name : IntegerOp → String
  | add => "add"
  | multiply => "multiply"
  | subtract => "subtract"
  | divide => "divide"
  | mod => "mod"
  | abs => "abs"

def id (op : IntegerOp) : String :=
  DataType.functionId .first .integer op.name

def params : IntegerOp → Params
  | add | multiply => .variadic [] (.single .integer) 2
  | subtract | divide | mod => .fixed [.single .integer, .single .integer]
  | abs => .fixed [.single .integer]

def within : Option Int64 → Except Failure Int64
  | some n => .ok n
  | none => .error .overflow

/-- The result of an operation on all numbers, from left to right. -/
def foldAll (op : Int64 → Int64 → Option Int64) (acc : Int64) :
    List Int64 → Except Failure Int64
  | [] => .ok acc
  | n :: rest =>
      match op acc n with
      | some acc => foldAll op acc rest
      | none => .error .overflow

/-- The result of a function on numbers; `none` if their number is wrong. -/
def compute (op : IntegerOp) (numbers : List Int64) : Option (Except Failure Int64) :=
  match op, numbers with
  | add, n :: rest => some (foldAll Integer.add? n rest)
  | multiply, n :: rest => some (foldAll Integer.mul? n rest)
  | subtract, [a, b] => some (within (Integer.sub? a b))
  | divide, [a, b] =>
      some (if b = 0 then .error .divisionByZero else within (Integer.div? a b))
  | mod, [a, b] => some (if b = 0 then .error .modulusByZero else within (Integer.mod? a b))
  | abs, [a] => some (within (Integer.abs? a))
  | _, _ => none

def call (op : IntegerOp) (args : List Datum) : Except EvaluationError Datum := do
  let numbers ← args.mapM Datum.asInteger
  match op.compute numbers with
  | some (.ok n) => return .single (.integer n)
  | some (.error failure) => throw (.failed op.id failure)
  | none => throw (.arity op.id op.params.minLength args.length)

end IntegerOp

/-! ## Doubles -/

inductive DoubleOp
  | add
  | multiply
  | subtract
  | divide
  | abs
  | round
  | floor
  deriving DecidableEq, Repr

namespace DoubleOp

def all : List DoubleOp := [add, multiply, subtract, divide, abs, round, floor]

def id : DoubleOp → String
  | add => DataType.functionId .first .double "add"
  | multiply => DataType.functionId .first .double "multiply"
  | subtract => DataType.functionId .first .double "subtract"
  | divide => DataType.functionId .first .double "divide"
  | abs => DataType.functionId .first .double "abs"
  | round => Edition.first.base ++ "round"
  | floor => Edition.first.base ++ "floor"

def params : DoubleOp → Params
  | add | multiply => .variadic [] (.single .double) 2
  | subtract | divide => .fixed [.single .double, .single .double]
  | abs | round | floor => .fixed [.single .double]

/-- The result of a function on numbers; `none` if their number is wrong. -/
def compute (op : DoubleOp) (numbers : List Double) : Option (Except Failure Double) :=
  match op, numbers with
  | add, x :: rest => some (.ok (rest.foldl Double.add x))
  | multiply, x :: rest => some (.ok (rest.foldl Double.mul x))
  | subtract, [x, y] => some (.ok (x.sub y))
  | divide, [x, y] => some (if y.isZero then .error .divisionByZero else .ok (x.div y))
  | abs, [x] => some (.ok x.abs)
  | round, [x] => some (.ok x.roundEven)
  | floor, [x] => some (.ok x.floor)
  | _, _ => none

def call (op : DoubleOp) (args : List Datum) : Except EvaluationError Datum := do
  let numbers ← args.mapM Datum.asDouble
  match op.compute numbers with
  | some (.ok x) => return .single (.double x)
  | some (.error failure) => throw (.failed op.id failure)
  | none => throw (.arity op.id op.params.minLength args.length)

end DoubleOp

/-! ## Dates and durations -/

/-- Functions that move a date or a date-time by a duration. -/
inductive ShiftOp
  | dateTimeAddDayTime
  | dateTimeSubtractDayTime
  | dateTimeAddYearMonth
  | dateTimeSubtractYearMonth
  | dateAddYearMonth
  | dateSubtractYearMonth
  deriving DecidableEq, Repr

namespace ShiftOp

/-- Every function that moves a date or a date-time. -/
def all : List ShiftOp :=
  [ dateTimeAddDayTime, dateTimeSubtractDayTime, dateTimeAddYearMonth
  , dateTimeSubtractYearMonth, dateAddYearMonth, dateSubtractYearMonth ]

def name : ShiftOp → String
  | dateTimeAddDayTime => "dateTime-add-dayTimeDuration"
  | dateTimeSubtractDayTime => "dateTime-subtract-dayTimeDuration"
  | dateTimeAddYearMonth => "dateTime-add-yearMonthDuration"
  | dateTimeSubtractYearMonth => "dateTime-subtract-yearMonthDuration"
  | dateAddYearMonth => "date-add-yearMonthDuration"
  | dateSubtractYearMonth => "date-subtract-yearMonthDuration"

def id (op : ShiftOp) : String := Edition.third.base ++ op.name

def subject : ShiftOp → DataType
  | dateAddYearMonth | dateSubtractYearMonth => .date
  | _ => .dateTime

def duration : ShiftOp → DataType
  | dateTimeAddDayTime | dateTimeSubtractDayTime => .dayTimeDuration
  | _ => .yearMonthDuration

def params (op : ShiftOp) : Params :=
  .fixed [.single op.subject, .single op.duration]

/-- The moved date or date-time, if it is in range. -/
def move? : ShiftOp → Value → Value → Option Value
  | dateTimeAddDayTime, .dateTime t, .dayTimeDuration d => (t.addDuration? d).map .dateTime
  | dateTimeSubtractDayTime, .dateTime t, .dayTimeDuration d =>
      (t.addDuration? d.neg).map .dateTime
  | dateTimeAddYearMonth, .dateTime t, .yearMonthDuration d =>
      (t.addMonths? d.months).map .dateTime
  | dateTimeSubtractYearMonth, .dateTime t, .yearMonthDuration d =>
      (t.addMonths? (-d.months)).map .dateTime
  | dateAddYearMonth, .date t, .yearMonthDuration d => (t.addMonths? d.months).map .date
  | dateSubtractYearMonth, .date t, .yearMonthDuration d => (t.addMonths? (-d.months)).map .date
  | _, _, _ => none

def call (op : ShiftOp) (args : List Datum) : Except EvaluationError Datum := do
  match ← args.mapM Datum.asValue with
  | [a, b] =>
      match op.move? a b with
      | some value => return .single value
      | none => throw (.failed op.id .outOfRange)
  | _ => throw (.arity op.id 2 args.length)

end ShiftOp

end Xacml
