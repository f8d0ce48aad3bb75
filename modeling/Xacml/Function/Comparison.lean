import Xacml.Evaluation.Datum
import Xacml.Function.Names

/-!
# Comparisons

* `Relation` are the relations between ordered values, and `Value.order?` is the order,
* `ComparisonOp` are the functions that compare values, and `not`.
-/

namespace Xacml

/-! ## Order of values -/

/-- Relations between values of one ordered type. -/
inductive Relation
  | greater
  | greaterOrEqual
  | less
  | lessOrEqual
  deriving DecidableEq, Repr

namespace Relation

def all : List Relation := [greater, greaterOrEqual, less, lessOrEqual]

def name : Relation → String
  | greater => "greater-than"
  | greaterOrEqual => "greater-than-or-equal"
  | less => "less-than"
  | lessOrEqual => "less-than-or-equal"

/-- Whether a relation holds between values in the given order. -/
def holds : Relation → Ordering → Bool
  | greater, order => order.isGT
  | greaterOrEqual, order => order.isGE
  | less, order => order.isLT
  | lessOrEqual, order => order.isLE

end Relation

/-- The order of two values of one ordered type.  A double that is not a number has no order. -/
def Value.order? : Value → Value → Option Ordering
  | .integer a, .integer b => some (compare a.toInt b.toInt)
  | .double a, .double b => a.compare? b
  | .string a, .string b => some (compare a b)
  | .time a, .time b => some (a.order b)
  | .date a, .date b => some (a.order b)
  | .dateTime a, .dateTime b => some (a.order b)
  | _, _ => none

/-! ## Functions -/

/-- Functions that compare values. -/
inductive ComparisonOp
  | equal (type : DataType)
  | ordered (relation : Relation) (type : DataType)
  | timeInRange
  | not
  deriving DecidableEq, Repr

namespace ComparisonOp

def orderedTypes : List DataType := [.integer, .double, .string, .time, .date, .dateTime]

/-- The data types with an equality function. -/
def equalTypes : List DataType := DataType.all.filter DataType.hasEquality

def all : List ComparisonOp :=
  equalTypes.map equal ++
    orderedTypes.flatMap (fun type => Relation.all.map fun relation => ordered relation type) ++
    [timeInRange, not]

def id : ComparisonOp → String
  | equal type =>
      let edition : Edition :=
        if type = .dayTimeDuration ∨ type = .yearMonthDuration then .third else .first
      DataType.functionId edition type "equal"
  | ordered relation type => DataType.functionId .first type relation.name
  | timeInRange => DataType.functionId .second .time "in-range"
  | not => Edition.first.base ++ "not"

def params : ComparisonOp → Params
  | equal type | ordered _ type => .fixed [.single type, .single type]
  | timeInRange => .fixed [.single .time, .single .time, .single .time]
  | not => .fixed [.boolean]

def call (op : ComparisonOp) (args : List Datum) : Except EvaluationError Datum :=
  match op, args with
  | equal _, [a, b] => do
      let a ← a.asValue
      let b ← b.asValue
      return .ofBool (a.same b)
  | ordered relation _, [a, b] => do
      let a ← a.asValue
      let b ← b.asValue
      return .ofBool ((a.order? b).any relation.holds)
  | timeInRange, [t, lower, upper] => do
      let t ← t.asTime
      let lower ← lower.asTime
      let upper ← upper.asTime
      return .ofBool (t.inRange lower upper)
  | not, [a] => do return .ofBool (!(← a.asBool))
  | _, _ => throw (.arity op.id op.params.minLength args.length)

end ComparisonOp

end Xacml
