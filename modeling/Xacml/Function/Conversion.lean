import Xacml.Evaluation.Datum
import Xacml.Function.Names

/-!
# Conversions

`ConversionOp` are the functions between numbers, and between texts and values of the other types.
-/

namespace Xacml

/-- Functions that convert values. -/
inductive ConversionOp
  | doubleToInteger
  | integerToDouble
  | fromString (type : DataType)
  | stringFrom (type : DataType)
  deriving DecidableEq, Repr

namespace ConversionOp

/-- The data types that can be converted to and from strings. -/
def types : List DataType :=
  DataType.all.filter fun type => type ≠ .string && type ≠ .xpathExpression

def all : List ConversionOp :=
  [doubleToInteger, integerToDouble] ++ types.flatMap fun type => [fromString type, stringFrom type]

def id : ConversionOp → String
  | doubleToInteger => DataType.functionId .first .double "to-integer"
  | integerToDouble => DataType.functionId .first .integer "to-double"
  | fromString type => DataType.functionId .third type "from-string"
  | stringFrom type => DataType.functionId .third .string ("from-" ++ type.name)

def source : ConversionOp → DataType
  | doubleToInteger => .double
  | integerToDouble => .integer
  | fromString _ => .string
  | stringFrom type => type

def target : ConversionOp → DataType
  | doubleToInteger => .integer
  | integerToDouble => .double
  | fromString type => type
  | stringFrom _ => .string

/-- The integer part of a double, if 64 bits hold it. -/
def truncate (x : Double) : Except Failure Int64 :=
  match x.toInt?.bind Integer.checked with
  | some n => .ok n
  | none => .error (.notInteger x)

def convert (op : ConversionOp) (datum : Datum) : Except EvaluationError Value :=
  match op with
  | doubleToInteger => do
      match truncate (← datum.asDouble) with
      | .ok n => return .integer n
      | .error failure => throw (.failed op.id failure)
  | integerToDouble => do return .double (.ofInt (← datum.asInteger).toInt)
  | fromString type => do
      match Value.read type (← datum.asText) with
      | .ok value => return value
      | .error error => throw (.of (.value error))
  | stringFrom _ => do return .string (← datum.asValue).text

def call (op : ConversionOp) (args : List Datum) : Except EvaluationError Datum :=
  match args with
  | [datum] => (op.convert datum).map .single
  | args => .error (.arity op.id 1 args.length)

end ConversionOp

end Xacml
