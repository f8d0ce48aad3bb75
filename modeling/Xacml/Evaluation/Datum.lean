import Xacml.Evaluation.Error

/-!
# Taking results apart

Each reader of a `Datum` gives what it holds, or a type error.
-/

namespace Xacml
namespace Datum

def asValue : Datum → Except EvaluationError Value
  | single value => .ok value
  | bag members => .error (.type "a single value" (.bag members.type))

def asBag : Datum → Except EvaluationError Bag
  | bag members => .ok members
  | single value => .error (.type "a bag" (.single value.type))

def asBool (datum : Datum) : Except EvaluationError Bool :=
  match datum with
  | single (.boolean b) => .ok b
  | datum => .error (.type "boolean" datum.type)

def asInteger (datum : Datum) : Except EvaluationError Int64 :=
  match datum with
  | single (.integer n) => .ok n
  | datum => .error (.type "integer" datum.type)

def asDouble (datum : Datum) : Except EvaluationError Double :=
  match datum with
  | single (.double x) => .ok x
  | datum => .error (.type "double" datum.type)

def asText (datum : Datum) : Except EvaluationError String :=
  match datum with
  | single (.string text) | single (.anyUri text) => .ok text
  | datum => .error (.type "string or anyURI" datum.type)

def asTime (datum : Datum) : Except EvaluationError Time :=
  match datum with
  | single (.time t) => .ok t
  | datum => .error (.type "time" datum.type)

end Datum
end Xacml
