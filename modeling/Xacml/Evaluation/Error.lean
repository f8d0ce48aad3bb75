import Xacml.Decision
import Xacml.Function.Params
import Xacml.Value.Bag

/-!
# Evaluation errors

What can go wrong while an expression, a target or a policy is evaluated.

* `Failure` says why a function fails on arguments of the right types,
* `EvaluationError` is an error with optional advice; `EvaluationError.status` reports it.
-/

namespace Xacml

/-! ## Failures of functions -/

/-- Why a function fails on arguments of the right types. -/
inductive Failure
  | overflow
  | divisionByZero
  | modulusByZero
  | notInteger (x : Double)
  | outOfRange
  | beginIndex (index : Int)
  | endIndex (index : Int)
  | pattern (text : String)
  | negativeCount (count : Int)
  | tooFewArguments (needed given : Nat)
  | firstNotFunction
  | tooManyBags (count : Nat)
  | inputs (error : InputError)
  | member (error : BagError)
  deriving DecidableEq, Repr

def Failure.message : Failure → String
  | overflow => "integer overflow"
  | divisionByZero => "division by zero"
  | modulusByZero => "modulus by zero"
  | notInteger x =>
      let shown := String.ofList x.writePlain
      s!"{shown} cannot be represented as an integer"
  | outOfRange => "result is out of range"
  | beginIndex index => s!"begin index {index} is out of range"
  | endIndex index => s!"end index {index} is out of range"
  | pattern text => s!"invalid pattern `{text}`"
  | negativeCount count => s!"negative count {count}"
  | tooFewArguments needed given =>
      s!"needs {needed} true arguments but only {given} were given"
  | firstNotFunction => "the first argument must be a function"
  | tooManyBags count => s!"expected at most one bag argument, got {count}"
  | inputs error => error.message
  | member error => error.message

/-! ## Errors -/

/-- Why no decision could be prepared. -/
inductive ProcessingFault
  | multipleDecisionsDisabled
  | unknownRootAlgorithm (id : String)
  | notCombinable
  | other (text : String)
  deriving DecidableEq, Repr

def ProcessingFault.message : ProcessingFault → String
  | multipleDecisionsDisabled =>
      "multiple decision requests are disabled; an attribute category occurs more than once"
  | unknownRootAlgorithm id => s!"unknown root combining algorithm `{id}`"
  | notCombinable => "individual decisions differ or carry obligations; they cannot be combined"
  | other text => text

/-- What went wrong in an evaluation. -/
inductive EvaluationError.Cause
  | missing (detail : MissingAttribute)
  | type (expected : String) (actual : ValueType)
  | arity (function : String) (expected actual : Nat)
  | failed (function : String) (failure : Failure)
  | notSingleton (function : String) (size : Nat)
  | value (error : ValueError)
  | resolution (reason : String)
  | unresolved (reference : String)
  | depthExceeded (limit : Nat)
  | ambiguous
  | recursionLimit
  | unexpectedFunction (function : String)
  | malformed (reason : String)
  | processing (fault : ProcessingFault)
  deriving DecidableEq, Repr

/-- What went wrong in an evaluation, and advice on it. -/
structure EvaluationError where
  cause : EvaluationError.Cause
  advice : Option String
  deriving DecidableEq, Repr

namespace EvaluationError

def of (cause : Cause) : EvaluationError := ⟨cause, none⟩

def failed (function : String) (failure : Failure) : EvaluationError :=
  of (.failed function failure)

/-- A value of another type than the expected one. -/
def type (expected : String) (actual : ValueType) : EvaluationError :=
  of (.type expected actual)

/-- Arguments of another number than the expected one. -/
def arity (function : String) (expected actual : Nat) : EvaluationError :=
  of (.arity function expected actual)

def Cause.message : Cause → String
  | missing detail =>
      let shown := detail.text
      s!"missing required attribute {shown}"
  | type expected actual =>
      let actual := actual.text
      s!"type error: expected {expected}, got {actual}"
  | arity function expected actual =>
      s!"wrong number of arguments provided to `{function}`: expected {expected}, got {actual}"
  | failed function failure =>
      let reason := failure.message
      s!"error while evaluating `{function}`: {reason}"
  | notSingleton function size =>
      s!"`{function}` expects a bag of exactly one value, got {size}"
  | value error => error.message
  | resolution reason => s!"attribute resolution failed: {reason}"
  | unresolved reference => s!"unresolved policy reference `{reference}`"
  | depthExceeded limit => s!"policy references nest deeper than {limit} levels"
  | ambiguous => "more than one policy is applicable"
  | recursionLimit => "recursion limit reached"
  | unexpectedFunction function => s!"function `{function}` cannot be evaluated as a value"
  | malformed reason => s!"syntax error: {reason}"
  | processing fault =>
      let reason := fault.message
      s!"processing error: {reason}"

/-- The wording of an error, with its advice. -/
def message (error : EvaluationError) : String :=
  match error.advice with
  | some advice => error.cause.message ++ ". " ++ advice
  | none => error.cause.message

/-- The code of the status that reports a cause. -/
def Cause.code : Cause → StatusCode
  | missing _ => .missingAttribute
  | type _ _ | arity _ _ _ | unexpectedFunction _ | malformed _ => .syntaxError
  | _ => .processingError

/-- The missing attributes that a cause names. -/
def Cause.missingAttributes : Cause → List MissingAttribute
  | missing detail => [detail]
  | _ => []

def status (error : EvaluationError) : Status :=
  ⟨error.cause.code, some error.message, error.cause.missingAttributes⟩

end EvaluationError

end Xacml
