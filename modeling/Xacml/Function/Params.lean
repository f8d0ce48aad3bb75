import Xacml.Text.Numeral
import Xacml.DataType

/-!
# Parameters

* `Params` declares the parameters of a function: fixed ones, or fixed ones followed by any number
  of one type,
* `InputError` says why arguments do not fit.
-/

namespace Xacml

/-! ## Declarations -/

inductive Params
  | fixed (types : List ValueType)
  | variadic (leading : List ValueType) (rest : ValueType) (least : Nat)
  deriving DecidableEq, Repr

namespace Params

def minLength : Params → Nat
  | fixed types => types.length
  | variadic leading _ least => leading.length + least

def accepts : Params → Nat → Bool
  | fixed types, n => types.length == n
  | variadic leading _ least, n => leading.length + least ≤ n

def type? : Params → Nat → Option ValueType
  | fixed types, index => types[index]?
  | variadic leading rest _, index => some (leading[index]?.getD rest)

def text : Params → String
  | fixed types => "(" ++ String.intercalate ", " (types.map ValueType.text) ++ ")"
  | variadic leading rest least =>
      let shown := leading.map ValueType.text ++ List.replicate least rest.text
      "(" ++ String.intercalate ", " shown ++ ", " ++ rest.text ++ "...)"

end Params

/-! ## Errors -/

/-- Why a function does not take its arguments.  Arguments are counted from zero. -/
inductive InputError
  | wrongArity (function expected : String) (actual : Nat)
  | typeMismatch (function : String) (index : Nat) (expected actual : ValueType)
  | expectedFunction (function : String)
  | unexpectedFunction (function argument : String) (index : Nat)
  | tooManyBags (function : String) (count : Nat)
  | expectedBag (function : String) (index : Nat)
  | notBoolean (function argument : String) (returns : ValueType)
  | higherOrderArgument (function argument : String)
  deriving DecidableEq, Repr

def InputError.message : InputError → String
  | wrongArity function expected actual =>
      s!"`{function}` expects arguments {expected}, got {actual}"
  | typeMismatch function index expected actual =>
      let expected := expected.text
      let actual := actual.text
      s!"argument {index} of `{function}` must be {expected}, got {actual}"
  | expectedFunction function => s!"the first argument of `{function}` must be a function"
  | unexpectedFunction function argument index =>
      s!"argument {index} of `{function}` is the function `{argument}`, but a value is needed"
  | tooManyBags function count =>
      s!"`{function}` accepts at most one bag argument, got {count}"
  | expectedBag function index => s!"argument {index} of `{function}` must be a bag"
  | notBoolean function argument returns =>
      let returns := returns.text
      s!"`{function}` needs a function returning boolean, but `{argument}` returns {returns}"
  | higherOrderArgument function argument =>
      s!"`{function}` cannot take the higher-order function `{argument}` as an argument"

end Xacml
