import Xacml.Function.Arithmetic
import Xacml.Function.Bag
import Xacml.Function.Comparison
import Xacml.Function.Conversion
import Xacml.Function.Logical
import Xacml.Function.Matching
import Xacml.Function.Text

/-!
# Functions

* `StrictOp` are the functions whose arguments are all evaluated first,
* `HigherOrderOp` are the functions whose first argument is a function,
* `Function` is a function under an identifier,
* `Function.call` calls a function on values.
-/

namespace Xacml

/-! ## Strict functions -/

/-- Functions whose arguments are all evaluated first. -/
inductive StrictOp
  | integer (op : IntegerOp)
  | double (op : DoubleOp)
  | shift (op : ShiftOp)
  | text (op : TextOp)
  | conversion (op : ConversionOp)
  | comparison (op : ComparisonOp)
  | bag (op : BagOp) (type : DataType)
  | set (op : SetOp) (type : DataType)
  | matching (op : MatchOp)
  deriving DecidableEq, Repr

namespace StrictOp

/-- The identifier that the specification gives a function. -/
def id : StrictOp → String
  | integer op => op.id
  | double op => op.id
  | shift op => op.id
  | text op => op.id
  | conversion op => op.id
  | comparison op => op.id
  | bag op type => op.id type
  | set op type => op.id type
  | matching op => op.id

def params : StrictOp → Params
  | integer op => op.params
  | double op => op.params
  | shift op => op.params
  | text op => op.params
  | conversion op => .fixed [.single op.source]
  | comparison op => op.params
  | bag op type => op.params type
  | set op type => op.params type
  | matching op => op.params

def returns : StrictOp → ValueType
  | integer _ => .single .integer
  | double _ => .single .double
  | shift op => .single op.subject
  | text op => op.returns
  | conversion op => .single op.target
  | comparison _ | matching _ => .boolean
  | bag op type => op.returns type
  | set op type => op.returns type

def call : StrictOp → List Datum → Except EvaluationError Datum
  | integer op, args => op.call args
  | double op, args => op.call args
  | shift op, args => op.call args
  | text op, args => op.call args
  | conversion op, args => op.call args
  | comparison op, args => op.call args
  | bag op type, args => op.call type args
  | set op type, args => op.call type args
  | matching op, args => op.call args

end StrictOp

/-! ## Functions -/

/-- Functions whose first argument is a function. -/
inductive HigherOrderOp
  | anyOf
  | allOf
  | anyOfAny
  | allOfAny
  | anyOfAll
  | allOfAll
  | map
  deriving DecidableEq, Repr

/-- What a function does.  The earlier form of a higher-order function takes a fixed number of
arguments. -/
inductive Operation
  | strict (op : StrictOp)
  | logical (op : LogicalOp)
  | higherOrder (op : HigherOrderOp) (legacy : Bool)
  deriving DecidableEq, Repr

/-- A function under an identifier. -/
structure Function where
  id : String
  operation : Operation
  deriving DecidableEq, Repr

/-- The type of an argument: that of its value, or the function that it is. -/
inductive ArgType
  | value (type : ValueType)
  | function (f : Function)
  deriving DecidableEq, Repr

namespace Function

/-- A strict function under its own identifier. -/
def ofStrict (op : StrictOp) : Function := ⟨op.id, .strict op⟩

def ofLogical (op : LogicalOp) : Function := ⟨op.id, .logical op⟩

/-- The same function under another identifier. -/
def renamed (f : Function) (id : String) : Function := { f with id }

/-- Whether the first argument is a function. -/
def isHigherOrder (f : Function) : Bool :=
  match f.operation with
  | .higherOrder _ _ => true
  | _ => false

/-- The parameters, unless the function is of higher order. -/
def params? (f : Function) : Option Params :=
  match f.operation with
  | .strict op => some op.params
  | .logical op => some op.params
  | .higherOrder _ _ => none

def text (f : Function) : String :=
  let id := f.id
  s!"<function {id}>"

/-! ## Arguments -/

/-- Checks the type of an argument against the declared one. -/
def checkArg (f : Function) (params : Params) (index : Nat) : ArgType → Except InputError Unit
  | .function g => .error (.unexpectedFunction f.id g.id index)
  | .value actual =>
      match params.type? index with
      | some expected =>
          if actual = expected then .ok () else .error (.typeMismatch f.id index expected actual)
      | none => .ok ()

/-- Checks the types of the arguments from an index on. -/
def checkArgsFrom (f : Function) (params : Params) : Nat → List ArgType → Except InputError Unit
  | _, [] => .ok ()
  | index, arg :: rest => do
      f.checkArg params index arg
      f.checkArgsFrom params (index + 1) rest

/-- Checks the number and the types of the arguments. -/
def checkArgs (f : Function) (params : Params) (args : List ArgType) : Except InputError Unit :=
  if params.accepts args.length then f.checkArgsFrom params 0 args
  else .error (.wrongArity f.id params.text args.length)

/-- The type of the result for arguments of given types.  A function of higher order is refused
here. -/
def checkPlain (f : Function) (args : List ArgType) : Except InputError ValueType :=
  match f.operation with
  | .strict op => do
      f.checkArgs op.params args
      return op.returns
  | .logical op => do
      f.checkArgs op.params args
      return .boolean
  | .higherOrder _ _ => .error (.higherOrderArgument f.id f.id)

/-! ## Calls -/

/-- Checks the types of values from an index on. -/
def checkValuesFrom (params : Params) : Nat → List Datum → Except EvaluationError Unit
  | _, [] => .ok ()
  | index, arg :: rest =>
      match params.type? index with
      | some expected =>
          if arg.type = expected then checkValuesFrom params (index + 1) rest
          else .error (.type expected.text arg.type)
      | none => checkValuesFrom params (index + 1) rest

/-- Checks the number and the types of values. -/
def checkValues (f : Function) (params : Params) (args : List Datum) :
    Except EvaluationError Unit :=
  if params.accepts args.length then checkValuesFrom params 0 args
  else .error (.arity f.id params.minLength args.length)

/-- Calls a function on values.  A function of higher order cannot be called so. -/
def call (f : Function) (args : List Datum) : Except EvaluationError Datum :=
  match f.operation with
  | .strict op => do
      f.checkValues op.params args
      op.call args
  | .logical op => do
      f.checkValues op.params args
      Id.run (op.fold f.id (args.map Lazy.known))
  | .higherOrder _ _ => .error (.of (.unexpectedFunction f.id))

end Function

end Xacml
