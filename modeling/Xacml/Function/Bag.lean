import Xacml.Evaluation.Datum
import Xacml.Function.Names

/-!
# Functions on bags

* `BagOp` are the functions that take bags as multisets,
* `SetOp` are the functions that take bags as sets: their results hold no value twice.
-/

namespace Xacml

def DataType.bagTypes : List DataType :=
  DataType.all.filter fun type => type ≠ .xpathExpression

/-! ## Bags as multisets -/

/-- Functions on bags as multisets. -/
inductive BagOp
  | oneAndOnly
  | size
  | isIn
  | collect
  deriving DecidableEq, Repr

namespace BagOp

def all : List BagOp := [oneAndOnly, size, isIn, collect]

def name : BagOp → String
  | oneAndOnly => "one-and-only"
  | size => "bag-size"
  | isIn => "is-in"
  | collect => "bag"

/-- The identifier of the function for a data type. -/
def id (op : BagOp) (type : DataType) : String :=
  DataType.functionId type.bagEdition type op.name

/-- The parameters of the function for a data type. -/
def params (op : BagOp) (type : DataType) : Params :=
  match op with
  | oneAndOnly | size => .fixed [.bag type]
  | isIn => .fixed [.single type, .bag type]
  | collect => .variadic [] (.single type) 0

/-- The type of the result of the function for a data type. -/
def returns (op : BagOp) (type : DataType) : ValueType :=
  match op with
  | oneAndOnly => .single type
  | size => .single .integer
  | isIn => .boolean
  | collect => .bag type

def call (op : BagOp) (type : DataType) (args : List Datum) : Except EvaluationError Datum :=
  match op, args with
  | oneAndOnly, [a] => do
      let members ← a.asBag
      match members.single? with
      | some value => return .single value
      | none => throw (.of (.notSingleton (op.id type) members.size))
  | size, [a] => do return .single (.integer (.ofInt (← a.asBag).size))
  | isIn, [a, b] => do
      let value ← a.asValue
      let members ← b.asBag
      return .ofBool (members.contains value)
  | collect, args => do
      match Bag.ofList type (← args.mapM Datum.asValue) with
      | .ok members => return .bag members
      | .error error => throw (.failed (op.id type) (.member error))
  | _, _ => throw (.arity (op.id type) (op.params type).minLength args.length)

end BagOp

/-! ## Bags as sets -/

inductive SetOp
  | intersection
  | overlaps
  | union
  | subset
  | equals
  deriving DecidableEq, Repr

namespace SetOp

def all : List SetOp := [intersection, overlaps, union, subset, equals]

def name : SetOp → String
  | intersection => "intersection"
  | overlaps => "at-least-one-member-of"
  | union => "union"
  | subset => "subset"
  | equals => "set-equals"

/-- The identifier of the function for a data type. -/
def id (op : SetOp) (type : DataType) : String :=
  DataType.functionId type.bagEdition type op.name

/-- The parameters of the function for a data type. -/
def params (op : SetOp) (type : DataType) : Params :=
  match op with
  | union => .variadic [] (.bag type) 2
  | _ => .fixed [.bag type, .bag type]

/-- The type of the result of the function for a data type. -/
def returns (op : SetOp) (type : DataType) : ValueType :=
  match op with
  | intersection | union => .bag type
  | _ => .boolean

end SetOp

namespace Bag

/-- Whether every member of `a` is a member of `b`. -/
def isSubset (a b : Bag) : Bool :=
  a.members.all b.contains

/-- Whether the bags have a member in common. -/
def overlaps (a b : Bag) : Bool :=
  a.members.any b.contains

/-- The distinct members of `a` that are members of `b`. -/
def common (a b : Bag) : List Value :=
  a.distinct.filter b.contains

def distinctAll (bags : List Bag) : List Value :=
  distinctOf (bags.flatMap Bag.members)

end Bag

def SetOp.call (op : SetOp) (type : DataType) (args : List Datum) :
    Except EvaluationError Datum := do
  let bags ← args.mapM Datum.asBag
  let collect (members : List Value) : Except EvaluationError Datum :=
    match Bag.ofList type members with
    | .ok members => .ok (.bag members)
    | .error error => .error (.failed (op.id type) (.member error))
  match op, bags with
  | .intersection, [a, b] => collect (a.common b)
  | .overlaps, [a, b] => return .ofBool (a.overlaps b)
  | .union, bags => collect (Bag.distinctAll bags)
  | .subset, [a, b] => return .ofBool (a.isSubset b)
  | .equals, [a, b] => return .ofBool (a.isSubset b && b.isSubset a)
  | _, _ => throw (.arity (op.id type) (op.params type).minLength args.length)

end Xacml
