import Xacml.Choices
import Xacml.Function.Basic

/-!
# Functions of higher order

The first argument is a function; it is called on members of the bags among the other arguments.

* `Shape` says how the arguments after the function have to look,
* `Function.checkInputs` gives the type of the result of any function,
* `HigherOrderOp.apply` applies a function of higher order.
-/

namespace Xacml

/-! ## Shapes -/

/-- How the arguments after the function have to look: any number of which one may be a bag, any
number of bags, or a fixed sequence of values and bags. -/
inductive Shape
  | oneBag
  | allBags
  | exactly (bags : List Bool)
  deriving DecidableEq, Repr

def Shape.text : Shape → String
  | oneBag => "(function, value or bag...)"
  | allBags => "(function, bag...)"
  | exactly bags =>
      let rest := bags.map fun bag => if bag then "bag" else "value"
      "(function, " ++ String.intercalate ", " rest ++ ")"

namespace HigherOrderOp

/-- The shape of the arguments of a function. -/
def shape : HigherOrderOp → Bool → Shape
  | anyOf, true | allOf, true => .exactly [false, true]
  | map, true => .exactly [true]
  | anyOf, false | allOf, false | map, false => .oneBag
  | anyOfAny, false => .allBags
  | _, _ => .exactly [true, true]

def name : HigherOrderOp → String
  | anyOf => "any-of"
  | allOf => "all-of"
  | anyOfAny => "any-of-any"
  | allOfAny => "all-of-any"
  | anyOfAll => "any-of-all"
  | allOfAll => "all-of-all"
  | map => "map"

end HigherOrderOp

/-! ## Input checks -/

def bagCount (types : List ValueType) : Nat :=
  types.countP ValueType.isBag

namespace Shape

/-- The index of the first value where a bag has to stand. -/
def missingBag? (bags : List Bool) (types : List ValueType) : Option Nat :=
  (bags.zip types).findIdx? fun (bag, type) => bag && !type.isBag

/-- The index and type of the first bag where a value has to stand. -/
def strayBag? (bags : List Bool) (types : List ValueType) : Option (Nat × ValueType) :=
  match (bags.zip types).findIdx? fun (bag, type) => !bag && type.isBag with
  | some index => types[index]?.map fun type => (index, type)
  | none => none

/-- Checks the types of the arguments after the function; `total` is the number of all
arguments. -/
def check (shape : Shape) (function : String) (total : Nat) (types : List ValueType) :
    Except InputError Unit :=
  match shape with
  | oneBag =>
      if 1 < bagCount types then .error (.tooManyBags function (bagCount types)) else .ok ()
  | allBags =>
      match types.findIdx? fun type => !type.isBag with
      | some index => .error (.expectedBag function (index + 1))
      | none => .ok ()
  | exactly bags =>
      if types.length ≠ bags.length then .error (.wrongArity function shape.text total)
      else if bags.count true = 1 ∧ 1 < bagCount types then
        .error (.tooManyBags function (bagCount types))
      else
        match missingBag? bags types, strayBag? bags types with
        | some index, _ => .error (.expectedBag function (index + 1))
        | none, some (index, type) =>
            .error (.typeMismatch function (index + 1) (.single type.data) type)
        | none, none => .ok ()

end Shape

/-- The types of values; a function among them is an error.  Arguments are counted from an
index. -/
def valueTypesFrom (function : String) : Nat → List ArgType → Except InputError (List ValueType)
  | _, [] => .ok []
  | index, .function g :: _ => .error (.unexpectedFunction function g.id index)
  | index, .value type :: rest => do
      let types ← valueTypesFrom function (index + 1) rest
      return type :: types

/-- The type of one member, for each of the types. -/
def memberTypes (types : List ValueType) : List ArgType :=
  types.map fun type => .value (.single type.data)

namespace HigherOrderOp

/-- The type of the result, where `g` gives results of type `returns`. -/
def resultType (op : HigherOrderOp) (function : String) (g : Function) (returns : ValueType) :
    Except InputError ValueType :=
  match op, returns with
  | map, .bag type => .error (.typeMismatch function 0 (.single type) returns)
  | map, .single type => .ok (.bag type)
  | _, _ =>
      if returns = .boolean then .ok .boolean else .error (.notBoolean function g.id returns)

/-- The type of the result for arguments of given types. -/
def checkInputs (op : HigherOrderOp) (legacy : Bool) (function : String) (args : List ArgType) :
    Except InputError ValueType :=
  let shape := op.shape legacy
  match args with
  | [] => .error (.wrongArity function shape.text 0)
  | .value _ :: _ => .error (.expectedFunction function)
  | .function g :: rest =>
      if g.isHigherOrder then .error (.higherOrderArgument function g.id)
      else do
        let types ← valueTypesFrom function 1 rest
        if types.isEmpty then throw (.wrongArity function shape.text args.length)
        shape.check function args.length types
        let returns ← g.checkPlain (memberTypes types)
        op.resultType function g returns

end HigherOrderOp

/-- The type of the result of a function for arguments of given types. -/
def Function.checkInputs (f : Function) (args : List ArgType) : Except InputError ValueType :=
  match f.operation with
  | .higherOrder op legacy => op.checkInputs legacy f.id args
  | _ => f.checkPlain args

/-! ## Application -/

def Function.holds (g : Function) (args : List Datum) : Except EvaluationError Bool :=
  (g.call args).bind Datum.asBool

/-- Whether some item satisfies a condition; the first failure ends the search. -/
def anyItem {α : Type} (p : α → Except EvaluationError Bool) :
    List α → Except EvaluationError Bool
  | [] => .ok false
  | item :: rest => do if ← p item then return true else anyItem p rest

/-- Whether every item satisfies a condition; the first failure ends the search. -/
def allItems {α : Type} (p : α → Except EvaluationError Bool) :
    List α → Except EvaluationError Bool
  | [] => .ok true
  | item :: rest => do if ← p item then allItems p rest else return false

/-- The members that an argument stands for: those of a bag, or the one value. -/
def Datum.members : Datum → List Datum
  | .bag b => b.members.map .single
  | value => [value]

def Datum.isBag (datum : Datum) : Bool :=
  datum.type.isBag

/-- The argument lists for a function that ranges over the only bag among the arguments. -/
def eachMember (function : String) (args : List Datum) :
    Except EvaluationError (List (List Datum)) :=
  let count := args.countP Datum.isBag
  if 1 < count then .error (.failed function (.tooManyBags count))
  else .ok (choices (args.map Datum.members))

def twoBags (function : String) (args : List Datum) :
    Except EvaluationError (List Value × List Value) :=
  match args with
  | [a, b] => do
      let xs ← a.asBag
      let ys ← b.asBag
      return (xs.members, ys.members)
  | _ => .error (.arity function 3 (args.length + 1))

namespace HigherOrderOp

/-- The bag of the results of a function on argument lists. -/
def mapResults (function : String) (g : Function) (args : List Datum) :
    Except EvaluationError Datum := do
  match g.checkPlain (memberTypes (args.map Datum.type)) with
  | .error error => throw (.failed function (.inputs error))
  | .ok returns =>
      let calls ← eachMember function args
      let values ← calls.mapM fun call => (g.call call).bind Datum.asValue
      match Bag.ofList returns.data values with
      | .ok members => return .bag members
      | .error error => throw (.failed function (.member error))

/-- Applies a quantifier to pairs of members: the first one ranges over the first bag, the second
one over the second bag. -/
def pairwise (function : String) (g : Function) (args : List Datum)
    (outer inner : (Value → Except EvaluationError Bool) → List Value →
      Except EvaluationError Bool) : Except EvaluationError Bool := do
  let (xs, ys) ← twoBags function args
  outer (fun x => inner (fun y => g.holds [.single x, .single y]) ys) xs

/-- Applies a function of higher order, under an identifier, to the function `g` and the values of
the other arguments. -/
def apply (op : HigherOrderOp) (function : String) (g : Function) (args : List Datum) :
    Except EvaluationError Datum :=
  match op with
  | map => mapResults function g args
  | anyOf => do
      let calls ← eachMember function args
      return .ofBool (← anyItem g.holds calls)
  | allOf => do
      let calls ← eachMember function args
      return .ofBool (← allItems g.holds calls)
  | anyOfAny => do
      let bags ← args.mapM Datum.asBag
      let calls := choices (bags.map fun bag => bag.members.map Datum.single)
      return .ofBool (← anyItem g.holds calls)
  | allOfAny => do return .ofBool (← pairwise function g args allItems anyItem)
  | anyOfAll => do return .ofBool (← pairwise function g args anyItem allItems)
  | allOfAll => do return .ofBool (← pairwise function g args allItems allItems)

end HigherOrderOp

end Xacml
