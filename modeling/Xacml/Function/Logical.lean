import Xacml.Evaluation.Datum
import Xacml.Function.Names

/-!
# Logical connectives

`and`, `or` and `n-of` evaluate their arguments one by one, and only while an argument can still
change the result.  An argument that fails is remembered; its error is the result only if no
later argument decides.

* `Lazy m` is an argument whose evaluation waits, and may have effects of a monad `m`,
* `LogicalOp.fold` evaluates a connective.
-/

namespace Xacml

/-! ## Arguments -/

/-- An argument that has not been evaluated yet.  It is evaluated whenever it is asked for. -/
abbrev Lazy (m : Type → Type) : Type := Unit → m (Except EvaluationError Datum)

def Lazy.known {m : Type → Type} [Monad m] (datum : Datum) : Lazy m :=
  fun _ => pure (.ok datum)

def Lazy.truth {m : Type → Type} [Monad m] (arg : Lazy m) : m (Except EvaluationError Bool) := do
  return (← arg ()).bind Datum.asBool

/-! ## Connectives -/

inductive LogicalOp
  | and
  | or
  | nOf
  deriving DecidableEq, Repr

namespace LogicalOp

def all : List LogicalOp := [and, or, nOf]

def id : LogicalOp → String
  | and => Edition.first.base ++ "and"
  | or => Edition.first.base ++ "or"
  | nOf => Edition.first.base ++ "n-of"

def params : LogicalOp → Params
  | and | or => .variadic [] .boolean 0
  | nOf => .variadic [.single .integer] .boolean 0

/-- The first error if there is one, else the truth value. -/
def conclude (error : Option EvaluationError) (b : Bool) : Except EvaluationError Datum :=
  match error with
  | some error => .error error
  | none => .ok (.ofBool b)

section

variable {m : Type → Type} [Monad m]

/-- Evaluates arguments up to the first one with the deciding truth value. -/
def shortCircuit (deciding : Bool) (error : Option EvaluationError) :
    List (Lazy m) → m (Except EvaluationError Datum)
  | [] => pure (conclude error !deciding)
  | arg :: rest => do
      match ← arg.truth with
      | .ok b =>
          if b = deciding then pure (.ok (.ofBool deciding)) else shortCircuit deciding error rest
      | .error e => shortCircuit deciding (error.or (some e)) rest

/-- Evaluates arguments until enough of them are true, or too few are left even if every argument
that failed counts as true. -/
def countTrue (needed trues errors : Nat) (error : Option EvaluationError) :
    List (Lazy m) → m (Except EvaluationError Datum)
  | [] => pure (if needed ≤ trues then .ok (.ofBool true) else conclude error false)
  | arg :: rest => do
      -- The remaining arguments are looked at only while both outcomes are possible.
      if trues = needed then pure (.ok (.ofBool true))
      else if trues + errors + (rest.length + 1) < needed then pure (conclude error false)
      else
        match ← arg.truth with
        | .ok true => countTrue needed (trues + 1) errors error rest
        | .ok false => countTrue needed trues errors error rest
        | .error e => countTrue needed trues (errors + 1) (error.or (some e)) rest

/-- Evaluates a connective.  `function` is the identifier it is applied under. -/
def fold (op : LogicalOp) (function : String) (args : List (Lazy m)) :
    m (Except EvaluationError Datum) :=
  match op with
  | and => shortCircuit false none args
  | or => shortCircuit true none args
  | nOf =>
      match args with
      | [] => pure (.error (.arity function 1 0))
      | count :: rest => do
          match (← count ()).bind Datum.asInteger with
          | .error error => pure (.error error)
          | .ok n =>
              if n.toInt < 0 then pure (.error (.failed function (.negativeCount n.toInt)))
              else if rest.length < n.toInt.toNat then
                pure (.error (.failed function (.tooFewArguments n.toInt.toNat rest.length)))
              else countTrue n.toInt.toNat 0 0 none rest

end

end LogicalOp

end Xacml
