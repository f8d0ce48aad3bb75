import Xacml.Attribute.Facade
import Xacml.Evaluation.Stack
import Xacml.Expr.Basic

/-!
# Evaluating expressions

* `Function.applyTo` applies a function to arguments that have not been evaluated yet,
* `Expr.evaluate` evaluates an expression; a variable is evaluated wherever it is referred to.
-/

namespace Xacml

section

variable {m : Type → Type} [Monad m]

/-! ## Applications -/

/-- Evaluates arguments from left to right, up to the first error. -/
def evaluateAll : List (Lazy m) → m (Except EvaluationError (List Datum))
  | [] => pure (.ok [])
  | arg :: rest => do
      match ← arg () with
      | .error error => pure (.error error)
      | .ok value =>
          match ← evaluateAll rest with
          | .error error => pure (.error error)
          | .ok values => pure (.ok (value :: values))

/-- Applies a function to arguments.  `first` is the function that the first argument is, if it is
one; only functions of higher order look at it. -/
def Function.applyTo (f : Function) (first : Option Function) (args : List (Lazy m)) :
    m (Except EvaluationError Datum) :=
  match f.operation, first with
  | .strict _, _ => do return (← evaluateAll args).bind f.call
  | .logical op, _ => op.fold f.id args
  | .higherOrder op _, some g => do
      return (← evaluateAll (args.drop 1)).bind (op.apply f.id g)
  | .higherOrder _ _, none => pure (.error (.failed f.id .firstNotFunction))

/-! ## Expressions -/

namespace Expr

mutual

def evaluate (facade : Facade m) (stack : Stack) (e : Expr) : m (Except EvaluationError Datum) :=
  if stack.isLow then pure (.error .recursionLimit)
  else
    match e with
    | value v => pure (.ok (.single v))
    | designator d => do return (← facade.designate d).map .bag
    | selector s => do return (← facade.choose s).map .bag
    | apply f args _ =>
        f.applyTo (args.head?.bind function?) (evaluations facade (stack.enter .argument) args)
    | function f => pure (.error (.of (.unexpectedFunction f.id)))
    | reference _ definition => evaluate facade (stack.enter .definition) definition

/-- The evaluations of several expressions, none of them begun. -/
def evaluations (facade : Facade m) (stack : Stack) : List Expr → List (Lazy m)
  | [] => []
  | e :: rest => (fun _ => evaluate facade stack e) :: evaluations facade stack rest

end

theorem evaluate_of_isLow (facade : Facade m) {stack : Stack} (hlow : stack.isLow = true)
    (e : Expr) : e.evaluate facade stack = pure (.error .recursionLimit) := by
  rw [evaluate.eq_def, if_pos hlow]

theorem evaluate_apply (facade : Facade m) {stack : Stack} (hroom : stack.isLow = false)
    (f : Function) (args : List Expr) (returns : ValueType) :
    (apply f args returns).evaluate facade stack =
      f.applyTo (args.head?.bind function?) (evaluations facade (stack.enter .argument) args) := by
  rw [evaluate, if_neg (by simp [hroom])]

theorem evaluations_eq_map (facade : Facade m) (stack : Stack) (list : List Expr) :
    evaluations facade stack list = list.map fun e _ => evaluate facade stack e := by
  induction list with
  | nil => simp [evaluations]
  | cons e rest ih => simp [evaluations, ih]

end Expr

end

end Xacml
