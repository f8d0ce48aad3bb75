import Xacml.Evaluation.Error

/-!
# The stack

The evaluations of expressions and of policies call each other, and what a call takes of the stack
of the machine is not free before it ends.  Each of them begins by asking whether enough is left.

* `Call` are the ways in which one evaluation leads to another,
* `Stack` is what is left, together with what the calls take,
* `Stack.isLow` tells that too little is left for another evaluation.
-/

namespace Xacml

/-- How one evaluation leads to another: from an application to its arguments, from a variable to
its definition, from a policy to a rule, from there to the condition, from a rule or a policy to the
values of an obligation, from a policy set to a child, and from a reference to what it stands
for. -/
inductive Call
  | argument
  | definition
  | rule
  | condition
  | assignment
  | child
  | resolution
  deriving DecidableEq, Repr

/-- What is left of the stack, in octets, and how much of it the frames of a call take.  The size of
the frames is up to the machine, and the same wherever a call is made. -/
structure Stack where
  left : Nat
  frame : Call → Nat

namespace Stack

/-- What has to be left for an evaluation. -/
def required : Nat := 100 * 1024

/-- The stack of a main thread, with no frame larger than a page. -/
def main : Stack := ⟨8 * 1024 * 1024, fun _ => 4096⟩

/-- Whether too little is left for an evaluation. -/
def isLow (stack : Stack) : Bool :=
  stack.left < required

/-- The stack inside a call. -/
def enter (stack : Stack) (call : Call) : Stack :=
  { stack with left := stack.left - stack.frame call }

theorem isLow_enter {stack : Stack} (h : stack.isLow = true) (call : Call) :
    (stack.enter call).isLow = true :=
  decide_eq_true (Nat.lt_of_le_of_lt (Nat.sub_le _ _) (of_decide_eq_true h))

/-- What a call finds is never more than what there was before it. -/
theorem isLow_of_enter {stack : Stack} {call : Call} (h : (stack.enter call).isLow = false) :
    stack.isLow = false :=
  Bool.eq_false_iff.2 fun hlow => Bool.eq_false_iff.1 h (isLow_enter hlow call)

end Stack

/-- The error where too little is left of the stack. -/
def EvaluationError.recursionLimit : EvaluationError := .of .recursionLimit

end Xacml
