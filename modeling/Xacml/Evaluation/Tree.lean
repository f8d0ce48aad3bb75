import Xacml.Evaluation.Rule
import Xacml.Policy.Source

/-!
# Evaluating policy trees

* `PolicyTree.evaluateWith` evaluates a tree, given how references are followed,
* `Evaluation.follow` follows references up to a limit on how many are open at once,
* `Evaluation.evaluate` and `Evaluation.combineRoots` put the two together.
-/

namespace Xacml

section

variable {m : Type → Type} [Monad m]

/-! ## Targets of policies -/

/-- The result under a target that could not be matched: a Permit or a Deny might have been that
decision, or the policy might not have been applicable. -/
def underError (error : EvaluationError) (result : Result) : Result :=
  match result.decision with
  | .permit => .ofError .permit error
  | .deny => .ofError .deny error
  | _ => result.withoutObligations

/-- Combines children under a target.  In earlier editions they are not looked at if the target
could not be matched. -/
def underTarget (facade : Facade m) (target : Target) (schema : SchemaVersion)
    (combine : Unit → m Result) : m Result := do
  match ← target.evaluate facade with
  | .holds _ => combine ()
  | .fails => pure .notApplicable
  | .indeterminate error =>
      -- Only the current edition asks what the children would have come to.
      if schema.isLegacy then pure (.ofError .either error)
      else return underError error (← combine ())

/-- Adds the obligations and advice of a policy, and names it as applicable unless it is not. -/
def conclude (facade : Facade m) (stack : Stack) (kind : PolicyKind) (header : PolicyHeader)
    (result : Result) : m Result := do
  let result ← attachObligations facade stack header.obligations header.advice result
  if result.decision = .notApplicable then pure result
  else
    pure
      { result with identifiers := result.identifiers ++ [⟨kind, header.id, header.version⟩] }

/-- Evaluates a policy or a policy set with given children. -/
def evaluateNode (facade : Facade m) (stack : Stack) (kind : PolicyKind) (header : PolicyHeader)
    (children : List (Candidate m)) : m Result := do
  conclude facade stack kind header
    (← underTarget facade header.target header.schema fun _ =>
      header.algorithm.method.combine children)

def Policy.evaluate (facade : Facade m) (stack : Stack) (policy : Policy) : m Result :=
  evaluateNode facade stack .policy policy.header
    (policy.rules.map fun child => child.element.candidate facade (stack.enter .rule))

/-! ## Trees -/

/-- How references are followed: to evaluate what they stand for, or to match its target alone. -/
structure Following (m : Type → Type) where
  evaluate : Stack → PolicyReference → m Result
  applies : PolicyReference → m (Except EvaluationError Bool)

namespace PolicyTree

def appliesWith (facade : Facade m) (following : Following m) :
    PolicyTree → m (Except EvaluationError Bool)
  | policy p => do return (← p.header.target.evaluate facade).applies
  | policySet header _ => do return (← header.target.evaluate facade).applies
  | reference target => following.applies target

mutual

def evaluateWith (facade : Facade m) (following : Following m) (stack : Stack)
    (tree : PolicyTree) : m Result :=
  if stack.isLow then pure (.ofError .either .recursionLimit)
  else
    match tree with
    | policy p => p.evaluate facade stack
    | policySet header children =>
        evaluateNode facade stack .policySet header
          (candidatesWith facade following (stack.enter .child) children)
    | reference target => following.evaluate stack target

/-- The children of a policy set, to be combined. -/
def candidatesWith (facade : Facade m) (following : Following m) (stack : Stack) :
    List (Child PolicyTree) → List (Candidate m)
  | [] => []
  | ⟨tree, _⟩ :: rest =>
      { evaluate := fun _ => evaluateWith facade following stack tree
        applies := fun _ => appliesWith facade following tree
        effect := none } ::
        candidatesWith facade following stack rest

end

theorem evaluateWith_of_isLow (facade : Facade m) (following : Following m) {stack : Stack}
    (hlow : stack.isLow = true) (tree : PolicyTree) :
    tree.evaluateWith facade following stack = pure (.ofError .either .recursionLimit) := by
  rw [evaluateWith.eq_def, if_pos hlow]

end PolicyTree

/-! ## References -/

/-- What a request is evaluated against. -/
structure Evaluation (m : Type → Type) where
  facade : Facade m
  source : PolicySource
  maxDepth : Nat
  stack : Stack

def PolicySource.resolve (source : PolicySource) (reference : PolicyReference) :
    Except EvaluationError PolicyTree :=
  match source.find reference with
  | .error error => .error error
  | .ok (some tree) => .ok tree
  | .ok none => .error (.of (.unresolved reference.text))

namespace Evaluation

/-- How references are followed when as many as given may still be opened. -/
def follow (evaluation : Evaluation m) : Nat → Following m
  | 0 =>
      let error : EvaluationError := .of (.depthExceeded evaluation.maxDepth)
      ⟨fun _ _ => pure (.ofError .either error), fun _ => pure (.error error)⟩
  | left + 1 =>
      { evaluate := fun stack reference =>
          match evaluation.source.resolve reference with
          | .error error => pure (.ofError .either error)
          | .ok tree =>
              tree.evaluateWith evaluation.facade (evaluation.follow left)
                (stack.enter .resolution)
        applies := fun reference =>
          match evaluation.source.resolve reference with
          | .error error => pure (.error error)
          | .ok tree => tree.appliesWith evaluation.facade (evaluation.follow left) }

def evaluate (evaluation : Evaluation m) (tree : PolicyTree) : m Result :=
  tree.evaluateWith evaluation.facade (evaluation.follow evaluation.maxDepth) evaluation.stack

def applies (evaluation : Evaluation m) (tree : PolicyTree) : m (Except EvaluationError Bool) :=
  tree.appliesWith evaluation.facade (evaluation.follow evaluation.maxDepth)

/-- Combines the policies that are considered for a request. -/
def combineRoots (evaluation : Evaluation m) (algorithm : Algorithm) (roots : List PolicyTree) :
    m Result :=
  algorithm.method.combine
    (roots.map fun tree =>
      ⟨fun _ => evaluation.evaluate tree, fun _ => evaluation.applies tree, none⟩)

end Evaluation

end

end Xacml
