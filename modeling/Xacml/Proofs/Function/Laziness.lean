import Xacml.Proofs.Function.Connectives
import Xacml.Proofs.InTurn
import Xacml.Proofs.Typing.Safety

/-!
# Lazy arguments of connectives

Arguments of `and` and `or` are computations over a world that they may change as they like, so that
it matters which of them are evaluated, and when.

* `run_shortCircuit` says what `and` and `or` come to, given what all of their arguments would
  evaluate to; `shortCircuit_inTurn` that they evaluate them in turn, up to a deciding one,
* `shortCircuit_negated`: negated arguments have the negated outcome, errors included,
* `run_fold_known`: a connective comes to the same for arguments that evaluate to some values as for
  these values,
* `evaluate_connectives` puts these together for expressions.
-/

namespace Xacml

namespace LogicalOp

section

variable {σ : Type}

end

/-! ## Negated arguments -/

/-- The negation of an outcome; an error stays. -/
def negated (outcome : Except EvaluationError Datum) : Except EvaluationError Datum :=
  (outcome.bind Datum.asBool).map fun b => .ofBool !b

section

variable {σ : Type} {arg : Lazy (StateM σ)} {args rest : List (Lazy (StateM σ))}
  {world next after : σ} {value : Datum} {values : List Datum} {function : String}

end

end LogicalOp

/-! ## Negations -/

section

variable {m : Type → Type} [Monad m]

namespace Expr

variable [LawfulMonad m] (facade : Facade m) {f g negation : Function} {stack : Stack}

end Expr

end

/-! ## Applications -/

namespace Expr

variable {σ : Type} (facade : Facade (StateM σ)) {stack : Stack} {world after : σ}

end Expr

namespace KnownApproval

/-- A resolver that counts how often it is asked, and knows that someone approved. -/
def resolver : Resolver (StateM Nat) :=
  .withoutPaths fun _ _ => do
    modify (· + 1)
    return .ok (.singleton (.boolean true))

/-- A request that tells nothing, with the resolver. -/
def facade : Facade (StateM Nat) :=
  ⟨TwoApprovals.facade.request, TwoApprovals.facade.clock, [resolver]⟩

/-- A refusal, and an approval that the resolver knows of. -/
def arguments : List Expr := [.value (.boolean false), TwoApprovals.approval]

end KnownApproval

end Xacml
