import Xacml.Evaluation.Tree
import Xacml.Proofs.Combining.Resolution

/-!
# Possible outcomes of policy trees

An evaluation that meets an error does not know what would have happened without it.  This module
defines what might have happened, and shows that the decision of a tree stands for all of it as long
as errors only meet overriding methods:

* `Rule.Outcome` and `PolicyHeader.Outcome` are the possible outcomes of a rule, and of a policy or
  a policy set whose children have given outcomes,
* `PolicyTree.Outcome` puts the two together over a tree and the references in it,
* `outcome_mem_meaning_evaluate`: a possible outcome is never one that the decision excludes.
-/

namespace Xacml

/-! ## Possible outcomes -/

/-- What a rule might have come to.  An error in the target or the condition leaves open whether the
rule applies; an error in the obligations or the advice does not. -/
inductive Rule.Outcome (facade : Facade Id) (stack : Stack) (rule : Rule) : Decision → Prop
  | effect {error : EvaluationError} (h : Id.run (rule.applies facade stack) = .error error) :
      Outcome facade stack rule (.ofEffect rule.effect)
  | skipped {error : EvaluationError} (h : Id.run (rule.applies facade stack) = .error error) :
      Outcome facade stack rule .notApplicable
  | unfulfilled {error : EvaluationError} (h : Id.run (rule.applies facade stack) = .ok true)
      (h' : Id.run (fulfilBoth facade stack rule.effect rule.obligations rule.advice) =
        .error error) :
      Outcome facade stack rule (.ofEffect rule.effect)
  | evaluated (h : (Id.run (rule.evaluate facade stack)).decision.isIndeterminate = false) :
      Outcome facade stack rule (Id.run (rule.evaluate facade stack)).decision

/-- What a policy or a policy set might have come to, where its children come to the decisions
`ds`.  An error in the target leaves open whether the node applies; its obligations and advice do
not matter. -/
inductive PolicyHeader.Outcome (facade : Facade Id) (header : PolicyHeader) (ds : List Decision) :
    Decision → Prop
  | unmatched (h : Id.run (header.target.evaluate facade) = .fails) :
      Outcome facade header ds .notApplicable
  | skipped {error : EvaluationError}
      (h : Id.run (header.target.evaluate facade) = .indeterminate error) :
      Outcome facade header ds .notApplicable
  | combined (h : Id.run (header.target.evaluate facade) ≠ .fails) :
      Outcome facade header ds (header.algorithm.method.decisionOn (ds.map .decided))

/-- What a tree might have come to, where as many references as given may still be opened, and a
stack is given.  A reference that leads nowhere might have led to anything, and so might a tree for
which there is too little left of the stack. -/
inductive PolicyTree.Outcome (evaluation : Evaluation Id) :
    Nat → Stack → PolicyTree → Decision → Prop
  | policy {left : Nat} {stack : Stack} {p : Policy} {ds : List Decision} {d : Decision}
      (rules : List.Forall₂
        (fun child d => child.element.Outcome evaluation.facade (stack.enter .rule) d) p.rules ds)
      (node : p.header.Outcome evaluation.facade ds d) :
      Outcome evaluation left stack (.policy p) d
  | policySet {left : Nat} {stack : Stack} {header : PolicyHeader}
      {children : List (Child PolicyTree)} {ds : List Decision} {d : Decision}
      (length : children.length = ds.length)
      (outcomes : ∀ pair ∈ children.zip ds,
        Outcome evaluation left (stack.enter .child) pair.1.element pair.2)
      (node : header.Outcome evaluation.facade ds d) :
      Outcome evaluation left stack (.policySet header children) d
  | reference {left : Nat} {stack : Stack} {target : PolicyReference} {tree : PolicyTree}
      {d : Decision} (resolved : evaluation.source.resolve target = .ok tree)
      (outcome : Outcome evaluation left (stack.enter .resolution) tree d) :
      Outcome evaluation (left + 1) stack (.reference target) d
  | unresolved {left : Nat} {stack : Stack} {target : PolicyReference} {error : EvaluationError}
      {d : Decision} (failed : evaluation.source.resolve target = .error error)
      (errorFree : d.isIndeterminate = false) :
      Outcome evaluation (left + 1) stack (.reference target) d
  | tooDeep {stack : Stack} {target : PolicyReference} {d : Decision}
      (errorFree : d.isIndeterminate = false) :
      Outcome evaluation 0 stack (.reference target) d
  | noRoom {left : Nat} {stack : Stack} {tree : PolicyTree} {d : Decision}
      (low : stack.isLow = true) (errorFree : d.isIndeterminate = false) :
      Outcome evaluation left stack tree d

/-! ## Trees with overriding methods -/

namespace PolicyTree

/-- Whether a node occurs in a tree, or in what a reference in the tree stands for. -/
inductive Occurs (source : PolicySource) (node : PolicyTree) : PolicyTree → Prop
  | self : Occurs source node node
  | child {header : PolicyHeader} {children : List (Child PolicyTree)} {c : Child PolicyTree}
      (mem : c ∈ children) (inner : Occurs source node c.element) :
      Occurs source node (.policySet header children)
  | reference {target : PolicyReference} {tree : PolicyTree}
      (resolved : source.resolve target = .ok tree) (inner : Occurs source node tree) :
      Occurs source node (.reference target)

/-- Whether every policy and every policy set in a tree combines its children by an overriding
method. -/
def IsOverriding (source : PolicySource) (tree : PolicyTree) : Prop :=
  ∀ node header, Occurs source node tree → node.header? = some header →
    ∃ winner, header.algorithm.method = .overrides winner

section

variable {source : PolicySource}

theorem isOverriding_policy {p : Policy} :
    (policy p).IsOverriding source ↔ ∃ winner, p.header.algorithm.method = .overrides winner := by
  constructor
  · intro h
    exact h _ p.header .self rfl
  · rintro h node header hnode hheader
    cases hnode
    cases hheader
    exact h

theorem isOverriding_policySet {header : PolicyHeader} {children : List (Child PolicyTree)} :
    (policySet header children).IsOverriding source ↔
      (∃ winner, header.algorithm.method = .overrides winner) ∧
        ∀ child ∈ children, child.element.IsOverriding source := by
  constructor
  · intro h
    exact ⟨h _ header .self rfl, fun child hchild node header hnode hheader =>
      h node header (.child hchild hnode) hheader⟩
  · rintro ⟨hself, hchildren⟩ node header hnode hheader
    cases hnode with
    | self =>
        cases hheader
        exact hself
    | child mem inner => exact hchildren _ mem node header inner hheader

theorem isOverriding_reference {target : PolicyReference} :
    (reference target).IsOverriding source ↔
      ∀ tree, source.resolve target = .ok tree → tree.IsOverriding source := by
  constructor
  · intro h tree resolved node header hnode hheader
    exact h node header (.reference resolved hnode) hheader
  · intro h node header hnode hheader
    cases hnode with
    | self => cases hheader
    | reference resolved inner => exact h _ resolved node header inner hheader

end

end PolicyTree

/-! ## Steps that only widen what a decision stands for -/

theorem mem_meaning_either {d : Decision} (h : d.isIndeterminate = false) :
    d ∈ (Decision.indeterminate .either).meaning := by
  cases d <;> first | decide | simp [Decision.isIndeterminate] at h

section

variable (facade : Facade Id) (stack : Stack)

/-- Obligations leave a decision as it is, or turn an effect into an error that hides it. -/
theorem attachObligations_decision (obligations advice : List ObligationExpr) (result : Result) :
    (Id.run (attachObligations facade stack obligations advice result)).decision =
        result.decision ∨
      ∃ e, result.decision = .ofEffect e ∧
        (Id.run (attachObligations facade stack obligations advice result)).decision =
          .indeterminate (.ofEffect e) := by
  simp only [attachObligations]
  cases heffect : result.decision.effect? with
  | none => exact .inl rfl
  | some e =>
      simp only [Id.run_bind]
      cases hdone : Id.run (fulfilBoth facade stack e obligations advice) with
      | ok done => exact .inl rfl
      | error error =>
          exact .inr ⟨e, Decision.eq_ofEffect_of_effect? heffect, rfl⟩

theorem meaning_subset_attachObligations (obligations advice : List ObligationExpr)
    (result : Result) :
    result.decision.meaning ⊆
      (Id.run (attachObligations facade stack obligations advice result)).decision.meaning := by
  intro d hd
  rcases attachObligations_decision facade stack obligations advice result with
    heq | ⟨e, he, heq⟩
  · rwa [heq]
  · rw [he] at hd
    obtain rfl := Decision.mem_meaning_ofEffect.1 hd
    rw [heq]
    exact Decision.ofEffect_mem_meaning.2 (.inr (.inl rfl))

theorem meaning_subset_conclude (kind : PolicyKind) (header : PolicyHeader) (result : Result) :
    result.decision.meaning ⊆
      (Id.run (conclude facade stack kind header result)).decision.meaning := by
  have hkeep :
      (Id.run (conclude facade stack kind header result)).decision =
        (Id.run
          (attachObligations facade stack header.obligations header.advice result)).decision := by
    simp only [conclude, Id.run_bind]
    split <;> rfl
  rw [hkeep]
  exact meaning_subset_attachObligations facade stack header.obligations header.advice result

end

/-- A target with an error hides an effect, and leaves other decisions as they are. -/
theorem underError_decision (error : EvaluationError) (result : Result) :
    (underError error result).decision =
      match result.decision.effect? with
      | some e => .indeterminate (.ofEffect e)
      | none => result.decision := by
  simp only [underError]
  cases hd : result.decision <;> simp [Decision.effect?, Result.ofError, Result.ofDecision,
    Result.withoutObligations, Extent.ofEffect, hd]

theorem mem_meaning_underError {error : EvaluationError} {result : Result} {d : Decision}
    (h : d ∈ result.decision.meaning ∨ d = .notApplicable) :
    d ∈ (underError error result).decision.meaning := by
  rw [underError_decision]
  cases heffect : result.decision.effect? with
  | none =>
      rcases h with h | rfl
      · exact h
      · exact Decision.notApplicable_mem_meaning.2 heffect
  | some e =>
      have heq : result.decision = .ofEffect e := Decision.eq_ofEffect_of_effect? heffect
      rcases h with h | rfl
      · rw [heq] at h
        obtain rfl := Decision.mem_meaning_ofEffect.1 h
        exact Decision.ofEffect_mem_meaning.2 (.inr (.inl rfl))
      · exact Decision.notApplicable_mem_meaning.2 rfl

theorem underTarget_run (facade : Facade Id) (target : Target) (schema : SchemaVersion)
    (combine : Unit → Id Result) :
    Id.run (underTarget facade target schema combine) =
      match Id.run (target.evaluate facade) with
      | .holds _ => Id.run (combine ())
      | .fails => .notApplicable
      | .indeterminate error =>
          if schema.isLegacy then .ofError .either error
          else underError error (Id.run (combine ())) := by
  simp only [underTarget, Id.run_bind]
  cases Id.run (target.evaluate facade) with
  | holds literals => rfl
  | fails => rfl
  | indeterminate error => dsimp only; split <;> rfl

/-! ## Soundness -/

theorem Rule.Outcome.mem_meaning {facade : Facade Id} {stack : Stack} {rule : Rule}
    {d : Decision} (h : rule.Outcome facade stack d) :
    d ∈ (Id.run (rule.evaluate facade stack)).decision.meaning := by
  cases h with
  | effect h =>
      simp only [Rule.evaluate, Id.run_bind, h]
      exact Decision.ofEffect_mem_meaning.2 (.inr (.inl rfl))
  | skipped h =>
      simp only [Rule.evaluate, Id.run_bind, h]
      exact Decision.notApplicable_mem_meaning.2 rfl
  | unfulfilled h h' =>
      simp only [Rule.evaluate, Id.run_bind, h]
      apply meaning_subset_attachObligations
      exact Decision.ofEffect_mem_meaning.2 (.inl rfl)
  | evaluated h => exact Decision.mem_meaning_self h

/-- A possible outcome of a node is one that its decision stands for, if this is so for its
children and an overriding method combines them. -/
theorem PolicyHeader.Outcome.mem_meaning {facade : Facade Id} {header : PolicyHeader}
    {children : List (Candidate Id)} {ds : List Decision} {d : Decision} {winner : Effect}
    (h : header.Outcome facade ds d) (hchildren : Resolution (decisionsOf children) ds)
    (hmethod : header.algorithm.method = .overrides winner) (stack : Stack) (kind : PolicyKind) :
    d ∈ (Id.run (evaluateNode facade stack kind header children)).decision.meaning := by
  have hcombined :
      header.algorithm.method.decisionOn (ds.map .decided) ∈
        (header.algorithm.method.decisionOn children).meaning := by
    rw [hmethod, decisionOn_overrides, decisionOn_overrides, decisionsOf_decided]
    exact Effect.overriding_mem_meaning hchildren
  have hfree : d.isIndeterminate = false := by
    cases h with
    | combined => exact Decision.isIndeterminate_of_mem_meaning hcombined
    | _ => rfl
  -- What the node concludes with stands for at least as much as what the target lets through.
  apply meaning_subset_conclude facade stack kind header
    (Id.run (underTarget facade header.target header.schema fun _ =>
      header.algorithm.method.combine children))
  rw [underTarget_run]
  cases h with
  | unmatched h =>
      rw [h]
      exact Decision.notApplicable_mem_meaning.2 rfl
  | skipped h =>
      rw [h]
      dsimp only
      split
      · exact mem_meaning_either hfree
      · exact mem_meaning_underError (.inr rfl)
  | combined h =>
      cases htarget : Id.run (header.target.evaluate facade) with
      | holds literals => exact hcombined
      | fails => exact absurd htarget h
      | indeterminate error =>
          dsimp only
          split
          · exact mem_meaning_either hfree
          · exact mem_meaning_underError (.inl hcombined)

namespace PolicyTree

variable {evaluation : Evaluation Id}

theorem decisionsOf_candidatesWith (facade : Facade Id) (following : Following Id) (stack : Stack)
    (children : List (Child PolicyTree)) :
    decisionsOf (candidatesWith facade following stack children) =
      children.map fun child =>
        (Id.run (evaluateWith facade following stack child.element)).decision := by
  induction children with
  | nil => simp [candidatesWith, decisionsOf]
  | cons child rest ih =>
      simp only [decisionsOf] at ih
      simp [candidatesWith, decisionsOf, ih]

/-- Too little left of the stack excludes no decision. -/
theorem mem_meaning_guarded {stack : Stack} {x : Id Result} {d : Decision}
    (h : d ∈ (Id.run x).decision.meaning) :
    d ∈ (Id.run (if stack.isLow then pure (Result.ofError .either .recursionLimit)
      else x)).decision.meaning := by
  split
  · exact mem_meaning_either (Decision.isIndeterminate_of_mem_meaning h)
  · exact h

/-- A possible outcome of a tree is one that its decision stands for. -/
theorem Outcome.mem_meaning {left : Nat} {stack : Stack} {tree : PolicyTree} {d : Decision}
    (h : tree.Outcome evaluation left stack d) (htree : tree.IsOverriding evaluation.source) :
    d ∈ (Id.run
      (tree.evaluateWith evaluation.facade (evaluation.follow left) stack)).decision.meaning := by
  -- References lead to trees that need not be parts of the tree, so the induction is on outcomes.
  induction h with
  | @policy left stack p ds d rules node =>
      rcases isOverriding_policy.1 htree with ⟨winner, hwinner⟩
      have hrules :
          Resolution
            (decisionsOf (p.rules.map fun child =>
              child.element.candidate evaluation.facade (stack.enter .rule))) ds := by
        unfold Resolution decisionsOf
        rw [List.map_map, List.forall₂_map_left_iff]
        exact rules.imp fun _ _ h => h.mem_meaning
      rw [evaluateWith]
      exact mem_meaning_guarded (node.mem_meaning hrules hwinner stack .policy)
  | @policySet left stack header children ds d length outcomes node ih =>
      rcases isOverriding_policySet.1 htree with ⟨⟨winner, hwinner⟩, hinner⟩
      have hchildren :
          Resolution
            (decisionsOf (candidatesWith evaluation.facade (evaluation.follow left)
              (stack.enter .child) children)) ds := by
        simp only [Resolution]
        rw [decisionsOf_candidatesWith, List.forall₂_map_left_iff, List.forall₂_iff_zip]
        refine ⟨length, fun {child d} hpair => ih (child, d) hpair ?_⟩
        exact hinner child (List.of_mem_zip hpair).1
      rw [evaluateWith]
      exact mem_meaning_guarded (node.mem_meaning hchildren hwinner stack .policySet)
  | reference resolved outcome ih =>
      simp only [evaluateWith, Evaluation.follow, resolved]
      exact mem_meaning_guarded (ih (isOverriding_reference.1 htree _ resolved))
  | unresolved failed errorFree =>
      simp only [evaluateWith, Evaluation.follow, failed]
      exact mem_meaning_guarded (mem_meaning_either errorFree)
  | tooDeep errorFree =>
      simp only [evaluateWith, Evaluation.follow]
      exact mem_meaning_guarded (mem_meaning_either errorFree)
  | noRoom low errorFree =>
      rw [evaluateWith_of_isLow _ _ low]
      exact mem_meaning_either errorFree

end PolicyTree

/-! ## Existence -/

theorem Rule.exists_outcome (facade : Facade Id) (stack : Stack) (rule : Rule) :
    ∃ d, rule.Outcome facade stack d := by
  cases happlies : Id.run (rule.applies facade stack) with
  | error error => exact ⟨_, .skipped happlies⟩
  | ok applies =>
      cases applies with
      | false =>
          refine ⟨_, .evaluated ?_⟩
          simp only [Rule.evaluate, Id.run_bind, happlies]
          rfl
      | true =>
          cases hdone :
              Id.run (fulfilBoth facade stack rule.effect rule.obligations rule.advice) with
          | error error => exact ⟨_, .unfulfilled happlies hdone⟩
          | ok done =>
              refine ⟨_, .evaluated ?_⟩
              have heffect : (Result.ofDecision (.ofEffect rule.effect)).decision.effect? =
                  some rule.effect := Decision.effect?_ofEffect rule.effect
              simp only [Rule.evaluate, Id.run_bind, happlies, attachObligations, heffect, hdone]
              cases rule.effect <;> rfl

theorem PolicyHeader.exists_outcome (facade : Facade Id) (header : PolicyHeader)
    (ds : List Decision) : ∃ d, header.Outcome facade ds d := by
  by_cases h : Id.run (header.target.evaluate facade) = .fails
  · exact ⟨_, .unmatched h⟩
  · exact ⟨_, .combined h⟩

theorem PolicyTree.sizeOf_element_lt {child : Child PolicyTree}
    {children : List (Child PolicyTree)} (h : child ∈ children) :
    sizeOf child.element < sizeOf children := by
  have hlt := List.sizeOf_lt_of_mem h
  have hchild : sizeOf child.element < sizeOf child := by
    cases child
    simp only [Child.mk.sizeOf_spec]
    omega
  omega

/-- A tree comes to something: by recursion on how many references may be opened, and on the
tree. -/
theorem PolicyTree.exists_outcome (evaluation : Evaluation Id) (left : Nat) (stack : Stack)
    (tree : PolicyTree) : ∃ d, tree.Outcome evaluation left stack d := by
  match left, tree with
  | _, .policy p =>
      have heach : ∀ child ∈ p.rules,
          ∃ d, child.element.Outcome evaluation.facade (stack.enter .rule) d :=
        fun child _ => child.element.exists_outcome evaluation.facade (stack.enter .rule)
      rcases exists_forall₂ heach with ⟨ds, hrules⟩
      rcases p.header.exists_outcome evaluation.facade ds with ⟨d, hd⟩
      exact ⟨d, .policy hrules hd⟩
  | left, .policySet header children =>
      have heach : ∀ child ∈ children,
          ∃ d, child.element.Outcome evaluation left (stack.enter .child) d := by
        intro child hchild
        have hsize := sizeOf_element_lt hchild
        exact exists_outcome evaluation left (stack.enter .child) child.element
      rcases exists_forall₂ heach with ⟨ds, hchildren⟩
      rcases List.forall₂_iff_zip.1 hchildren with ⟨length, outcomes⟩
      rcases header.exists_outcome evaluation.facade ds with ⟨d, hd⟩
      exact ⟨d, .policySet length (fun _ hpair => outcomes hpair) hd⟩
  | 0, .reference target => exact ⟨.notApplicable, .tooDeep rfl⟩
  | left + 1, .reference target =>
      cases hresolved : evaluation.source.resolve target with
      | error error => exact ⟨.notApplicable, .unresolved hresolved rfl⟩
      | ok tree =>
          rcases exists_outcome evaluation left (stack.enter .resolution) tree with ⟨d, hd⟩
          exact ⟨d, .reference hresolved hd⟩
termination_by (left, sizeOf tree)
decreasing_by
  · exact Prod.Lex.right _ (by simp only [policySet.sizeOf_spec]; omega)
  · exact Prod.Lex.left _ _ (Nat.lt_succ_self left)

/-- A decision without an error is what the tree comes to, whatever the errors in it hide. -/
theorem outcome_iff_of_errorFree {evaluation : Evaluation Id} {tree : PolicyTree}
    (htree : tree.IsOverriding evaluation.source)
    (h : (Id.run (evaluation.evaluate tree)).decision.isIndeterminate = false) (d : Decision) :
    tree.Outcome evaluation evaluation.maxDepth evaluation.stack d ↔
      d = (Id.run (evaluation.evaluate tree)).decision := by
  have only {d : Decision} (hd : tree.Outcome evaluation evaluation.maxDepth evaluation.stack d) :
      d = (Id.run (evaluation.evaluate tree)).decision :=
    (Decision.mem_meaning_iff_eq h).1 (hd.mem_meaning htree)
  constructor
  · exact only
  · rintro rfl
    rcases tree.exists_outcome evaluation evaluation.maxDepth evaluation.stack with ⟨d, hd⟩
    rwa [only hd] at hd

/-- The decision of a tree stands for each of its possible outcomes, and there is one. -/
theorem outcome_mem_meaning_evaluate (evaluation : Evaluation Id) (tree : PolicyTree)
    (htree : tree.IsOverriding evaluation.source) :
    (∃ d, tree.Outcome evaluation evaluation.maxDepth evaluation.stack d) ∧
      ∀ d, tree.Outcome evaluation evaluation.maxDepth evaluation.stack d →
        d ∈ (Id.run (evaluation.evaluate tree)).decision.meaning :=
  ⟨tree.exists_outcome evaluation evaluation.maxDepth evaluation.stack,
    fun _ h => h.mem_meaning htree⟩

namespace LostReference

/-- The header of a node that is about every request, and in which a Deny overrides. -/
def header : PolicyHeader :=
  ⟨"node", ⟨[1]⟩, .v3_0, none, .anyOf [], ⟨"deny-overrides", .overrides .deny⟩, [], [], []⟩

/-- A policy with a rule that permits everything, beside a reference. -/
def tree : PolicyTree :=
  .policySet header
    [ ⟨.reference ⟨.policy, "lost", ⟨none, none, none⟩⟩, []⟩
    , ⟨.policy ⟨header, [], [⟨⟨"rule", .permit, none, none, none, [], []⟩, []⟩]⟩, []⟩ ]

/-- An evaluation of the empty request in which references lead nowhere. -/
def evaluation : Evaluation Id :=
  ⟨⟨.empty, ⟨⟨⟨0, 0⟩, none⟩⟩, []⟩, ⟨fun _ => .ok none, fun _ => .ok []⟩, 1, .main⟩

theorem isOverriding_tree : tree.IsOverriding evaluation.source := by
  refine PolicyTree.isOverriding_policySet.2 ⟨⟨.deny, rfl⟩, ?_⟩
  intro child hchild
  rcases List.mem_pair.1 hchild with rfl | rfl
  · exact PolicyTree.isOverriding_reference.2 fun tree resolved => nomatch resolved
  · exact PolicyTree.isOverriding_policy.2 ⟨.deny, rfl⟩

/-- What is lost might have been a Deny. -/
theorem outcome_deny : tree.Outcome evaluation 1 .main .deny := by
  have hmatched : Id.run (header.target.evaluate evaluation.facade) ≠ .fails := by decide
  have hnode : header.Outcome evaluation.facade [.deny, .permit] .deny := .combined hmatched
  refine .policySet rfl ?_ hnode
  intro pair hpair
  rcases List.mem_pair.1 hpair with rfl | rfl
  · exact .unresolved rfl rfl
  · exact .policy (.cons (.evaluated rfl) .nil) (.combined hmatched)

/-- The decision does not exclude the Deny, although a Permit is all that was found. -/
theorem deny_mem_meaning_evaluate :
    .deny ∈ (Id.run (evaluation.evaluate tree)).decision.meaning :=
  (outcome_mem_meaning_evaluate evaluation tree isOverriding_tree).2 .deny outcome_deny

end LostReference

end Xacml
