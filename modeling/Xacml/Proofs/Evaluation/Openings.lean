import Mathlib.Tactic.Choose
import Xacml.Proofs.Evaluation.Inlining
import Xacml.Proofs.Evaluation.Simulation

/-!
# Counting open references

References may lead back to where they came from.  What keeps an evaluation finite is a count of the
references that are being followed, which all parts of the evaluation share.

* `Evaluation.followCounting` follows references with this count, and without another bound than a
  number of steps after which it gives up,
* `EndsLike` compares a computation with the count to one without it: it ends with the same result,
  with as many open references as it began with, and it never has too many open at once,
* `references_transparent`: a reference is as good as the node that it stands for while the limit
  suffices, and the evaluation ends within the limit in any case.
-/

namespace Xacml

/-! ## The count -/

/-- How many references are open, and how many have been open at once so far. -/
structure Openings where
  now : Nat
  most : Nat
  deriving DecidableEq, Repr

namespace Openings

/-- One more reference is open. -/
def opened (openings : Openings) : Openings :=
  ⟨openings.now + 1, max openings.most (openings.now + 1)⟩

/-- The reference that was opened last is open no longer. -/
def closed (openings : Openings) : Openings :=
  { openings with now := openings.now - 1 }

end Openings

/-- Computations that share a count of open references, and that may give up. -/
abbrev Counting (m : Type → Type) : Type → Type := StateT Openings (OptionT m)

section

variable {m : Type → Type} [Monad m]

/-- A computation that leaves the count alone. -/
def Counting.lift {α : Type} (x : m α) : Counting m α :=
  StateT.lift (OptionT.lift x)

/-- The same resolver for computations with the count. -/
def Resolver.counting (resolver : Resolver m) : Resolver (Counting m) where
  find query request := Counting.lift (resolver.find query request)
  select query request := Counting.lift (resolver.select query request)

/-- The same facade for computations with the count. -/
def Facade.counting (facade : Facade m) : Facade (Counting m) :=
  ⟨facade.request, facade.clock, facade.resolvers.map Resolver.counting⟩

namespace Evaluation

variable (evaluation : Evaluation m)

/-- Works on what a reference stands for, and counts the reference as open meanwhile.  It is refused
if as many as allowed are open already, or if it stands for nothing. -/
def openReference {α : Type} (refuse : EvaluationError → α) (work : PolicyTree → Counting m α)
    (target : PolicyReference) : Counting m α := do
  if evaluation.maxDepth ≤ (← get).now then
    return refuse (.of (.depthExceeded evaluation.maxDepth))
  else
    match evaluation.source.resolve target with
    | .error error => return refuse error
    | .ok tree => do
        modify Openings.opened
        let result ← work tree
        modify Openings.closed
        return result

/-- How references are followed with the count.  No result is given if references still have to be
followed after a number of steps, each of which leads from a reference into its node. -/
def followCounting : Nat → Following (Counting m)
  | 0 => ⟨fun _ _ => failure, fun _ => failure⟩
  | steps + 1 =>
      { evaluate := fun stack => evaluation.openReference (.ofError .either) fun tree =>
          tree.evaluateWith evaluation.facade.counting (followCounting steps)
            (stack.enter .resolution)
        applies := evaluation.openReference .error fun tree =>
          tree.appliesWith evaluation.facade.counting (followCounting steps) }

end Evaluation

/-! ## Ends -/

/-- Whether a computation with the count, begun with a number of open references, ends like a
computation without it: with the same result and with as many open references, and without ever
having more open than a limit. -/
def EndsLike (limit now : Nat) (α : Type) (x : Counting m α) (y : m α) : Prop :=
  ∀ most ≤ limit, ∃ z : m (α × {most : Nat // most ≤ limit}),
    (x.run ⟨now, most⟩).run = (fun last => some (last.1, ⟨now, last.2⟩)) <$> z ∧
      Prod.fst <$> z = y

variable [LawfulMonad m] {limit now : Nat}

theorem EndsLike.simulation (limit now : Nat) : Simulation (EndsLike limit now (m := m)) where
  pure a := fun most h => ⟨pure (a, ⟨most, h⟩), by simp, by simp⟩
  bind {α β x y f g} first next := by
    intro most h
    rcases first most h with ⟨z, hz, rfl⟩
    choose z' hz' hnext using fun a most => next a most
    refine ⟨z >>= fun last => z' last.1 last.2 last.2.2, ?_, ?_⟩
    · simp only [StateT.run_bind, OptionT.run_bind, Option.elimM, hz, bind_map_left, map_bind,
        Option.elim_some]
      exact bind_congr fun last => hz' last.1 last.2 last.2.2
    · rw [map_bind, bind_map_left]
      exact bind_congr fun last => hnext last.1 last.2 last.2.2

/-- A computation that leaves the count alone ends like itself. -/
theorem endsLike_lift {α : Type} (x : m α) : EndsLike limit now α (Counting.lift x) x := by
  intro most h
  refine ⟨(fun a => (a, ⟨most, h⟩)) <$> x, ?_, ?_⟩
  · simp [Counting.lift]
  · simp

/-- Lookups leave the count alone. -/
theorem related_counting (facade : Facade m) (lookup : Lookup) :
    facade.counting.Related (EndsLike limit now) facade lookup := by
  have hR := EndsLike.simulation (m := m) limit now
  cases lookup with
  | designator d =>
      refine hR.find rfl rfl ?_
      rw [Facade.counting, List.forall₂_map_left_iff, List.forall₂_same]
      exact fun resolver _ => endsLike_lift _
  | selector s =>
      refine hR.askEach ?_
      rw [Facade.counting, List.forall₂_map_left_iff, List.forall₂_same]
      exact fun resolver _ => endsLike_lift _

/-- So a tree is looked at alike with the count and without it. -/
theorem looksAlike_counting (limit now : Nat) (source : PolicySource) (facade : Facade m)
    (tree : PolicyTree) :
    tree.LooksAlike (EndsLike limit now) source facade.counting facade :=
  fun _ _ lookup _ => related_counting facade lookup

/-! ## References -/

namespace Evaluation

variable (evaluation : Evaluation m)

section

variable {α : Type} {refuse : EvaluationError → α} {work : PolicyTree → Counting m α}
  {target : PolicyReference}

/-- At the limit, a reference is refused. -/
theorem openReference_of_limit (most : Nat) :
    (evaluation.openReference refuse work target).run ⟨evaluation.maxDepth, most⟩ =
      pure (refuse (.of (.depthExceeded evaluation.maxDepth)), ⟨evaluation.maxDepth, most⟩) := by
  simp [openReference]

theorem openReference_refuses :
    EndsLike evaluation.maxDepth evaluation.maxDepth α
      (evaluation.openReference refuse work target)
      (pure (refuse (.of (.depthExceeded evaluation.maxDepth)))) := by
  intro most hmost
  refine ⟨pure (_, ⟨most, hmost⟩), ?_, map_pure _ _⟩
  rw [openReference_of_limit, map_pure, OptionT.run_pure]

theorem openReference_of_error {now : Nat} (h : now < evaluation.maxDepth) {error : EvaluationError}
    (hresolved : evaluation.source.resolve target = .error error) :
    EndsLike evaluation.maxDepth now α (evaluation.openReference refuse work target)
      (pure (refuse error)) := by
  intro most hmost
  refine ⟨pure (refuse error, ⟨most, hmost⟩), ?_, ?_⟩
  · simp [openReference, hresolved, Nat.not_le.2 h]
  · simp

/-- Below the limit, a reference is open while its node is worked on, and then closed again. -/
theorem openReference_of_ok {now : Nat} (h : now < evaluation.maxDepth) {tree : PolicyTree}
    (hresolved : evaluation.source.resolve target = .ok tree) {y : m α}
    (hwork : EndsLike evaluation.maxDepth (now + 1) α (work tree) y) :
    EndsLike evaluation.maxDepth now α (evaluation.openReference refuse work target) y := by
  intro most hmost
  rcases hwork (max most (now + 1)) (max_le hmost h) with ⟨z, hz, hy⟩
  refine ⟨z, ?_, hy⟩
  simp [openReference, hresolved, Nat.not_le.2 h, Openings.opened, Openings.closed, hz]

end

/-- Where as many references may be opened as the limit leaves, and more steps may be made than
that, references are followed with the count as they are without it: by induction on how many are
left. -/
theorem followCounting_related (left steps now : Nat) (hsteps : left < steps)
    (hnow : now + left = evaluation.maxDepth) (target : PolicyReference) :
    Following.Related (EndsLike evaluation.maxDepth now) (evaluation.followCounting steps)
      (evaluation.follow left) target := by
  induction left generalizing steps now target with
  | zero =>
      obtain ⟨steps, rfl⟩ := Nat.exists_eq_add_one_of_ne_zero (Nat.ne_of_gt hsteps)
      obtain rfl : now = evaluation.maxDepth := hnow
      constructor <;> intros <;> exact evaluation.openReference_refuses
  | succ left ih =>
      obtain ⟨steps, rfl⟩ := Nat.exists_eq_add_one_of_ne_zero (Nat.ne_zero_of_lt hsteps)
      have hlimit : now < evaluation.maxDepth := by omega
      cases hresolved : evaluation.source.resolve target with
      | error error =>
          constructor <;> intros <;> simp only [follow, followCounting, hresolved] <;>
            exact evaluation.openReference_of_error hlimit hresolved
      | ok tree =>
          -- The node is worked on with one more reference open, and one less to be opened.
          have hinner := ih steps (now + 1) (Nat.lt_of_succ_lt_succ hsteps) (by omega)
          have hR := EndsLike.simulation (m := m) evaluation.maxDepth (now + 1)
          have hlook := looksAlike_counting evaluation.maxDepth (now + 1) evaluation.source
            evaluation.facade tree
          constructor <;> intros <;> simp only [follow, followCounting, hresolved]
          · exact evaluation.openReference_of_ok hlimit hresolved
              (hR.tree _ tree hlook fun inner _ => hinner inner)
          · exact evaluation.openReference_of_ok hlimit hresolved
              (hR.targetApplies hlook fun inner _ => hinner inner)

/-- Evaluates a tree with the count. -/
def evaluateCounting (steps : Nat) (tree : PolicyTree) : Counting m Result :=
  tree.evaluateWith evaluation.facade.counting (evaluation.followCounting steps) evaluation.stack

/-- Whether the target of a tree applies, with the count. -/
def appliesCounting (steps : Nat) (tree : PolicyTree) :
    Counting m (Except EvaluationError Bool) :=
  tree.appliesWith evaluation.facade.counting (evaluation.followCounting steps)

/-- With more steps than the limit, a tree is evaluated with the count as it is without it, and its
target is matched likewise. -/
theorem counting_endsLike {steps now : Nat} (hsteps : evaluation.maxDepth < steps)
    (hnow : now ≤ evaluation.maxDepth) (tree : PolicyTree) :
    EndsLike evaluation.maxDepth now _ (evaluation.evaluateCounting steps tree)
        (tree.evaluateWith evaluation.facade (evaluation.follow (evaluation.maxDepth - now))
          evaluation.stack) ∧
      EndsLike evaluation.maxDepth now _ (evaluation.appliesCounting steps tree)
        (tree.appliesWith evaluation.facade (evaluation.follow (evaluation.maxDepth - now))) := by
  have hR := EndsLike.simulation (m := m) evaluation.maxDepth now
  have hlook := looksAlike_counting evaluation.maxDepth now evaluation.source evaluation.facade tree
  have hfollow := evaluation.followCounting_related (evaluation.maxDepth - now) steps now
    (Nat.lt_of_le_of_lt (Nat.sub_le _ _) hsteps) (Nat.add_sub_of_le hnow)
  exact ⟨hR.tree _ tree hlook fun target _ => hfollow target,
    hR.targetApplies hlook fun target _ => hfollow target⟩

end Evaluation

/-! ## Transparency -/

/-- At the limit, a reference is refused with an error; it is not even looked at if there is too
little left of the stack. -/
theorem Evaluation.evaluateCounting_of_limit (evaluation : Evaluation m) (steps most : Nat)
    (target : PolicyReference) :
    (evaluation.evaluateCounting (steps + 1) (.reference target)).run
        ⟨evaluation.maxDepth, most⟩ =
      pure (.ofError .either (if evaluation.stack.isLow then .recursionLimit
        else .of (.depthExceeded evaluation.maxDepth)), ⟨evaluation.maxDepth, most⟩) := by
  rw [evaluateCounting, PolicyTree.evaluateWith]
  split
  · rfl
  · exact evaluation.openReference_of_limit most

/-- Where the chains of references in a tree are within the limit, a larger limit makes no
difference.  The target of the tree is matched as that of the tree without references that can be
resolved, and the tree is evaluated as that one if there is room for all that it leads to.  Whatever
the references lead to, evaluating a tree and matching its target ends with as many open references
as it began with, and the limit is never exceeded; at the limit a reference is refused with an
error. -/
theorem references_transparent (evaluation : Evaluation m) (tree : PolicyTree) :
    (tree.WithinDepth evaluation.source evaluation.maxDepth →
      (∀ limit ≥ evaluation.maxDepth,
        { evaluation with maxDepth := limit }.evaluate tree = evaluation.evaluate tree ∧
          { evaluation with maxDepth := limit }.applies tree = evaluation.applies tree) ∧
      ∃ inlined, PolicyTree.Inlines evaluation.source tree inlined ∧
        (∀ other, PolicyTree.Inlines evaluation.source tree other → other = inlined) ∧
        (∀ target ∈ inlined.references,
          ∃ error, evaluation.source.resolve target = .error error) ∧
        evaluation.applies tree = evaluation.applies inlined ∧
        (evaluation.stack.Holds (evaluation.depths tree) →
          evaluation.evaluate tree = evaluation.evaluate inlined)) ∧
    (∀ steps > evaluation.maxDepth, ∀ now ≤ evaluation.maxDepth,
      EndsLike evaluation.maxDepth now _ (evaluation.evaluateCounting steps tree)
          (tree.evaluateWith evaluation.facade (evaluation.follow (evaluation.maxDepth - now))
            evaluation.stack) ∧
        EndsLike evaluation.maxDepth now _ (evaluation.appliesCounting steps tree)
          (tree.appliesWith evaluation.facade (evaluation.follow (evaluation.maxDepth - now)))) ∧
    ∀ (steps most : Nat) (target : PolicyReference),
      let error : EvaluationError := .of (.depthExceeded evaluation.maxDepth)
      (evaluation.evaluateCounting (steps + 1) (.reference target)).run
            ⟨evaluation.maxDepth, most⟩ =
          pure (.ofError .either (if evaluation.stack.isLow then .recursionLimit else error),
            ⟨evaluation.maxDepth, most⟩) ∧
        (evaluation.appliesCounting (steps + 1) (.reference target)).run
            ⟨evaluation.maxDepth, most⟩ =
          pure (.error error, ⟨evaluation.maxDepth, most⟩) := by
  refine ⟨fun hdepth => ⟨fun limit hlimit => ?_, ?_⟩, fun steps hsteps now hnow => ?_,
    fun steps most target => ?_⟩
  · have hlarger : tree.WithinDepth evaluation.source limit :=
      fun chain hchain => (hdepth chain hchain).trans hlimit
    exact hlarger.evaluateWith_eq evaluation.facade evaluation.stack limit evaluation.maxDepth
      hdepth evaluation.stack
  · rcases hdepth.exists_inlines with ⟨inlined, hinlined⟩
    have hdepth' := hinlined.withinDepth hdepth
    exact ⟨inlined, hinlined, fun other hother => hinlined.unique hother,
      hinlined.unresolved_references,
      hinlined.appliesWith_eq evaluation.facade evaluation.stack evaluation.maxDepth hdepth hdepth',
      hinlined.evaluateWith_eq evaluation.facade evaluation.stack evaluation.maxDepth hdepth hdepth'
        (Stack.le_refl _)⟩
  · exact evaluation.counting_endsLike hsteps hnow tree
  · exact ⟨evaluation.evaluateCounting_of_limit steps most target,
      evaluation.openReference_of_limit most⟩

end

namespace Cycle

/-- The header of a node that is about every request, and in which a Deny overrides. -/
def header : PolicyHeader :=
  ⟨"node", ⟨[1]⟩, .v3_0, none, .any, ⟨"deny-overrides", .overrides .deny⟩, [], [], []⟩

/-- A reference by an identifier alone. -/
def named (id : String) : PolicyTree :=
  .reference ⟨.policySet, id, ⟨none, none, none⟩⟩

/-- A policy set that refers to itself. -/
def loop : PolicyTree := .policySet header [⟨named "loop", []⟩]

/-- A policy with a rule that permits everything. -/
def leaf : PolicyTree :=
  .policy ⟨header, [], [⟨⟨"rule", .permit, none, none, none, [], []⟩, []⟩]⟩

/-- A source in which the policy and the policy set are found. -/
def source : PolicySource where
  find target :=
    .ok (if target.id = "loop" then some loop else if target.id = "leaf" then some leaf else none)
  roots _ := .ok []

/-- An evaluation of the empty request in which one reference may be open. -/
def evaluation (stack : Stack) : Evaluation Id :=
  ⟨⟨.empty, ⟨⟨⟨0, 0⟩, none⟩⟩, []⟩, source, 1, stack⟩

theorem withinDepth_leaf : (named "leaf").WithinDepth source 1 := by
  intro chain hchain
  cases chain with
  | nil => exact Nat.zero_le 1
  | cons target rest =>
      rcases hchain with ⟨htarget, rfl | ⟨node, hresolved, hrest⟩⟩
      · exact Nat.le_refl 1
      · rw [named, PolicyTree.references, List.mem_singleton] at htarget
        subst htarget
        cases hresolved
        cases rest with
        | nil => exact Nat.le_refl 1
        | cons target rest =>
            have hnone := hrest.1
            rw [leaf, PolicyTree.references] at hnone
            cases hnone

/-- The reference to the policy is as good as the policy, and the policy set that refers to itself
is evaluated with one reference open at most. -/
theorem references_transparent_cycle :
    (named "leaf").WithinDepth source 1 ∧
      Stack.main.Holds ((evaluation .main).depths (named "leaf")) ∧
      (∃ inlined, PolicyTree.Inlines source (named "leaf") inlined ∧
        ∀ limit ≥ 1, { evaluation .main with maxDepth := limit }.evaluate (named "leaf") =
          (evaluation .main).evaluate inlined) ∧
      EndsLike 1 0 _ ((evaluation .main).evaluateCounting 2 loop)
        ((evaluation .main).evaluate loop) ∧
      (Id.run ((evaluation .main).evaluate loop)).decision = .indeterminate .either := by
  have hroom : Stack.main.Holds ((evaluation .main).depths (named "leaf")) := by decide
  rcases (references_transparent (evaluation .main) (named "leaf")).1 withinDepth_leaf with
    ⟨hlarger, inlined, hinlined, -, -, -, heq⟩
  refine ⟨withinDepth_leaf, hroom, ⟨inlined, hinlined, fun limit h => ?_⟩, ?_, by decide⟩
  · exact (hlarger limit h).1.trans (heq hroom)
  · exact ((references_transparent (evaluation .main) loop).2.1 2 (by decide) 0 (by decide)).1

/-- Where there is room for one evaluation only, the policy is evaluated, but not the policy that
the reference stands for; and the policy set that refers to itself ends there, not at the limit. -/
theorem references_not_transparent_without_room :
    let stack : Stack := ⟨Stack.required, fun _ => 1⟩
    (named "leaf").WithinDepth source 1 ∧ PolicyTree.Inlines source (named "leaf") leaf ∧
      (Id.run ((evaluation stack).evaluate leaf)).decision = .permit ∧
      Id.run ((evaluation stack).evaluate (named "leaf")) = .ofError .either .recursionLimit ∧
      (Id.run ((evaluation stack).evaluate loop)).status =
        (Result.ofError .either .recursionLimit).status :=
  ⟨withinDepth_leaf, .resolved rfl .policy, by decide, by decide, by decide⟩

end Cycle

end Xacml
