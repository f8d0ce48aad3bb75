import Mathlib.Data.List.Count
import Xacml.Combining.Combine
import Xacml.Proofs.InTurn

/-!
# Which children are evaluated

Children are combined in their order, and only as long as the decision is open.  Here they are
computations over a world that they may change as they like, so that it matters which of them are
evaluated, and when.

* `Method.settles` says which decision of a child settles the result; the methods that evaluate
  children do so in turn up to such a decision,
* `isHopeless` says when `only-one-applicable` stops testing targets, and `Tested` how its loop
  ends, with a rule for each outcome of a test,
* `Method.combine_asks_first`: only the first children are evaluated or tested, in order, and the
  others do not matter.
-/

namespace Xacml

/-! ## Methods that evaluate children -/

namespace Method

/-- Whether the decision of a child settles the result of a method.  The method that tests targets
evaluates a child only at the end. -/
def settles : Method → Decision → Bool
  | overrides winner, decision => decision == .ofEffect winner
  | unlessOpposed fallback, decision => decision == .ofEffect fallback.opposite
  | firstApplicable, decision => decision != .notApplicable
  | onlyOneApplicable, _ => false
  | legacyOverrides winner level, decision =>
      decision == .ofEffect winner ||
        (level == .policies && winner == .deny && decision.isIndeterminate)

variable {m : Type → Type} [Monad m]

/-- The overriding loop asks in turn. -/
theorem overrides_inTurn (winner : Effect) :
    InTurn (fun result : Result => (overrides winner).settles result.decision)
      (fun child : Candidate m => child.evaluate ())
      (fun state : Tally × Seen => combineOverrides winner state.1 state.2) where
  nil state := ⟨state.1.finish (state.2.decision winner), rfl⟩
  cons state child := by
    refine ⟨fun result => (state.1.record result).finish (.ofEffect winner),
      fun result => (state.1.record result, state.2.note winner result.decision), fun rest => ?_⟩
    simp only [combineOverrides, settles, beq_iff_eq]

theorem unlessOpposed_inTurn (fallback : Effect) :
    InTurn (fun result : Result => (unlessOpposed fallback).settles result.decision)
      (fun child : Candidate m => child.evaluate ()) (combineUnlessOpposed fallback) where
  nil tally := ⟨tally.finish (.ofEffect fallback), rfl⟩
  cons tally child := by
    refine ⟨fun result => (tally.record result).finish (.ofEffect fallback.opposite),
      fun result => tally.record result, fun rest => ?_⟩
    simp only [combineUnlessOpposed, settles, beq_iff_eq]

theorem firstApplicable_inTurn :
    InTurn (fun result : Result => firstApplicable.settles result.decision)
      (fun child : Candidate m => child.evaluate ()) (fun _ : Unit => combineFirstApplicable) where
  nil _ := ⟨.notApplicable, rfl⟩
  cons _ child := by
    refine ⟨fun result => result, fun _ => (), fun rest => ?_⟩
    simp only [combineFirstApplicable, settles, bne_iff_ne, ne_eq, ite_not]

theorem legacyOverrides_inTurn (winner : Effect) (level : Level) :
    InTurn (fun result : Result => (legacyOverrides winner level).settles result.decision)
      (fun child : Candidate m => child.evaluate ())
      (fun state : Tally × LegacySeen => combineLegacyOverrides winner level state.1 state.2) where
  nil state := ⟨state.1.finish (state.2.decision winner), rfl⟩
  cons state child := by
    refine ⟨fun result => (state.1.record result).finish (.ofEffect winner),
      fun result => (state.1.record result,
        state.2.note winner level child.effect result.decision), fun rest => ?_⟩
    rw [combineLegacyOverrides]
    rfl

end Method

/-! ## The method that tests targets -/

section

variable {m : Type → Type}

/-- Whether more tests of targets cannot lead to a single applicable child: a test has failed, or a
second child applies.  `found` children have been found to apply before these tests. -/
def isHopeless (found : Nat) (tests : List (Except EvaluationError Bool)) : Bool :=
  tests.any (fun test => !test.isOk) || decide (2 ≤ found + tests.count (.ok true))

/-- The children whose targets apply, by the tests of the first ones. -/
def applicable (children : List (Candidate m)) (tests : List (Except EvaluationError Bool)) :
    List (Candidate m) :=
  (children.zip tests).filterMap fun tested =>
    if tested.2 = .ok true then some tested.1 else none

/-- Evaluates the child if there is a single one. -/
def evaluateOnly [Monad m] : List (Candidate m) → m Result
  | [child] => child.evaluate ()
  | _ => pure .notApplicable

theorem isHopeless_skip (found : Nat) (tests : List (Except EvaluationError Bool)) :
    isHopeless found (.ok false :: tests) = isHopeless found tests := by
  simp [isHopeless, Except.isOk, Except.toBool]

theorem isHopeless_count (found : Nat) (tests : List (Except EvaluationError Bool)) :
    isHopeless found (.ok true :: tests) = isHopeless (found + 1) tests := by
  simp [isHopeless, Except.isOk, Except.toBool, Nat.add_comm, Nat.add_left_comm]

theorem isHopeless_error (found : Nat) (error : EvaluationError)
    (tests : List (Except EvaluationError Bool)) :
    isHopeless found (.error error :: tests) = true := by
  simp [isHopeless, Except.isOk, Except.toBool]

theorem isHopeless_nil (found : Option (Candidate m)) :
    isHopeless found.toList.length [] = false := by
  cases found <;> rfl

end

section

variable {σ : Type}

/-- How the loop of `only-one-applicable` ends: targets are tested in turn; `last` is what is left
to do once these tests are over.  If they are hopeless, nothing is evaluated and any others may
follow; otherwise a single applicable child is evaluated. -/
structure Tested (found : Option (Candidate (StateM σ))) (children : List (Candidate (StateM σ)))
    (world : σ) (n : Nat) (tests : List (Except EvaluationError Bool)) (tested : σ)
    (last : StateM σ Result) : Prop where
  asked : Asked (isHopeless found.toList.length) (fun child => child.applies ()) children world n
    tests tested
  hopeless : isHopeless found.toList.length tests = true → ∃ result, last = pure result
  single : isHopeless found.toList.length tests = false →
    last = evaluateOnly (found.toList ++ applicable children tests)
  run : ∀ others, isHopeless found.toList.length tests = true ∨ others = [] →
    (combineOnlyOneApplicable found (children.take n ++ others)).run world = last.run tested

namespace Tested

variable {found : Option (Candidate (StateM σ))} {child : Candidate (StateM σ)}
  {rest : List (Candidate (StateM σ))} {world next tested : σ} {n : Nat}
  {test : Except EvaluationError Bool} {tests : List (Except EvaluationError Bool)}
  {result : Result} {last : StateM σ Result}

/-- There are no more children. -/
theorem nil : Tested found [] world 0 [] world (evaluateOnly found.toList) where
  asked := .none (.inr rfl)
  hopeless hyes := absurd ((isHopeless_nil found).symm.trans hyes) Bool.false_ne_true
  single _ := by rw [applicable, List.zip_nil_left, List.filterMap_nil, List.append_nil]
  run others hothers := by
    rcases hothers with hyes | rfl
    · cases (isHopeless_nil found).symm.trans hyes
    · cases found <;> rfl

/-- The test of a target ends the loop. -/
theorem stop (htest : (child.applies ()).run world = (test, next))
    (hyes : isHopeless found.toList.length [test] = true)
    (hrun : ∀ others,
      (combineOnlyOneApplicable found (child :: others)).run world = (result, next)) :
    Tested found (child :: rest) world 1 [test] next (pure result) where
  asked := .one (isHopeless_nil found) htest (.none (.inl hyes))
  hopeless _ := ⟨result, rfl⟩
  single hnot := absurd (hnot.symm.trans hyes) Bool.false_ne_true
  run others _ := hrun others

/-- The loop goes on after the test of a target, with the applicable child found so far. -/
theorem go (found' : Option (Candidate (StateM σ)))
    (htest : (child.applies ()).run world = (test, next))
    (hhopeless : ∀ tests,
      isHopeless found.toList.length (test :: tests) = isHopeless found'.toList.length tests)
    (happlicable : ∀ tests, found.toList ++ applicable (child :: rest) (test :: tests) =
      found'.toList ++ applicable rest tests)
    (hrun : ∀ others, (combineOnlyOneApplicable found (child :: others)).run world =
      (combineOnlyOneApplicable found' others).run next)
    (hrest : Tested found' rest next n tests tested last) :
    Tested found (child :: rest) world (n + 1) (test :: tests) tested last where
  asked := .one (isHopeless_nil found) htest (by simpa only [hhopeless] using hrest.asked)
  hopeless hyes := hrest.hopeless ((hhopeless tests).symm.trans hyes)
  single hnot := by rw [happlicable, ← hrest.single ((hhopeless tests).symm.trans hnot)]
  run others hothers := by
    rw [hhopeless] at hothers
    rw [List.take_succ_cons, List.cons_append, hrun, hrest.run others hothers]

end Tested

/-- What the loop comes to after the test of one target. -/
theorem run_combineOnlyOneApplicable_cons (found : Option (Candidate (StateM σ)))
    (child : Candidate (StateM σ)) (rest : List (Candidate (StateM σ))) (world : σ) :
    (combineOnlyOneApplicable found (child :: rest)).run world =
      let (test, next) := (child.applies ()).run world
      match test, found with
      | .error error, _ => (.ofError .either error, next)
      | .ok false, found => (combineOnlyOneApplicable found rest).run next
      | .ok true, some _ => (.ofError .either (.of .ambiguous), next)
      | .ok true, none => (combineOnlyOneApplicable (some child) rest).run next := by
  rw [combineOnlyOneApplicable, StateT.run_bind]
  rcases (child.applies ()).run world with ⟨error | _ | _, next⟩ <;> cases found <;> rfl

theorem combineOnlyOneApplicable_tested (found : Option (Candidate (StateM σ)))
    (children : List (Candidate (StateM σ))) (world : σ) :
    ∃ n tests tested last, Tested found children world n tests tested last := by
  induction children generalizing found world with
  | nil => exact ⟨0, [], world, _, .nil⟩
  | cons child rest ih =>
      generalize htest : (child.applies ()).run world = answer
      rcases answer with ⟨test, next⟩
      have hrun (others : List (Candidate (StateM σ))) :=
        run_combineOnlyOneApplicable_cons found child others world
      rw [htest] at hrun
      -- An error ends the loop, as does a child that applies after another one has.
      rcases test with error | _ | _
      · exact ⟨1, _, next, _, .stop htest (isHopeless_error _ error []) hrun⟩
      · rcases ih found next with ⟨n, tests, tested, last, hrest⟩
        exact ⟨n + 1, _, tested, last,
          .go found htest (isHopeless_skip _) (fun _ => by simp [applicable]) hrun hrest⟩
      · cases found with
        | some first => exact ⟨1, _, next, _, .stop htest rfl hrun⟩
        | none =>
            rcases ih (some child) next with ⟨n, tests, tested, last, hrest⟩
            exact ⟨n + 1, _, tested, last,
              .go (some child) htest (isHopeless_count 0) (fun _ => by simp [applicable]) hrun
                hrest⟩

end

/-! ## Every method -/

/-- The children that a method evaluates are the first ones, each once and in their order, up to the
first one whose decision settles the result.  The method that tests targets tests those of the first
children, up to the first error or the second applicable child, and evaluates a child only if it has
tested every target and that child alone applies.  Other children in place of those after these
would change neither the result nor the world it leaves. -/
theorem Method.combine_asks_first {σ : Type} (method : Method)
    (children : List (Candidate (StateM σ))) (world : σ) :
    match method with
    | .onlyOneApplicable =>
        ∃ n tests tested,
          Asked (isHopeless 0) (fun child => child.applies ()) children world n tests tested ∧
            (isHopeless 0 tests = true →
              ∃ result, (method.combine children).run world = (result, tested)) ∧
            (isHopeless 0 tests = false → n = children.length ∧
              (method.combine children).run world =
                (evaluateOnly (applicable children tests)).run tested) ∧
            ∀ others, (n = children.length → others = []) →
              (method.combine (children.take n ++ others)).run world =
                (method.combine children).run world
    | _ =>
        ∃ n results after result,
          Asked (fun results => results.any fun result => method.settles result.decision)
              (fun child => child.evaluate ()) children world n results after ∧
            (method.combine children).run world = (result, after) ∧
            ∀ others, (n = children.length → others = []) →
              (method.combine (children.take n ++ others)).run world =
                (method.combine children).run world := by
  cases method with
  | overrides winner => exact (overrides_inTurn winner).asks_first (.empty, .nothing) children world
  | unlessOpposed fallback => exact (unlessOpposed_inTurn fallback).asks_first .empty children world
  | firstApplicable => exact firstApplicable_inTurn.asks_first () children world
  | legacyOverrides winner level =>
      exact (legacyOverrides_inTurn winner level).asks_first (.empty, .nothing) children world
  | onlyOneApplicable =>
      rcases combineOnlyOneApplicable_tested none children world with ⟨n, tests, tested, last, h⟩
      rcases h.asked.others_irrelevant
        (fun children => (onlyOneApplicable.combine children).run world) h.run with ⟨hrun, hothers⟩
      refine ⟨n, tests, tested, h.asked, fun hyes => ?_, fun hnot => ?_, hothers⟩
      · rcases h.hopeless hyes with ⟨result, rfl⟩
        exact ⟨result, hrun⟩
      · exact ⟨h.asked.all_of_open hnot, by rw [hrun, h.single hnot]; rfl⟩

end Xacml
