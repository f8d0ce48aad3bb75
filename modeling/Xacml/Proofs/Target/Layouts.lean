import Xacml.Proofs.Target.Truth

/-!
# The two layouts of targets

A target of the earlier layout says the same as the conjunction of its sections in the current
layout, but it is read only up to the first part that does not match.  So it may report an error
where the current layout goes on and finds a part that does not match.

* `LegacyTarget.translated` are the sections as disjunctions of the current layout,
* `MatchResult.Settles` relates an outcome of the earlier layout to one of the current layout,
* `eachMatching_settles` and `firstMatching_settles` are the step from the items of the loops to the
  loops, and `AllOf.evaluate_settles` and `LegacyTarget.evaluate_settles` the step to targets,
* `evaluate_legacy_translated`: the layouts agree on what matches and on the literals, and differ
  only where the earlier one reports an error.
-/

namespace Xacml

/-! ## Outcomes -/

namespace MatchResult

/-- Whether an outcome of the current layout is the given one of the earlier layout, where for an
error there may be another error or no match. -/
inductive Settles : MatchResult → MatchResult → Prop
  | holds (literals : List Value) : Settles (holds literals) (holds literals)
  | fails : Settles fails fails
  | settled (error : EvaluationError) : Settles (indeterminate error) fails
  | unsettled (error error' : EvaluationError) :
      Settles (indeterminate error) (indeterminate error')

namespace Settles

variable {outcome outcome' : MatchResult}

theorem refl : ∀ outcome : MatchResult, Settles outcome outcome
  | MatchResult.holds literals => .holds literals
  | MatchResult.fails => .fails
  | MatchResult.indeterminate error => .unsettled error error

theorem holds_iff (h : Settles outcome outcome') (literals : List Value) :
    outcome = .holds literals ↔ outcome' = .holds literals := by
  cases h <;> simp

theorem eq_fails (h : Settles outcome outcome') (hfails : outcome = .fails) :
    outcome' = .fails := by
  subst hfails
  cases h
  rfl

theorem of_indeterminate {error : EvaluationError} (h : Settles (.indeterminate error) outcome') :
    outcome' = .fails ∨ ∃ error', outcome' = .indeterminate error' := by
  cases h with
  | settled => exact .inl rfl
  | unsettled _ error' => exact .inr ⟨error', rfl⟩

end Settles

end MatchResult

/-! ## Loops -/

section

open MatchResult

variable {α β : Type} {f g : α → Id MatchResult}

/-- After an error, what is left to say is whether some conjunct does not match. -/
theorem allMatching_settles_of_error (error first : EvaluationError) (literals : List Value)
    (items : List α) :
    Settles (.indeterminate error) (Id.run (allMatching g literals (some first) items)) := by
  induction items generalizing literals with
  | nil => exact .unsettled error first
  | cons item rest ih =>
      simp only [allMatching, Id.run_bind]
      cases Id.run (g item) with
      | holds more => exact ih _
      | fails => exact .settled error
      | indeterminate _ => exact ih _

/-- A scan of conjuncts up to the first that does not hold is settled by a scan of all of them. -/
theorem eachMatching_settles (h : ∀ item, Settles (Id.run (f item)) (Id.run (g item)))
    (literals : List Value) (items : List α) :
    Settles (Id.run (eachMatching f literals items))
      (Id.run (allMatching g literals none items)) := by
  induction items generalizing literals with
  | nil => exact .holds literals
  | cons item rest ih =>
      simp only [eachMatching, allMatching, Id.run_bind]
      have hitem := h item
      generalize Id.run (f item) = outcome at hitem
      generalize Id.run (g item) = outcome' at hitem
      cases hitem with
      | holds more => exact ih _
      | fails => exact .fails
      | settled error => exact .settled error
      | unsettled error error' => exact allMatching_settles_of_error error error' literals rest

/-- A scan of alternatives is settled by the scan of what settles them, if an error that was met
before in the second scan was also met in the first one. -/
theorem firstMatching_settles (h : ∀ item, Settles (Id.run (f item)) (Id.run (g item)))
    {error error' : Option EvaluationError} (herror : error'.isSome → error.isSome)
    (items : List α) :
    Settles (Id.run (firstMatching f error items)) (Id.run (firstMatching g error' items)) := by
  induction items generalizing error error' with
  | nil =>
      cases error with
      | some e =>
          cases error' with
          | some e' => exact .unsettled e e'
          | none => exact .settled e
      | none =>
          cases error' with
          | some _ => cases herror rfl
          | none => exact .fails
  | cons item rest ih =>
      simp only [firstMatching, Id.run_bind]
      have hitem := h item
      generalize Id.run (f item) = outcome at hitem
      generalize Id.run (g item) = outcome' at hitem
      cases hitem with
      | holds literals => exact .holds literals
      | fails => exact ih herror
      | settled e =>
          -- Only the first scan has met an error here, which the condition allows.
          exact ih fun _ => by cases error <;> rfl
      | unsettled e e' => exact ih fun _ => by cases error <;> rfl

theorem allMatching_map (make : β → α) (literals : List Value) (error : Option EvaluationError)
    (items : List β) :
    allMatching g literals error (items.map make) =
      allMatching (fun item => g (make item)) literals error items := by
  induction items generalizing literals error with
  | nil => rfl
  | cons item rest ih => simp only [List.map_cons, allMatching, ih]

end

/-! ## Targets -/

/-- The disjunctions of the current layout that stand for the sections with alternatives, in their
order. -/
def LegacyTarget.translated (target : LegacyTarget) : List AnyOf :=
  (target.sections.filter fun groups => !groups.isEmpty).map AnyOf.mk

section

variable (facade : Facade Id)

theorem AllOf.evaluate_settles (group : AllOf) :
    (Id.run (group.evaluateLegacy facade)).Settles (Id.run (group.evaluate facade)) := by
  rw [evaluateLegacy, evaluate]
  exact eachMatching_settles (fun _ => .refl _) [] group.conjuncts

theorem LegacyTarget.evaluate_settles (target : LegacyTarget) :
    (Id.run (target.evaluate facade)).Settles
      (Id.run (allMatching (AnyOf.evaluate facade) [] none target.translated)) := by
  rw [translated, allMatching_map]
  refine eachMatching_settles (fun groups => ?_) [] _
  exact firstMatching_settles (AllOf.evaluate_settles facade) id groups

/-- A target without alternatives holds like one whose sections are all passed over. -/
theorem Target.evaluate_legacy (target : LegacyTarget) :
    (Target.legacy target).evaluate facade = target.evaluate facade := by
  unfold Target.evaluate
  split
  case isTrue hany =>
    have hsections : target.sections.filter (fun groups => !groups.isEmpty) = [] := by
      rw [List.filter_eq_nil_iff]
      intro groups hmem
      simpa using List.all_eq_true.1 hany groups hmem
    rw [LegacyTarget.evaluate, hsections]
    rfl
  case isFalse => rfl

end

/-- A target of the earlier layout and its translation to the current one hold alike, with the same
literals.  If the former does not match, neither does the latter; and where the former reports an
error, the latter does not match or reports an error. -/
theorem evaluate_legacy_translated (facade : Facade Id) (target : LegacyTarget) :
    let outcome := Id.run ((Target.legacy target).evaluate facade)
    let translated := Id.run ((Target.anyOf target.translated).evaluate facade)
    (∀ literals, outcome = .holds literals ↔ translated = .holds literals) ∧
      (outcome = .fails → translated = .fails) ∧
      ∀ error, outcome = .indeterminate error →
        translated = .fails ∨ ∃ error', translated = .indeterminate error' := by
  intro outcome translated
  have hsettles : outcome.Settles translated := by
    simp only [outcome, translated, Target.evaluate_legacy, Target.evaluate_anyOf]
    exact target.evaluate_settles facade
  refine ⟨hsettles.holds_iff, hsettles.eq_fails, fun error herror => ?_⟩
  rw [herror] at hsettles
  exact hsettles.of_indeterminate

/-- The name of the subject is not known, which ends the earlier layout; the current one goes on and
finds that the subject has not the other role. -/
example :
    let subjects : List AllOf := [⟨[TwoRoles.hasName "n", TwoRoles.hasRole "owner"]⟩]
    let target : LegacyTarget := ⟨subjects, [], [], []⟩
    let facade := TwoRoles.facade "reader" "author"
    (Id.run ((Target.legacy target).evaluate facade)).truth = .unknown ∧
      Id.run ((Target.anyOf target.translated).evaluate facade) = .fails := by
  decide

end Xacml
