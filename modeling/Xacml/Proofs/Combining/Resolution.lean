import Mathlib.Data.Finset.Insert
import Xacml.Combining.Combine
import Xacml.Proofs.Related

/-!
# Resolutions of errors under the overriding methods

An Indeterminate decision stands for the decisions that an evaluation might have come to without its
error.  This module shows that the overriding methods draw the exact conclusion from such children:

* `Decision.meaning` is the set of error-free decisions that a decision stands for,
* `Resolution` replaces every decision of a list by one that it stands for,
* `Effect.overriding` is the decision of an overriding method, told by which decisions occur among
  those of the children,
* `combine_overrides_exact`: the combined decision stands for what every resolution comes to, and no
  decision that stands for less does.
-/

namespace Xacml

/-! ## Meanings -/

namespace Decision

/-- The error-free decisions that a decision stands for. -/
def meaning : Decision → Finset Decision
  | indeterminate .permit => {permit, notApplicable}
  | indeterminate .deny => {deny, notApplicable}
  | indeterminate .either => {permit, deny, notApplicable}
  | decision => {decision}

theorem isIndeterminate_of_mem_meaning {d e : Decision} (h : e ∈ d.meaning) :
    e.isIndeterminate = false := by
  rcases d with _ | _ | extent | _
  case indeterminate =>
    cases extent <;> cases e <;> simp_all [meaning, isIndeterminate]
  all_goals
    obtain rfl := Finset.mem_singleton.1 h
    rfl

theorem mem_meaning_self {d : Decision} (h : d.isIndeterminate = false) : d ∈ d.meaning := by
  cases d <;> first | exact Finset.mem_singleton_self _ | simp [isIndeterminate] at h

/-- An effect that a decision stands for is the decision itself, or an error hides it. -/
theorem ofEffect_mem_meaning {d : Decision} {e : Effect} :
    ofEffect e ∈ d.meaning ↔
      d = ofEffect e ∨ d = indeterminate (.ofEffect e) ∨ d = indeterminate .either := by
  rcases d with _ | _ | extent | _
  case indeterminate => cases extent <;> cases e <;> decide
  all_goals cases e <;> decide

theorem eq_either_of_mem_meaning {d : Decision} {e : Effect} (h : ofEffect e ∈ d.meaning)
    (h' : ofEffect e.opposite ∈ d.meaning) : d = indeterminate .either := by
  rw [ofEffect_mem_meaning] at h h'
  cases e <;> grind [ofEffect, Extent.ofEffect, Effect.opposite]

/-- Only a decided effect does not leave open that nothing was applicable. -/
theorem notApplicable_mem_meaning {d : Decision} :
    notApplicable ∈ d.meaning ↔ d.effect? = none := by
  rcases d with _ | _ | extent | _
  case indeterminate => cases extent <;> decide
  all_goals decide

theorem mem_meaning_iff_eq {d e : Decision} (h : d.isIndeterminate = false) :
    e ∈ d.meaning ↔ e = d := by
  cases d <;> first | exact Finset.mem_singleton | simp [isIndeterminate] at h

theorem mem_meaning_ofEffect {d : Decision} {e : Effect} :
    d ∈ (ofEffect e).meaning ↔ d = ofEffect e :=
  mem_meaning_iff_eq (by cases e <;> rfl)

/-- An error-free decision is that of an effect, or nothing was applicable. -/
theorem eq_of_isIndeterminate {d : Decision} (h : d.isIndeterminate = false) (e : Effect) :
    d = ofEffect e ∨ d = ofEffect e.opposite ∨ d = notApplicable := by
  cases d <;> cases e <;> simp_all [isIndeterminate, ofEffect, Effect.opposite]

/-- Where one meaning is smaller than another, it lacks an effect, or it lacks that nothing was
applicable while an effect is not in doubt. -/
theorem exists_of_meaning_ssubset {d narrower : Decision} (h : narrower.meaning ⊂ d.meaning) :
    (∃ e, ofEffect e ∈ d.meaning ∧ ofEffect e ∉ narrower.meaning) ∨
      (notApplicable ∈ d.meaning ∧ notApplicable ∉ narrower.meaning ∧
        d ≠ indeterminate .either) := by
  rcases Finset.exists_of_ssubset h with ⟨x, hx, hn⟩
  rcases eq_of_isIndeterminate (isIndeterminate_of_mem_meaning hx) .permit with rfl | rfl | rfl
  · exact .inl ⟨_, hx, hn⟩
  · exact .inl ⟨_, hx, hn⟩
  · by_cases hd : d = indeterminate .either
    · -- The smaller meaning is one effect here, so the other effect is lacking.
      subst hd
      cases narrower with
      | permit => exact .inl ⟨.deny, by decide, by decide⟩
      | deny => exact .inl ⟨.permit, by decide, by decide⟩
      | indeterminate extent => cases extent <;> exact absurd (by decide) hn
      | notApplicable => exact absurd (by decide) hn
    · exact .inr ⟨hx, hn, hd⟩

/-! ## Resolving errors -/

/-- The decision that is nearest to a goal among those that a decision stands for. -/
def toward (goal d : Decision) : Decision :=
  if goal ∈ d.meaning then goal
  else if notApplicable ∈ d.meaning then notApplicable
  else d

theorem toward_mem_meaning (goal d : Decision) : toward goal d ∈ d.meaning := by
  simp only [toward]
  split
  case isTrue h => exact h
  case isFalse =>
    split
    case isTrue h => exact h
    case isFalse h =>
      -- Only a decided effect is left, and it stands for itself.
      rw [notApplicable_mem_meaning] at h
      cases d <;> first | exact Finset.mem_singleton_self _ | simp [effect?] at h

theorem toward_of_mem {goal d : Decision} (h : goal ∈ d.meaning) : toward goal d = goal :=
  if_pos h

/-- Resolving towards a goal brings in no effect but the goal. -/
theorem eq_of_toward_eq {goal d : Decision} {e : Effect} (h : toward goal d = ofEffect e)
    (hne : goal ≠ ofEffect e) : d = ofEffect e := by
  simp only [toward] at h
  split at h
  case isTrue => exact absurd h hne
  case isFalse =>
    split at h
    case isTrue => cases e <;> cases h
    case isFalse => exact h

end Decision

/-- Whether the second list puts, in place of each decision of the first one, a decision that it
stands for. -/
def Resolution (ds es : List Decision) : Prop :=
  List.Forall₂ (fun d e => e ∈ d.meaning) ds es

namespace Resolution

variable {ds es : List Decision}

theorem exists_source (h : Resolution ds es) {e : Decision} (he : e ∈ es) :
    ∃ d ∈ ds, e ∈ d.meaning :=
  exists_left_of_forall₂ h he

/-- A decision of every list that stands for itself alone stays in every resolution. -/
theorem ofEffect_mem (h : Resolution ds es) {e : Effect} (he : Decision.ofEffect e ∈ ds) :
    Decision.ofEffect e ∈ es := by
  rcases exists_right_of_forall₂ h he with ⟨target, ht, hm⟩
  rwa [Decision.mem_meaning_ofEffect.1 hm] at ht

theorem isIndeterminate (h : Resolution ds es) {e : Decision} (he : e ∈ es) :
    e.isIndeterminate = false := by
  rcases h.exists_source he with ⟨d, _, hm⟩
  exact Decision.isIndeterminate_of_mem_meaning hm

theorem map_toward (goal : Decision) (ds : List Decision) :
    Resolution ds (ds.map (Decision.toward goal)) :=
  List.forall₂_map_right_iff.2
    (List.forall₂_same.2 fun d _ => Decision.toward_mem_meaning goal d)

end Resolution

/-! ## The loop of an overriding method -/

/-- The decision of an overriding method, told by which decisions occur among those of the
children. -/
def Effect.overriding (winner : Effect) (ds : List Decision) : Decision :=
  let wins := Decision.ofEffect winner
  let loses := Decision.ofEffect winner.opposite
  let mayWin := Decision.indeterminate (.ofEffect winner)
  let mayLose := Decision.indeterminate (.ofEffect winner.opposite)
  let either := Decision.indeterminate .either
  if wins ∈ ds then wins
  else if either ∈ ds ∨ mayWin ∈ ds ∧ (mayLose ∈ ds ∨ loses ∈ ds) then either
  else if mayWin ∈ ds then mayWin
  else if loses ∈ ds then loses
  else if mayLose ∈ ds then mayLose
  else .notApplicable

@[simp] theorem Tally.finish_decision (tally : Tally) (decision : Decision) :
    (tally.finish decision).decision = decision := by
  cases decision <;> rfl

namespace Seen

/-- Whether the flags tell which decisions occur in a list in which no child wins. -/
structure Records (seen : Seen) (winner : Effect) (ds : List Decision) : Prop where
  wins : Decision.ofEffect winner ∉ ds
  loser : seen.loser = true ↔ Decision.ofEffect winner.opposite ∈ ds
  winnerError : seen.winnerError = true ↔ Decision.indeterminate (.ofEffect winner) ∈ ds
  loserError :
    seen.loserError = true ↔ Decision.indeterminate (.ofEffect winner.opposite) ∈ ds
  eitherError : seen.eitherError = true ↔ Decision.indeterminate .either ∈ ds

theorem records_nothing (winner : Effect) : nothing.Records winner [] := by
  constructor <;> simp [nothing]

/-- One round of the loop keeps the flags in step with the decisions seen. -/
theorem Records.note {seen : Seen} {winner : Effect} {ds : List Decision}
    (h : seen.Records winner ds) {d : Decision} (hd : d ≠ .ofEffect winner) :
    (seen.note winner d).Records winner (ds ++ [d]) := by
  rcases h with ⟨wins, loser, winnerError, loserError, eitherError⟩
  rcases d with _ | _ | extent | _
  case indeterminate =>
    cases extent <;> cases winner <;> constructor <;>
      simp_all [Seen.note, Extent.allows, Extent.ofEffect, Effect.opposite, Decision.ofEffect]
  all_goals
    cases winner <;> constructor <;>
      simp_all [Seen.note, Effect.opposite, Decision.ofEffect]

/-- The flags decide as the decisions that they stand for. -/
theorem Records.decision_eq {seen : Seen} {winner : Effect} {ds : List Decision}
    (h : seen.Records winner ds) : seen.decision winner = winner.overriding ds := by
  simp only [Seen.decision, Effect.overriding, if_neg h.wins, Bool.or_eq_true, Bool.and_eq_true,
    h.loser, h.winnerError, h.loserError, h.eitherError]

end Seen

/-- The decisions of children. -/
def decisionsOf (children : List (Candidate Id)) : List Decision :=
  children.map fun child => (Id.run (child.evaluate ())).decision

/-- A child that has a decision and contributes nothing else. -/
def Candidate.decided (d : Decision) : Candidate Id where
  evaluate := fun _ => pure (.ofDecision d)
  applies := fun _ => pure (.ok true)
  effect := none

@[simp] theorem decisionsOf_decided (ds : List Decision) :
    decisionsOf (ds.map Candidate.decided) = ds := by
  simp [decisionsOf, Candidate.decided, Result.ofDecision, Function.comp_def]

/-- The loop decides by the decisions seen before it and those of its children. -/
theorem combineOverrides_decision {winner : Effect} {seen : Seen} {ds : List Decision}
    (h : seen.Records winner ds) (tally : Tally) (children : List (Candidate Id)) :
    (Id.run (combineOverrides winner tally seen children)).decision =
      winner.overriding (ds ++ decisionsOf children) := by
  induction children generalizing seen ds tally with
  | nil =>
      simpa [combineOverrides, decisionsOf] using h.decision_eq
  | cons child rest ih =>
      let result := Id.run (child.evaluate ())
      have hstep :
          Id.run (combineOverrides winner tally seen (child :: rest)) =
            if result.decision = .ofEffect winner then
              (tally.record result).finish (.ofEffect winner)
            else
              Id.run (combineOverrides winner (tally.record result)
                (seen.note winner result.decision) rest) := by
        simp only [combineOverrides, Id.run_bind, apply_ite Id.run, Id.run_pure, result]
      have hds : ds ++ decisionsOf (child :: rest) =
          (ds ++ [result.decision]) ++ decisionsOf rest := by
        simp [decisionsOf, result]
      rw [hstep, hds]
      by_cases hd : result.decision = .ofEffect winner
      · simp [hd, Effect.overriding]
      · rw [if_neg hd]
        exact ih (h.note hd) _

/-- The decision that a method comes to. -/
def Method.decisionOn (method : Method) (children : List (Candidate Id)) : Decision :=
  (Id.run (method.combine children)).decision

/-- An overriding method decides by which decisions its children have. -/
theorem decisionOn_overrides (winner : Effect) (children : List (Candidate Id)) :
    (Method.overrides winner).decisionOn children = winner.overriding (decisionsOf children) :=
  combineOverrides_decision (Seen.records_nothing winner) .empty children

/-! ## What the combined decision stands for -/

namespace Effect

variable {winner : Effect} {ds es : List Decision}

theorem exists_mem_meaning {e : Effect} :
    (∃ d ∈ ds, Decision.ofEffect e ∈ d.meaning) ↔
      Decision.ofEffect e ∈ ds ∨ Decision.indeterminate (.ofEffect e) ∈ ds ∨
        Decision.indeterminate .either ∈ ds := by
  simp only [Decision.ofEffect_mem_meaning]
  grind

/-- The winning effect comes out if a child may have decided it. -/
theorem winner_mem_meaning_overriding :
    Decision.ofEffect winner ∈ (winner.overriding ds).meaning ↔
      ∃ d ∈ ds, Decision.ofEffect winner ∈ d.meaning := by
  rw [exists_mem_meaning, Decision.ofEffect_mem_meaning]
  simp only [overriding]
  cases winner <;> grind [Decision.ofEffect, Extent.ofEffect, Effect.opposite]

/-- The other effect comes out if a child may have decided it and none has decided the winning
one. -/
theorem loser_mem_meaning_overriding :
    Decision.ofEffect winner.opposite ∈ (winner.overriding ds).meaning ↔
      Decision.ofEffect winner ∉ ds ∧
        ∃ d ∈ ds, Decision.ofEffect winner.opposite ∈ d.meaning := by
  rw [exists_mem_meaning, Decision.ofEffect_mem_meaning]
  simp only [overriding]
  cases winner <;> grind [Decision.ofEffect, Extent.ofEffect, Effect.opposite]

/-- Nothing may turn out to be applicable unless the winning effect is decided, or the other one is
while the winning one is not in doubt. -/
theorem notApplicable_mem_meaning_overriding :
    Decision.notApplicable ∈ (winner.overriding ds).meaning ↔
      Decision.ofEffect winner ∉ ds ∧
        (Decision.ofEffect winner.opposite ∈ ds →
          ∃ d ∈ ds, Decision.ofEffect winner ∈ d.meaning) := by
  rw [exists_mem_meaning, Decision.notApplicable_mem_meaning]
  simp only [overriding]
  cases winner <;> grind [Decision.ofEffect, Extent.ofEffect, Effect.opposite, Decision.effect?]

/-- Without errors, the winning effect comes first, then the other one. -/
theorem overriding_of_errorFree (winner : Effect) (h : ∀ e ∈ es, e.isIndeterminate = false) :
    (Decision.ofEffect winner ∈ es ∧ winner.overriding es = .ofEffect winner) ∨
      (Decision.ofEffect winner ∉ es ∧ Decision.ofEffect winner.opposite ∈ es ∧
        winner.overriding es = .ofEffect winner.opposite) ∨
      (Decision.ofEffect winner ∉ es ∧ Decision.ofEffect winner.opposite ∉ es ∧
        winner.overriding es = .notApplicable) := by
  have hnone (extent : Extent) : Decision.indeterminate extent ∉ es := by
    intro he
    simpa [Decision.isIndeterminate] using h _ he
  by_cases hw : Decision.ofEffect winner ∈ es
  · exact .inl ⟨hw, by simp [overriding, hw]⟩
  · by_cases hl : Decision.ofEffect winner.opposite ∈ es
    · exact .inr (.inl ⟨hw, hl, by simp [overriding, hw, hl, hnone]⟩)
    · exact .inr (.inr ⟨hw, hl, by simp [overriding, hw, hl, hnone]⟩)

/-! ## Soundness and tightness -/

/-- What a resolution comes to is one of the decisions that the combined decision stands for. -/
theorem overriding_mem_meaning (h : Resolution ds es) :
    winner.overriding es ∈ (winner.overriding ds).meaning := by
  have hkeep {e : Effect} (he : Decision.ofEffect e ∈ ds) : Decision.ofEffect e ∈ es :=
    h.ofEffect_mem he
  rcases overriding_of_errorFree winner fun e he => h.isIndeterminate he with
    ⟨hw, heq⟩ | ⟨hw, hl, heq⟩ | ⟨hw, hl, heq⟩
  · rw [heq, winner_mem_meaning_overriding]
    exact h.exists_source hw
  · rw [heq, loser_mem_meaning_overriding]
    exact ⟨mt hkeep hw, h.exists_source hl⟩
  · rw [heq, notApplicable_mem_meaning_overriding]
    exact ⟨mt hkeep hw, fun hd => absurd (hkeep hd) hl⟩

/-- Resolving towards a goal brings in no effect but the goal. -/
theorem not_mem_map_toward {goal : Decision} {e : Effect} (h : Decision.ofEffect e ∉ ds)
    (hne : goal ≠ .ofEffect e) : Decision.ofEffect e ∉ ds.map (Decision.toward goal) := by
  intro hmem
  rcases List.mem_map.1 hmem with ⟨d, hd, heq⟩
  exact h (Decision.eq_of_toward_eq heq hne ▸ hd)

theorem isIndeterminate_of_mem_map_toward (goal : Decision) :
    ∀ e ∈ ds.map (Decision.toward goal), e.isIndeterminate = false :=
  fun _ he => (Resolution.map_toward goal ds).isIndeterminate he

theorem winner_attained (h : Decision.ofEffect winner ∈ (winner.overriding ds).meaning) :
    winner.overriding (ds.map (Decision.toward (.ofEffect winner))) = .ofEffect winner := by
  rcases winner_mem_meaning_overriding.1 h with ⟨d, hd, hm⟩
  have hmem : Decision.ofEffect winner ∈ ds.map (Decision.toward (.ofEffect winner)) :=
    List.mem_map.2 ⟨d, hd, Decision.toward_of_mem hm⟩
  simp [overriding, hmem]

theorem loser_attained
    (h : Decision.ofEffect winner.opposite ∈ (winner.overriding ds).meaning) :
    winner.overriding (ds.map (Decision.toward (.ofEffect winner.opposite))) =
      .ofEffect winner.opposite := by
  rcases loser_mem_meaning_overriding.1 h with ⟨hwins, d, hd, hm⟩
  have hne : Decision.ofEffect winner.opposite ≠ .ofEffect winner := by
    cases winner <;> decide
  have hmem : Decision.ofEffect winner.opposite ∈
      ds.map (Decision.toward (.ofEffect winner.opposite)) :=
    List.mem_map.2 ⟨d, hd, Decision.toward_of_mem hm⟩
  rcases overriding_of_errorFree winner (isIndeterminate_of_mem_map_toward _) with
    ⟨hw, _⟩ | ⟨_, _, heq⟩ | ⟨_, hl, _⟩
  · exact absurd hw (not_mem_map_toward hwins hne)
  · exact heq
  · exact absurd hmem hl

theorem notApplicable_attained
    (h : Decision.notApplicable ∈ (winner.overriding ds).meaning)
    (hne : winner.overriding ds ≠ .indeterminate .either) :
    winner.overriding (ds.map (Decision.toward .notApplicable)) = .notApplicable := by
  rcases notApplicable_mem_meaning_overriding.1 h with ⟨hwins, herror⟩
  have hloses : Decision.ofEffect winner.opposite ∉ ds := by
    intro hl
    -- A decided effect beside an error about the winning one leaves both effects open.
    have hself : Decision.ofEffect winner.opposite ∈
        (Decision.ofEffect winner.opposite).meaning :=
      Decision.ofEffect_mem_meaning.2 (.inl rfl)
    exact hne (Decision.eq_either_of_mem_meaning
      (winner_mem_meaning_overriding.2 (herror hl))
      (loser_mem_meaning_overriding.2 ⟨hwins, _, hl, hself⟩))
  have hnever (e : Effect) : Decision.notApplicable ≠ .ofEffect e := by
    cases e <;> decide
  rcases overriding_of_errorFree winner (isIndeterminate_of_mem_map_toward _) with
    ⟨hw, _⟩ | ⟨_, hl, _⟩ | ⟨_, _, heq⟩
  · exact absurd hw (not_mem_map_toward hwins (hnever _))
  · exact absurd hl (not_mem_map_toward hloses (hnever _))
  · exact heq

/-- A decision that stands for less than the combined one misses what some resolution comes
to. -/
theorem exists_resolution_not_mem {narrower : Decision}
    (h : narrower.meaning ⊂ (winner.overriding ds).meaning) :
    ∃ goal, winner.overriding (ds.map (Decision.toward goal)) ∉ narrower.meaning := by
  rcases Decision.exists_of_meaning_ssubset h with ⟨e, he, hn⟩ | ⟨hna, hn, hne⟩
  · by_cases hew : e = winner
    · subst hew
      exact ⟨_, (winner_attained he).symm ▸ hn⟩
    · obtain rfl : e = winner.opposite := by
        cases e <;> cases winner <;> simp_all [Effect.opposite]
      exact ⟨_, (loser_attained he).symm ▸ hn⟩
  · exact ⟨_, (notApplicable_attained hna hne).symm ▸ hn⟩

end Effect

/-- The decision on children whose errors are resolved is one that the decision on the children
stands for, and no decision that stands for less has this property. -/
theorem combine_overrides_exact (winner : Effect) (children : List (Candidate Id)) :
    (∀ resolved : List (Candidate Id),
      Resolution (decisionsOf children) (decisionsOf resolved) →
        (Method.overrides winner).decisionOn resolved ∈
          ((Method.overrides winner).decisionOn children).meaning) ∧
    ∀ narrower : Decision,
      narrower.meaning ⊂ ((Method.overrides winner).decisionOn children).meaning →
        ∃ resolved : List (Candidate Id),
          Resolution (decisionsOf children) (decisionsOf resolved) ∧
            (Method.overrides winner).decisionOn resolved ∉ narrower.meaning := by
  simp only [decisionOn_overrides]
  constructor
  · intro resolved h
    exact Effect.overriding_mem_meaning h
  · intro narrower h
    rcases Effect.exists_resolution_not_mem h with ⟨goal, hgoal⟩
    let es := (decisionsOf children).map (Decision.toward goal)
    refine ⟨es.map Candidate.decided, ?_, ?_⟩
    · rw [decisionsOf_decided]
      exact Resolution.map_toward goal _
    · rw [decisionsOf_decided]
      exact hgoal

/-- An error that may hide a Deny leaves both effects open beside a Permit, if Deny overrides: a
Deny is one of the decisions that the combined one stands for, and Permit alone stands for too
little. -/
theorem combine_overrides_exact_hidden_deny :
    (Method.overrides .deny).decisionOn [.decided .deny, .decided .permit] ∈
        ((Method.overrides .deny).decisionOn
          [.decided (.indeterminate .deny), .decided .permit]).meaning ∧
      ∃ resolved : List (Candidate Id),
        Resolution [.indeterminate .deny, .permit] (decisionsOf resolved) ∧
          (Method.overrides .deny).decisionOn resolved ∉ Decision.permit.meaning :=
  let children : List (Candidate Id) := [.decided (.indeterminate .deny), .decided .permit]
  ⟨(combine_overrides_exact .deny children).1 _ (.cons (by decide) (.cons (by decide) .nil)),
    (combine_overrides_exact .deny children).2 .permit (by decide)⟩

end Xacml
