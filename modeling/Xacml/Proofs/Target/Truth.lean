import Xacml.Proofs.Kleene
import Xacml.Target.Matching

/-!
# The truth of targets

Matching a target of the current layout has the outcome that three-valued logic gives its
conjunctions and disjunctions, where the truth of a part that fails is unknown.

* `Match.truth`, `AllOf.truth` and `AnyOf.truth` are the truth values of the parts of a target,
* `firstMatching_truth` and `allMatching_truth` say so for the loops, from any error that was met
  before, and `firstMatching_literals` and `allMatching_literals` which literals they report,
* `Match.Rearranged`, `AllOf.Rearranged` and `AnyOf.Rearranged` put the parts of a target and the
  members of the bags that are looked up into another order,
* `evaluate_anyOf_truth`: a target has the outcome of its truth value, reports the literals of the
  first alternative that holds in each disjunction, and may be rearranged.
-/

namespace Xacml

/-! ## Outcomes -/

namespace MatchResult

/-- The truth value of an outcome. -/
def truth : MatchResult → Kleene
  | holds _ => .yes
  | fails => .no
  | indeterminate _ => .unknown

/-- The literals that are reported. -/
def literals : MatchResult → List Value
  | holds values => values
  | _ => []

/-- The outcome of a comparison, which reports a literal if it holds. -/
def ofComparison (literal : Value) : Except EvaluationError Bool → MatchResult
  | .ok true => holds [literal]
  | .ok false => fails
  | .error error => indeterminate error

theorem truth_ofComparison (literal : Value) (outcome : Except EvaluationError Bool) :
    (ofComparison literal outcome).truth = .ofExcept outcome := by
  rcases outcome with _ | _ | _ <;> rfl

end MatchResult

/-! ## Loops -/

section

variable {α : Type} (f : α → Id MatchResult)

/-- The truth value of an item. -/
def truthOf (item : α) : Kleene :=
  (Id.run (f item)).truth

/-- An alternative that holds outranks an error that was met before. -/
theorem firstMatching_truth (error : Option EvaluationError) (items : List α) :
    (Id.run (firstMatching f error items)).truth =
      (MatchResult.orError error .fails).truth.or (.any (items.map (truthOf f))) := by
  induction items generalizing error with
  | nil => cases error <;> rfl
  | cons item rest ih =>
      simp only [firstMatching, Id.run_bind, List.map_cons, Kleene.any_cons, truthOf]
      cases Id.run (f item) with
      | holds literals => cases error <;> rfl
      | fails =>
          rw [MatchResult.truth, Kleene.no_or]
          exact ih error
      | indeterminate e =>
          have herror : (MatchResult.orError (error.or (some e)) .fails).truth =
              (MatchResult.orError error .fails).truth.or .unknown := by
            cases error <;> rfl
          rw [MatchResult.truth, ← Kleene.or_assoc, ← herror]
          exact ih _

/-- Only the first alternative that holds is reported. -/
theorem firstMatching_literals (error : Option EvaluationError) (items : List α) :
    (Id.run (firstMatching f error items)).literals =
      (items.find? fun item => truthOf f item = .yes).toList.flatMap
        fun item => (Id.run (f item)).literals := by
  induction items generalizing error with
  | nil => cases error <;> rfl
  | cons item rest ih =>
      rw [firstMatching, Id.run_bind, List.find?_cons]
      have htruth : truthOf f item = (Id.run (f item)).truth := rfl
      generalize h : Id.run (f item) = outcome at htruth
      cases outcome with
      | holds literals =>
          rw [decide_eq_true (p := truthOf f item = .yes) htruth]
          simp [h, MatchResult.literals]
      | fails =>
          rw [decide_eq_false (by rw [htruth]; decide)]
          exact ih error
      | indeterminate e =>
          rw [decide_eq_false (by rw [htruth]; exact Kleene.noConfusion)]
          exact ih _

/-- A conjunct that does not hold outranks an error that was met before. -/
theorem allMatching_truth (literals : List Value) (error : Option EvaluationError)
    (items : List α) :
    (Id.run (allMatching f literals error items)).truth =
      (MatchResult.orError error (.holds literals)).truth.and
        (.all (items.map (truthOf f))) := by
  induction items generalizing literals error with
  | nil => cases error <;> rfl
  | cons item rest ih =>
      simp only [allMatching, Id.run_bind, List.map_cons, Kleene.all_cons, truthOf]
      cases Id.run (f item) with
      | holds more =>
          have herror : (MatchResult.orError error (.holds literals)).truth =
              (MatchResult.orError error (.holds (literals ++ more))).truth := by
            cases error <;> rfl
          rw [MatchResult.truth, Kleene.yes_and, herror]
          exact ih _ error
      | fails => cases error <;> rfl
      | indeterminate e =>
          have herror : (MatchResult.orError (error.or (some e)) (.holds literals)).truth =
              (MatchResult.orError error (.holds literals)).truth.and .unknown := by
            cases error <;> rfl
          rw [MatchResult.truth, ← Kleene.and_assoc, ← herror]
          exact ih _ _

/-- If all conjuncts hold, their literals are reported in their order. -/
theorem allMatching_literals (literals : List Value) {items : List α}
    (h : ∀ item ∈ items, truthOf f item = .yes) :
    Id.run (allMatching f literals none items) =
      .holds (literals ++ items.flatMap fun item => (Id.run (f item)).literals) := by
  induction items generalizing literals with
  | nil => simp [allMatching, MatchResult.orError]
  | cons item rest ih =>
      rw [List.forall_mem_cons] at h
      simp only [allMatching, Id.run_bind]
      cases hitem : Id.run (f item) with
      | holds more =>
          rw [ih _ h.2]
          simp [hitem, MatchResult.literals]
      | fails => simp [truthOf, hitem, MatchResult.truth] at h
      | indeterminate e => simp [truthOf, hitem, MatchResult.truth] at h

end

/-! ## Parts of targets -/

/-- The truth value of a match: that its function holds of its literal and one of the values. -/
def Match.truth (facade : Facade Id) (mt : Match) : Kleene :=
  match Id.run (facade.look mt.lookup) with
  | .ok bag => .any (bag.members.map fun value => .ofExcept (mt.holdsOf value))
  | .error _ => .unknown

/-- The truth value of a conjunction. -/
def AllOf.truth (facade : Facade Id) (group : AllOf) : Kleene :=
  .all (group.conjuncts.map (Match.truth facade))

/-- The truth value of a disjunction. -/
def AnyOf.truth (facade : Facade Id) (group : AnyOf) : Kleene :=
  .any (group.disjuncts.map (AllOf.truth facade))

/-- A match tries the values as alternatives. -/
theorem Match.compare_eq (mt : Match) (error : Option EvaluationError) (values : List Value) :
    mt.compare error values =
      Id.run (firstMatching (m := Id)
        (fun value => pure (.ofComparison mt.value (mt.holdsOf value))) error values) := by
  induction values generalizing error with
  | nil => rfl
  | cons value rest ih =>
      simp only [compare, firstMatching, Id.run_bind, Id.run_pure]
      rcases mt.holdsOf value with e | _ | _
      · exact ih _
      · exact ih _
      · rfl

theorem Match.compare_literals {mt : Match} {error : Option EvaluationError}
    {values : List Value} (h : (mt.compare error values).truth = .yes) :
    (mt.compare error values).literals = [mt.value] := by
  induction values generalizing error with
  | nil => cases error <;> cases h
  | cons value rest ih =>
      rw [compare] at h ⊢
      generalize mt.holdsOf value = outcome at h ⊢
      rcases outcome with e | _ | _
      · exact ih h
      · exact ih h
      · rfl

section

variable (facade : Facade Id)

theorem Match.evaluate_truth (mt : Match) :
    truthOf (Match.evaluate facade) mt = mt.truth facade := by
  simp only [truthOf, Match.evaluate, Id.run_bind, Match.truth]
  cases Id.run (facade.look mt.lookup) with
  | error error => rfl
  | ok bag =>
      have htruth : truthOf (fun value =>
          (pure (.ofComparison mt.value (mt.holdsOf value)) : Id MatchResult)) =
          fun value => .ofExcept (mt.holdsOf value) :=
        funext fun value => MatchResult.truth_ofComparison mt.value (mt.holdsOf value)
      dsimp only
      rw [Id.run_pure, compare_eq, firstMatching_truth, htruth]
      exact Kleene.no_or _

theorem Match.evaluate_literals {mt : Match} (h : mt.truth facade = .yes) :
    (Id.run (mt.evaluate facade)).literals = [mt.value] := by
  rw [← evaluate_truth] at h
  simp only [truthOf, Match.evaluate, Id.run_bind] at h ⊢
  cases hlook : Id.run (facade.look mt.lookup) with
  | error error =>
      rw [hlook] at h
      cases h
  | ok bag =>
      rw [hlook] at h
      exact compare_literals h

theorem AllOf.evaluate_truth (group : AllOf) :
    truthOf (AllOf.evaluate facade) group = group.truth facade := by
  rw [truthOf, AllOf.evaluate, allMatching_truth, funext (Match.evaluate_truth facade)]
  exact Kleene.yes_and _

theorem AllOf.evaluate_literals {group : AllOf} (h : group.truth facade = .yes) :
    (Id.run (group.evaluate facade)).literals = group.conjuncts.map Match.value := by
  have hall : ∀ mt ∈ group.conjuncts, mt.truth facade = .yes := by
    intro mt hmt
    exact Kleene.all_eq_yes_iff.1 h _ (List.mem_map_of_mem hmt)
  rw [AllOf.evaluate, allMatching_literals _ _ fun mt hmt =>
    (Match.evaluate_truth facade mt).trans (hall mt hmt)]
  rw [MatchResult.literals, List.nil_append, List.map_eq_flatMap]
  exact List.flatMap_congr fun mt hmt => Match.evaluate_literals facade (hall mt hmt)

theorem AnyOf.evaluate_truth (group : AnyOf) :
    truthOf (AnyOf.evaluate facade) group = group.truth facade := by
  rw [truthOf, AnyOf.evaluate, firstMatching_truth, funext (AllOf.evaluate_truth facade)]
  exact Kleene.no_or _

/-- The literals of the first alternative that holds. -/
def AnyOf.literals (group : AnyOf) : List Value :=
  (group.disjuncts.find? fun alternative => alternative.truth facade = .yes).toList.flatMap
    fun alternative => alternative.conjuncts.map Match.value

theorem AnyOf.evaluate_literals (group : AnyOf) :
    (Id.run (group.evaluate facade)).literals = group.literals facade := by
  rw [AnyOf.evaluate, firstMatching_literals, funext (AllOf.evaluate_truth facade), AnyOf.literals]
  refine List.flatMap_congr fun alternative h => AllOf.evaluate_literals facade ?_
  rw [Option.mem_toList] at h
  simpa using List.find?_some h

/-- An empty target holds like an empty conjunction. -/
theorem Target.evaluate_anyOf (conjuncts : List AnyOf) :
    (Target.anyOf conjuncts).evaluate facade =
      allMatching (AnyOf.evaluate facade) [] none conjuncts := by
  cases conjuncts <;> rfl

theorem Target.evaluate_truth (conjuncts : List AnyOf) :
    (Id.run ((Target.anyOf conjuncts).evaluate facade)).truth =
      .all (conjuncts.map (AnyOf.truth facade)) := by
  rw [evaluate_anyOf, allMatching_truth, funext (AnyOf.evaluate_truth facade)]
  exact Kleene.yes_and _

end

/-! ## Rearranged targets -/

/-- Whether a lookup has the same values in two evaluations, in whichever order, or fails in
both. -/
inductive LooksUpAlike : Except EvaluationError Bag → Except EvaluationError Bag → Prop
  | ok {bag bag' : Bag} (perm : bag.members.Perm bag'.members) : LooksUpAlike (.ok bag) (.ok bag')
  | error (e e' : EvaluationError) : LooksUpAlike (.error e) (.error e')

section

variable (facade facade' : Facade Id)

/-- Whether two matches compare the same literal with the same values, in whichever order these
are looked up. -/
structure Match.Rearranged (mt mt' : Match) : Prop where
  function : mt.function = mt'.function
  value : mt.value = mt'.value
  look : LooksUpAlike (Id.run (facade.look mt.lookup)) (Id.run (facade'.look mt'.lookup))

/-- Whether two conjunctions have the same matches, in whichever order. -/
def AllOf.Rearranged (group group' : AllOf) : Prop :=
  Xacml.Rearranged (Match.Rearranged facade facade') group.conjuncts group'.conjuncts

/-- Whether two disjunctions have the same alternatives, in whichever order. -/
def AnyOf.Rearranged (group group' : AnyOf) : Prop :=
  Xacml.Rearranged (AllOf.Rearranged facade facade') group.disjuncts group'.disjuncts

variable {facade facade'}

theorem Match.Rearranged.truth_eq {mt mt' : Match} (h : mt.Rearranged facade facade' mt') :
    mt.truth facade = mt'.truth facade' := by
  have hholds : mt.holdsOf = mt'.holdsOf := by
    funext value
    rw [holdsOf, holdsOf, h.function, h.value]
  have hlook := h.look
  rw [truth, truth]
  generalize Id.run (facade.look mt.lookup) = found at hlook ⊢
  generalize Id.run (facade'.look mt'.lookup) = found' at hlook ⊢
  cases hlook with
  | ok perm =>
      rw [hholds]
      exact Kleene.any_perm (perm.map _)
  | error e e' => rfl

theorem AllOf.Rearranged.truth_eq {group group' : AllOf}
    (h : group.Rearranged facade facade' group') : group.truth facade = group'.truth facade' :=
  Kleene.all_rearranged h fun _ _ hmatch => hmatch.truth_eq

theorem AnyOf.Rearranged.truth_eq {group group' : AnyOf}
    (h : group.Rearranged facade facade' group') : group.truth facade = group'.truth facade' :=
  Kleene.any_rearranged h fun _ _ halternative => halternative.truth_eq

end

/-! ## Targets -/

/-- A target of the current layout has the outcome that three-valued logic gives it: the conjunction
of disjunctions of conjunctions of matches, each of which is a disjunction over the values that are
looked up and unknown if that fails.  If it holds, it reports the literals of the first alternative
that holds in each disjunction, in their order.  Nothing of it depends on the order of the
disjunctions, the alternatives, the matches and the values. -/
theorem evaluate_anyOf_truth (facade : Facade Id) (conjuncts : List AnyOf) :
    let outcome := Id.run ((Target.anyOf conjuncts).evaluate facade)
    outcome.truth =
        .all (conjuncts.map fun group =>
          .any (group.disjuncts.map fun alternative =>
            .all (alternative.conjuncts.map fun mt => mt.truth facade))) ∧
      (outcome.truth = .yes →
        outcome = .holds (conjuncts.flatMap fun group => group.literals facade)) ∧
      ∀ (facade' : Facade Id) (conjuncts' : List AnyOf),
        Rearranged (AnyOf.Rearranged facade facade') conjuncts conjuncts' →
          (Id.run ((Target.anyOf conjuncts').evaluate facade')).truth = outcome.truth := by
  have htruth := Target.evaluate_truth facade conjuncts
  refine ⟨htruth, fun h => ?_, fun facade' conjuncts' h => ?_⟩
  · have hall : ∀ group ∈ conjuncts, truthOf (AnyOf.evaluate facade) group = .yes := by
      intro group hgroup
      rw [AnyOf.evaluate_truth]
      exact Kleene.all_eq_yes_iff.1 (htruth.symm.trans h) _ (List.mem_map_of_mem hgroup)
    rw [Target.evaluate_anyOf, allMatching_literals _ _ hall, List.nil_append,
      funext (AnyOf.evaluate_literals facade)]
  · rw [Target.evaluate_truth, Target.evaluate_truth]
    exact (Kleene.all_rearranged h fun _ _ hgroup => hgroup.truth_eq).symm

namespace TwoRoles

/-- A comparison with the roles of the subject. -/
def hasRole (role : String) : Match :=
  ⟨.ofStrict (.comparison (.equal .string)), .string role,
    .designator ⟨⟨"subject", "role", .string, none⟩, false⟩⟩

/-- A comparison with the name of the subject, which has to be known. -/
def hasName (name : String) : Match :=
  ⟨.ofStrict (.comparison (.equal .string)), .string name,
    .designator ⟨⟨"subject", "name", .string, none⟩, true⟩⟩

/-- A request by a subject of two roles that does not tell its name. -/
def facade (role role' : String) : Facade Id :=
  ⟨⟨[⟨"subject", [⟨"role", none, [.string role, .string role'], false⟩]⟩], false, false⟩,
    ⟨⟨⟨0, 0⟩, none⟩⟩, []⟩

/-- A target that asks for a reader, who besides has a certain name or is an author. -/
def target : List AnyOf :=
  [⟨[⟨[hasName "n"]⟩, ⟨[hasRole "author", hasRole "reader"]⟩]⟩, ⟨[⟨[hasRole "reader"]⟩]⟩]

/-- The same target with its parts in another order. -/
def rearranged : List AnyOf :=
  [⟨[⟨[hasRole "reader"]⟩]⟩, ⟨[⟨[hasRole "reader", hasRole "author"]⟩, ⟨[hasName "n"]⟩]⟩]

theorem hasRole_rearranged (role : String) :
    (hasRole role).Rearranged (facade "reader" "author") (facade "author" "reader")
      (hasRole role) :=
  ⟨rfl, rfl, .ok (.swap _ _ _)⟩

theorem target_rearranged :
    Rearranged (AnyOf.Rearranged (facade "reader" "author") (facade "author" "reader")) target
      rearranged := by
  have hname : (hasName "n").Rearranged (facade "reader" "author") (facade "author" "reader")
      (hasName "n") := ⟨rfl, rfl, .error _ _⟩
  have hroles := List.Forall₂.cons (hasRole_rearranged "author")
    (.cons (hasRole_rearranged "reader") .nil)
  refine ⟨rearranged.reverse, .cons ?_ (.cons ?_ .nil), .swap _ _ _⟩
  · exact ⟨_, .cons ⟨_, .cons hname .nil, .refl _⟩ (.cons ⟨_, hroles, .swap _ _ _⟩ .nil),
      .swap _ _ _⟩
  · exact ⟨_, .cons ⟨_, .cons (hasRole_rearranged "reader") .nil, .refl _⟩ .nil, .refl _⟩

/-- The target holds although the name is not known, and reports the roles in its own order.  It
also holds when its parts and the roles of the subject are rearranged. -/
theorem evaluate_anyOf_truth_roles :
    let outcome := Id.run ((Target.anyOf target).evaluate (facade "reader" "author"))
    Kleene.all (target.map (AnyOf.truth (facade "reader" "author"))) = .yes ∧
      (hasName "n").truth (facade "reader" "author") = .unknown ∧ outcome.truth = .yes ∧
      outcome = .holds [.string "author", .string "reader", .string "reader"] ∧
      (Id.run ((Target.anyOf rearranged).evaluate (facade "author" "reader"))).truth = .yes := by
  intro outcome
  rcases evaluate_anyOf_truth (facade "reader" "author") target with ⟨htruth, hholds, hsame⟩
  have hyes : outcome.truth = .yes := htruth.trans (by decide)
  exact ⟨by decide, by decide, hyes, (hholds hyes).trans (by decide),
    (hsame _ _ target_rearranged).trans hyes⟩

end TwoRoles

end Xacml
