import Xacml.Evaluation.Tree
import Xacml.Proofs.Typing.Ending

/-!
# Overriding among rules in two editions

Earlier editions tell the errors of rules apart by the effects of the rules, the current one by
what the errors may have hidden.  Since an error of a rule can hide no other effect than that of the
rule, the two come to the same.

* `Result.withoutDetail` forgets which effects an Indeterminate decision leaves open,
* `Rule.evaluate_always`: a rule comes to its effect, to an error that may hide this effect, or to
  nothing,
* `Overridden.note` keeps what both methods have seen in step, rule by rule,
* `evaluate_earlier_alike`: a policy is evaluated alike, but for that detail, whether its algorithm
  is the earlier or the current one in which an effect overrides the other.
-/

namespace Xacml

/-! ## Results without their detail -/

/-- The decision, where all Indeterminate ones count as one. -/
def Decision.withoutDetail : Decision → Decision
  | indeterminate _ => indeterminate .either
  | decision => decision

namespace Result

/-- The result, where all Indeterminate decisions count as one. -/
def withoutDetail (result : Result) : Result :=
  { result with decision := result.decision.withoutDetail }

theorem withoutDetail_withoutDetail (result : Result) :
    result.withoutDetail.withoutDetail = result.withoutDetail := by
  rcases result with ⟨decision, _⟩
  cases decision <;> rfl

/-- Results that are alike without their detail are the same, or they are of the same error. -/
theorem eq_or_of_withoutDetail_eq {r r' : Result} (h : r.withoutDetail = r'.withoutDetail) :
    r = r' ∨ ∃ extent extent', r.decision = .indeterminate extent ∧
      r' = { r with decision := .indeterminate extent' } := by
  rcases r with ⟨d, status, obligations, advice, attributes, identifiers⟩
  rcases r' with ⟨d', status', obligations', advice', attributes', identifiers'⟩
  simp only [withoutDetail, mk.injEq] at h
  rcases h with ⟨hd, rfl, rfl, rfl, rfl, rfl⟩
  cases d <;> cases d' <;> simp_all [Decision.withoutDetail]

end Result

section

variable {m : Type → Type} [Monad m] [LawfulMonad m]

/-- Whether two computations have the same effects and, but for the detail of Indeterminate
decisions, the same result. -/
def AlikeBesidesDetail (x y : m Result) : Prop :=
  Result.withoutDetail <$> x = Result.withoutDetail <$> y

namespace AlikeBesidesDetail

omit [LawfulMonad m] in
theorem refl (x : m Result) : AlikeBesidesDetail x x :=
  rfl

theorem pure {r r' : Result} (h : r.withoutDetail = r'.withoutDetail) :
    AlikeBesidesDetail (pure r : m Result) (pure r') := by
  rw [AlikeBesidesDetail, map_pure, map_pure, h]

/-- What follows on the results of one computation may use what always holds of them. -/
theorem after {α : Type} {holds : α → Prop} {x : m α} {f g : α → m Result} (hx : Always holds x)
    (h : ∀ a, holds a → AlikeBesidesDetail (f a) (g a)) :
    AlikeBesidesDetail (x >>= f) (x >>= g) := by
  rcases hx with ⟨y, rfl⟩
  rw [AlikeBesidesDetail, map_bind, map_bind, bind_map_left, bind_map_left]
  exact bind_congr fun a => h a.1 a.2

/-- What follows on alike results may not use their detail. -/
theorem bind {x y : m Result} {f : Result → m Result} (hxy : AlikeBesidesDetail x y)
    (h : ∀ r r', r.withoutDetail = r'.withoutDetail → AlikeBesidesDetail (f r) (f r')) :
    AlikeBesidesDetail (x >>= f) (y >>= f) := by
  have hforget (z : m Result) : Result.withoutDetail <$> (z >>= f) =
      (Result.withoutDetail <$> z) >>= fun r => Result.withoutDetail <$> f r := by
    rw [map_bind, bind_map_left]
    exact bind_congr fun r => h _ _ r.withoutDetail_withoutDetail.symm
  rw [AlikeBesidesDetail, hforget, hforget, hxy]

end AlikeBesidesDetail

/-! ## What rules come to -/

/-- Whether a rule of an effect may come to a decision. -/
def Decision.IsOfRule (effect : Effect) (d : Decision) : Prop :=
  d = .ofEffect effect ∨ d = .indeterminate (.ofEffect effect) ∨ d = .notApplicable

theorem attachObligations_always (facade : Facade m) (stack : Stack)
    (obligations advice : List ObligationExpr) {result : Result} {e : Effect}
    (h : result.decision = .ofEffect e) :
    Always (fun r => r.decision.IsOfRule e)
      (attachObligations facade stack obligations advice result) := by
  unfold attachObligations
  rw [h, Decision.effect?_ofEffect]
  refine (Always.of_forall fun _ => True.intro).bind fun outcome _ => ?_
  cases outcome with
  | ok done => exact .pure (.inl rfl)
  | error error => exact .pure (.inr (.inl rfl))

/-- A rule comes to its effect, to an error that hides no other effect, or to nothing. -/
theorem Rule.evaluate_always (facade : Facade m) (stack : Stack) (rule : Rule) :
    Always (fun r => r.decision.IsOfRule rule.effect) (rule.evaluate facade stack) := by
  refine (Always.of_forall fun _ => True.intro).bind fun outcome _ => ?_
  split
  · exact attachObligations_always facade stack _ _ rfl
  · exact .pure (.inr (.inr rfl))
  · exact .pure (.inr (.inl rfl))

/-! ## Combining rules -/

/-- Whether what the current method has seen of rules is what the earlier one has seen of them. -/
structure Overridden (seen : Seen) (earlier : LegacySeen) : Prop where
  loser : earlier.loser = seen.loser
  potentialWinner : earlier.potentialWinner = seen.winnerError
  error : earlier.error = (seen.winnerError || seen.loserError)
  eitherError : seen.eitherError = false

namespace Overridden

theorem nothing : Overridden .nothing .nothing :=
  ⟨rfl, rfl, rfl, rfl⟩

/-- One rule keeps what the methods have seen in step. -/
theorem note {seen : Seen} {earlier : LegacySeen} (h : Overridden seen earlier) (winner : Effect)
    {effect : Effect} {d : Decision} (hd : d.IsOfRule effect) :
    Overridden (seen.note winner d) (earlier.note winner .rules (some effect) d) := by
  rcases h with ⟨loser, potentialWinner, error, eitherError⟩
  rcases hd with rfl | rfl | rfl
  · cases effect <;> exact ⟨rfl, potentialWinner, error, eitherError⟩
  · cases effect <;> cases winner <;> constructor <;>
      simp_all [Seen.note, LegacySeen.note, Extent.ofEffect, Extent.allows]
  · exact ⟨loser, potentialWinner, error, eitherError⟩

/-- The methods decide alike, but for the detail. -/
theorem decision {seen : Seen} {earlier : LegacySeen} (h : Overridden seen earlier)
    (winner : Effect) :
    (earlier.decision winner).withoutDetail = (seen.decision winner).withoutDetail := by
  rcases h with ⟨loser, potentialWinner, error, eitherError⟩
  rcases seen with ⟨loser, winnerError, loserError, eitherError⟩
  simp only [LegacySeen.decision, Seen.decision]
  grind [Decision.withoutDetail]

end Overridden

theorem Tally.withoutDetail_finish (tally : Tally) {d d' : Decision}
    (h : d.withoutDetail = d'.withoutDetail) :
    (tally.finish d).withoutDetail = (tally.finish d').withoutDetail := by
  cases d <;> cases d' <;> first | rfl | cases h

/-- Among rules, only the winning effect itself settles the result in earlier editions. -/
theorem settlesLegacy_rules (winner : Effect) (d : Decision) :
    settlesLegacy winner .rules d = true ↔ d = .ofEffect winner := by
  simp [settlesLegacy]

/-- Rules are combined alike: by induction on the rules, while what has been seen is in step. -/
theorem combineLegacyOverrides_alike (facade : Facade m) (stack : Stack) (winner : Effect)
    (tally : Tally) {seen : Seen} {earlier : LegacySeen} (h : Overridden seen earlier)
    (rules : List Rule) :
    AlikeBesidesDetail
      (combineLegacyOverrides winner .rules tally earlier
        (rules.map (Rule.candidate facade stack)))
      (combineOverrides winner tally seen (rules.map (Rule.candidate facade stack))) := by
  induction rules generalizing tally seen earlier with
  | nil => exact .pure (tally.withoutDetail_finish (h.decision winner))
  | cons rule rest ih =>
      refine .after (rule.evaluate_always facade stack) fun result hresult => ?_
      simp only [settlesLegacy_rules]
      split
      · exact .refl _
      · exact ih _ (h.note winner hresult)

/-! ## Policies -/

/-- A target does not look at the detail of what it is put in front of. -/
theorem underTarget_alike (facade : Facade m) (target : Target) (schema : SchemaVersion)
    {combine combine' : Unit → m Result} (h : AlikeBesidesDetail (combine ()) (combine' ())) :
    AlikeBesidesDetail (underTarget facade target schema combine)
      (underTarget facade target schema combine') := by
  refine .after (Always.of_forall fun _ => True.intro) fun outcome _ => ?_
  cases outcome with
  | holds literals => exact h
  | fails => exact .refl _
  | indeterminate error =>
      dsimp only
      split
      · exact .refl _
      · refine h.bind fun r r' hr => .pure ?_
        rcases Result.eq_or_of_withoutDetail_eq hr with rfl | ⟨extent, extent', hd, rfl⟩
        · rfl
        · simp [underError, hd, Result.withoutObligations, Result.withoutDetail,
            Decision.withoutDetail]

/-- Neither do obligations, nor the list of applicable policies. -/
theorem conclude_alike (facade : Facade m) (stack : Stack) (kind : PolicyKind)
    (header : PolicyHeader) {r r' : Result} (h : r.withoutDetail = r'.withoutDetail) :
    AlikeBesidesDetail (conclude facade stack kind header r)
      (conclude facade stack kind header r') := by
  rcases Result.eq_or_of_withoutDetail_eq h with rfl | ⟨extent, extent', hd, rfl⟩
  · exact .refl _
  · have hattach (result : Result) (hresult : result.decision.isIndeterminate = true) :
        attachObligations facade stack header.obligations header.advice result =
          pure result := by
      rw [attachObligations]
      cases hd : result.decision <;> simp_all [Decision.isIndeterminate, Decision.effect?]
    simp only [conclude]
    rw [hattach r (by rw [hd]; rfl), hattach _ rfl, pure_bind, pure_bind]
    simp only [hd, reduceCtorEq, if_false]
    exact .pure (by simp [Result.withoutDetail, Decision.withoutDetail])

/-- The policy with another algorithm for its rules. -/
def Policy.combinedBy (policy : Policy) (algorithm : Algorithm) : Policy :=
  { policy with header := { policy.header with algorithm := algorithm } }

end

/-! ## Algorithms -/

namespace Effect

/-- How the algorithms are named in which an effect overrides the other. -/
def overridesName : Effect → String
  | permit => "permit-overrides"
  | deny => "deny-overrides"

/-- The identifiers of earlier editions under which an effect overrides the other among rules. -/
def earlierOverridesIds (winner : Effect) : List String :=
  [ Level.rules.algorithmId "1.0" winner.overridesName
  , Level.rules.algorithmId "1.1" ("ordered-" ++ winner.overridesName) ]

/-- The current identifiers under which an effect overrides the other among rules. -/
def currentOverridesIds (winner : Effect) : List String :=
  [ Level.rules.algorithmId "3.0" winner.overridesName
  , Level.rules.algorithmId "3.0" ("ordered-" ++ winner.overridesName) ]

theorem exists_earlierOverrides (winner : Effect) :
    ∀ id ∈ winner.earlierOverridesIds, ∃ algorithm,
      AlgorithmRegistry.standard.find? .rules id = some algorithm ∧
        algorithm.method = .legacyOverrides winner .rules := by
  cases winner <;> decide

theorem exists_currentOverrides (winner : Effect) :
    ∀ id ∈ winner.currentOverridesIds, ∃ algorithm,
      AlgorithmRegistry.standard.find? .rules id = some algorithm ∧
        algorithm.method = .overrides winner := by
  cases winner <;> decide

end Effect

/-- Evaluating a policy with an algorithm of an earlier edition in which an effect overrides the
other among rules asks for the same attributes in the same order, and comes to the same result, but
for which effects an Indeterminate decision leaves open, as evaluating it with the current
algorithm. -/
theorem evaluate_earlier_alike {m : Type → Type} [Monad m] [LawfulMonad m] (winner : Effect) :
    ∀ id ∈ winner.earlierOverridesIds, ∀ id' ∈ winner.currentOverridesIds,
      ∃ earlier current,
        AlgorithmRegistry.standard.find? .rules id = some earlier ∧
          AlgorithmRegistry.standard.find? .rules id' = some current ∧
          ∀ (facade : Facade m) (stack : Stack) (policy : Policy),
            Result.withoutDetail <$> (policy.combinedBy earlier).evaluate facade stack =
              Result.withoutDetail <$> (policy.combinedBy current).evaluate facade stack := by
  intro id hid id' hid'
  rcases winner.exists_earlierOverrides id hid with ⟨earlier, hearlier, hmethod⟩
  rcases winner.exists_currentOverrides id' hid' with ⟨current, hcurrent, hmethod'⟩
  refine ⟨earlier, current, hearlier, hcurrent, fun facade stack policy => ?_⟩
  let candidates := policy.rules.map fun child =>
    child.element.candidate facade (stack.enter .rule)
  have hrules : candidates =
      (policy.rules.map Child.element).map (Rule.candidate facade (stack.enter .rule)) := by
    rw [List.map_map]
    rfl
  have hcombine : AlikeBesidesDetail (earlier.method.combine candidates)
      (current.method.combine candidates) := by
    rw [hmethod, hmethod', hrules]
    exact combineLegacyOverrides_alike facade _ winner .empty .nothing _
  exact (underTarget_alike facade _ _ hcombine).bind fun _ _ h => conclude_alike facade _ _ _ h

namespace FailingPermit

/-- The identifier of an earlier algorithm in which a Deny overrides. -/
def earlierId : String := Level.rules.algorithmId "1.1" "ordered-deny-overrides"

/-- The identifier of the current algorithm in which a Deny overrides. -/
def currentId : String := Level.rules.algorithmId "3.0" "deny-overrides"

/-- A rule that permits what users do whose role says so; the role has to be known. -/
def rule : Rule :=
  ⟨"rule", .permit, none, none, some (.designator ⟨⟨"subject", "role", .boolean, none⟩, true⟩),
    [], []⟩

/-- The policy of the rule. -/
def policy (algorithm : Algorithm) : Policy :=
  ⟨⟨"policy", ⟨[1]⟩, .v3_0, none, .any, algorithm, [], [], []⟩, [], [⟨rule, []⟩]⟩

/-- A request that does not tell the role. -/
def facade : Facade Id := ⟨.empty, ⟨⟨⟨0, 0⟩, none⟩⟩, []⟩

/-- The rule fails, and nothing else is decided.  The earlier algorithm leaves both effects open,
the current one only that of the rule; but for this the results are the same. -/
theorem evaluate_failing_alike :
    earlierId ∈ Effect.deny.earlierOverridesIds ∧ currentId ∈ Effect.deny.currentOverridesIds ∧
      (Id.run ((policy ⟨earlierId, .legacyOverrides .deny .rules⟩).evaluate
          facade .main)).withoutDetail =
        (Id.run ((policy ⟨currentId, .overrides .deny⟩).evaluate facade .main)).withoutDetail ∧
      (Id.run ((policy ⟨earlierId, .legacyOverrides .deny .rules⟩).evaluate
          facade .main)).decision = .indeterminate .either ∧
      (Id.run ((policy ⟨currentId, .overrides .deny⟩).evaluate facade .main)).decision =
        .indeterminate .permit := by
  have hearlierId : earlierId ∈ Effect.deny.earlierOverridesIds := by decide
  have hcurrentId : currentId ∈ Effect.deny.currentOverridesIds := by decide
  rcases evaluate_earlier_alike (m := Id) .deny earlierId hearlierId currentId hcurrentId with
    ⟨earlier, current, hearlier, hcurrent, halike⟩
  obtain rfl : ⟨earlierId, .legacyOverrides .deny .rules⟩ = earlier := by
    exact Option.some.inj (hearlier.symm.trans (by decide)).symm
  obtain rfl : ⟨currentId, .overrides .deny⟩ = current := by
    exact Option.some.inj (hcurrent.symm.trans (by decide)).symm
  exact ⟨hearlierId, hcurrentId, halike facade .main (policy ⟨"", .firstApplicable⟩),
    by decide, by decide⟩

end FailingPermit

end Xacml
