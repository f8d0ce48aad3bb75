import Xacml.Proofs.Evaluation.Bearers
import Xacml.Proofs.Evaluation.Dependence
import Xacml.Proofs.Requests.Individual

/-!
# Combined decisions

A request may ask for one decision in place of those on its individual requests.

* `commonResult_cases` tells the three ways in which results are combined,
* `Result.Combines` says how a combined result has to depend on the individual ones,
* `DecisionPoint.SeesAlike` says that what is consulted answers two requests alike,
* `combined_decision_exact`: the combined result is that of the results which the request has where
  no combined decision is asked for.
-/

namespace Xacml

/-! ## Combined results -/

namespace Result

theorem isBurdened_eq_false_iff {result : Result} :
    result.isBurdened = false ↔ result.obligations = [] ∧ result.advice = [] := by
  simp [isBurdened]

/-- Where no effect was decided there is nothing to be done. -/
theorem WellFormed.unburdened {result : Result} (h : result.WellFormed)
    (hd : result.decision.isIndeterminate = true) :
    result.obligations = [] ∧ result.advice = [] := by
  have hnone : ∀ o : Obligation, o ∉ result.obligations ++ result.advice := by
    intro o ho
    rw [h.fulfilled o ho] at hd
    cases heffect : o.fulfillOn <;> rw [heffect] at hd <;> cases hd
  exact List.append_eq_nil_iff.1 (List.eq_nil_iff_forall_not_mem.2 hnone)

/-- Whether a result is the combination of other ones: their common decision, if they carry nothing
to be done, and otherwise an Indeterminate one, which is theirs if they agree on it. -/
structure Combines (listPolicies : Bool) (results : List Result) (combined : Result) : Prop where
  decided {d : Decision} (h : d.isIndeterminate = false) :
    combined.decision = d ↔
      ∀ result ∈ results, result.decision = d ∧ result.obligations = [] ∧ result.advice = []
  kept {extent : Extent} (h : ∀ result ∈ results, result.decision = .indeterminate extent) :
    combined.decision = .indeterminate extent ∧
      results.head?.map Result.status = some combined.status
  refused (h : combined.decision.isIndeterminate = true)
    (differ : ¬ ∃ extent, ∀ result ∈ results, result.decision = .indeterminate extent) :
    combined.decision = .indeterminate .either ∧ combined.statusCode = .processingError
  obligations : combined.obligations = []
  advice : combined.advice = []
  attributes : combined.attributes = []
  listed (h : listPolicies = true) :
    FirstOccurrences (results.flatMap Result.identifiers) combined.identifiers
  unlisted (h : listPolicies = false) : combined.identifiers = []

end Result

section

variable {α β : Type} [BEq β] [LawfulBEq β]

/-- One item is left of a list without repetitions exactly if all are equal to it. -/
theorem eraseDups_map_eq_singleton_iff {f : α → β} {list : List α} {b : β} (h : list ≠ []) :
    (list.map f).eraseDups = [b] ↔ ∀ a ∈ list, f a = b := by
  have hfirst := firstOccurrences_eraseDups (list.map f)
  constructor
  · intro heq a ha
    have hmem := hfirst.mem_iff.2 (List.mem_map_of_mem ha)
    rwa [heq, List.mem_singleton] at hmem
  · intro hall
    refine List.perm_singleton.1 ?_
    refine (List.perm_ext_iff_of_nodup hfirst.nodup (List.nodup_singleton b)).2 fun c => ?_
    rw [hfirst.mem_iff, List.mem_map, List.mem_singleton]
    constructor
    · rintro ⟨a, ha, rfl⟩
      exact hall a ha
    · rintro rfl
      rcases List.exists_mem_of_ne_nil list h with ⟨a, ha⟩
      exact ⟨a, ha, hall a ha⟩

end

section

variable {first : Result} {rest : List Result}

theorem commonResult_of_indeterminate {extent : Extent}
    (h : ∀ result ∈ first :: rest, result.decision = .indeterminate extent) :
    commonResult (first :: rest) = { first with attributes := [], identifiers := [] } := by
  unfold commonResult
  rw [(eraseDups_map_eq_singleton_iff (List.cons_ne_nil first rest)).2 h]

theorem commonResult_of_agreed {d : Decision} (hd : d.isIndeterminate = false)
    (h : ∀ result ∈ first :: rest, result.decision = d) :
    commonResult (first :: rest) =
      if (first :: rest).any Result.isBurdened then
        .ofError .either (.of (.processing .notCombinable))
      else .ofDecision d := by
  unfold commonResult
  rw [(eraseDups_map_eq_singleton_iff (List.cons_ne_nil first rest)).2 h]
  cases d with
  | indeterminate extent => cases hd
  | permit | deny | notApplicable => rfl

theorem commonResult_of_differing (h : ¬ ∃ d, ∀ result ∈ first :: rest, result.decision = d) :
    commonResult (first :: rest) = .ofError .either (.of (.processing .notCombinable)) := by
  have hmany (d : Decision) : ((first :: rest).map Result.decision).eraseDups ≠ [d] := fun heq =>
    h ⟨d, (eraseDups_map_eq_singleton_iff (List.cons_ne_nil first rest)).1 heq⟩
  unfold commonResult
  split
  case h_1 extent _ heq => exact absurd heq (hmany _)
  case h_2 heq _ => exact absurd heq (hmany _)
  case h_3 => rfl

/-- Results are combined in three ways: they agree on an Indeterminate decision, or on another one
with nothing to be done, or they cannot be combined. -/
theorem commonResult_cases (first : Result) (rest : List Result) :
    (∃ extent, (∀ result ∈ first :: rest, result.decision = .indeterminate extent) ∧
      commonResult (first :: rest) = { first with attributes := [], identifiers := [] }) ∨
    (∃ d : Decision, d.isIndeterminate = false ∧
      (∀ result ∈ first :: rest, result.decision = d ∧ result.isBurdened = false) ∧
      commonResult (first :: rest) = .ofDecision d) ∨
    ((¬ ∃ extent, ∀ result ∈ first :: rest, result.decision = .indeterminate extent) ∧
      (¬ ∃ d, ∀ result ∈ first :: rest, result.decision = d ∧ result.isBurdened = false) ∧
      commonResult (first :: rest) = .ofError .either (.of (.processing .notCombinable))) := by
  by_cases hagree : ∃ d, ∀ result ∈ first :: rest, result.decision = d
  case neg =>
    refine .inr (.inr ⟨?_, ?_, commonResult_of_differing hagree⟩)
    · exact fun ⟨extent, h⟩ => hagree ⟨_, h⟩
    · exact fun ⟨d, h⟩ => hagree ⟨d, fun result hresult => (h result hresult).1⟩
  case pos =>
    rcases hagree with ⟨d, hd⟩
    cases hind : d.isIndeterminate with
    | true =>
        cases d with
        | indeterminate extent => exact .inl ⟨extent, hd, commonResult_of_indeterminate hd⟩
        | permit | deny | notApplicable => cases hind
    | false =>
        have hcommon := commonResult_of_agreed hind hd
        by_cases hburdened : (first :: rest).any Result.isBurdened = true
        · rw [if_pos hburdened] at hcommon
          rcases List.any_eq_true.1 hburdened with ⟨result, hresult, htrue⟩
          refine .inr (.inr ⟨fun ⟨extent, h⟩ => ?_, fun ⟨d, h⟩ => ?_, hcommon⟩)
          · rw [← hd first List.mem_cons_self, h first List.mem_cons_self] at hind
            cases hind
          · rw [(h result hresult).2] at htrue
            cases htrue
        · rw [if_neg hburdened] at hcommon
          refine .inr (.inl ⟨d, hind, fun result hresult => ⟨hd result hresult, ?_⟩, hcommon⟩)
          exact Bool.eq_false_iff.2 fun h => hburdened (List.any_eq_true.2 ⟨result, hresult, h⟩)

end

/-- What is listed of a combined result does not depend on how it is decided. -/
theorem combineResults_eq (listPolicies : Bool) (first : Result) (rest : List Result) :
    combineResults listPolicies (first :: rest) =
      { commonResult (first :: rest) with
        identifiers :=
          if listPolicies then ((first :: rest).flatMap Result.identifiers).eraseDups
          else [] } := by
  cases listPolicies with
  | true => rfl
  | false =>
      rcases commonResult_cases first rest with ⟨_, -, heq⟩ | ⟨_, -, -, heq⟩ | ⟨-, -, heq⟩ <;>
        rw [combineResults, heq] <;> rfl

/-- Results in which no error leaves anything to be done are combined as they should be. -/
theorem combines_combineResults (listPolicies : Bool) {results : List Result} (hne : results ≠ [])
    (hunburdened : ∀ result ∈ results, result.decision.isIndeterminate = true →
      result.obligations = [] ∧ result.advice = []) :
    Result.Combines listPolicies results (combineResults listPolicies results) := by
  rcases List.exists_cons_of_ne_nil hne with ⟨first, rest, rfl⟩
  rw [combineResults_eq]
  have hlisted (h : listPolicies = true) :
      FirstOccurrences ((first :: rest).flatMap Result.identifiers)
        (if listPolicies then ((first :: rest).flatMap Result.identifiers).eraseDups else []) := by
    rw [if_pos h]
    exact firstOccurrences_eraseDups _
  have hunlisted (h : listPolicies = false) :
      (if listPolicies then ((first :: rest).flatMap Result.identifiers).eraseDups else []) =
        [] := by
    rw [h]
    rfl
  rcases commonResult_cases first rest with
    ⟨extent, hall, heq⟩ | ⟨d, hd, hall, heq⟩ | ⟨hdiffer, hnone, heq⟩ <;> rw [heq]
  -- The first error is kept as it is, so that it must have left nothing to be done.
  · have hfirst := hall first List.mem_cons_self
    have hne {d : Decision} (hd : d.isIndeterminate = false) : first.decision ≠ d := by
      rintro rfl
      rw [hfirst] at hd
      cases hd
    rcases hunburdened first List.mem_cons_self (by rw [hfirst]; rfl) with ⟨ho, ha⟩
    refine ⟨fun hd => ⟨fun h => absurd h (hne hd), fun h => ?_⟩, fun h => ⟨?_, rfl⟩,
      fun _ h => absurd ⟨extent, hall⟩ h, ho, ha, rfl, hlisted, hunlisted⟩
    · exact (h first List.mem_cons_self).1
    · exact h first List.mem_cons_self
  · have hfirst := (hall first List.mem_cons_self).1
    have hne {extent : Extent} : d ≠ .indeterminate extent := by
      rintro rfl
      cases hd
    refine ⟨fun _ => ⟨?_, fun h => ?_⟩, fun h => ?_, fun h => ?_, rfl, rfl, rfl, hlisted,
      hunlisted⟩
    · rintro rfl result hresult
      rcases hall result hresult with ⟨hdecision, hbare⟩
      exact ⟨hdecision, Result.isBurdened_eq_false_iff.1 hbare⟩
    · exact hfirst.symm.trans (h first List.mem_cons_self).1
    · exact absurd (hfirst.symm.trans (h first List.mem_cons_self)) hne
    · exact absurd (h.symm.trans hd) Bool.noConfusion
  · refine ⟨fun {d} hd => ⟨?_, fun h => absurd ⟨d, fun result hresult => ?_⟩ hnone⟩,
      fun {extent} h => absurd ⟨extent, h⟩ hdiffer, fun _ _ => ⟨rfl, rfl⟩, rfl, rfl, rfl, hlisted,
      hunlisted⟩
    · rintro rfl
      cases hd
    · exact ⟨(h result hresult).1, Result.isBurdened_eq_false_iff.2 (h result hresult).2⟩

/-! ## Combined requests -/

namespace DecisionPoint

section

variable {m : Type → Type} [Monad m]

/-- Whether whatever a decision point consults answers two requests alike. -/
structure SeesAlike (point : DecisionPoint m) (request request' : Request) : Prop where
  roots : point.source.roots request = point.source.roots request'
  find : ∀ resolver ∈ point.resolvers, ∀ query,
    resolver.find query request = resolver.find query request'
  select : ∀ resolver ∈ point.resolvers, ∀ query,
    resolver.select query request = resolver.select query request'

/-- Requests with the same attributes that are seen alike are decided alike. -/
theorem SeesAlike.decide_eq {point : DecisionPoint m} {request request' : Request}
    (h : point.SeesAlike request request') (hcategories : request.categories = request'.categories)
    (clock : Clock) : point.decide clock request = point.decide clock request' := by
  have hfind (query : AttributeQuery) : request.find query = request'.find query := by
    simp only [Request.find, Request.valuesFor, hcategories]
  have hlook (tree : PolicyTree) :
      tree.LooksAlike (fun α (x y : m α) => x = y) point.source
        (point.evaluation clock request).facade (point.evaluation clock request').facade := by
    intro node _ lookup _
    cases lookup with
    | designator d =>
        refine Simulation.eq.find (hfind d.query) rfl (List.forall₂_same.2 fun resolver hr => ?_)
        exact h.find resolver hr d.query
    | selector s =>
        refine Simulation.eq.askEach (List.forall₂_same.2 fun resolver hr => ?_)
        exact h.select resolver hr s.query
  unfold decide
  dsimp only
  rw [h.roots]
  split
  case h_1 => rfl
  case h_2 algorithm _ =>
    cases point.source.roots request' with
    | error error => rfl
    | ok roots =>
        exact Simulation.eq.combineRoots point.source point.config.maxReferenceDepth point.stack
          algorithm fun tree _ => hlook tree

end

section

variable (point : DecisionPoint Id) (clock : Clock) (request : Request)

/-- The decision on an individual request is well-formed. -/
theorem decide_wellFormed : (Id.run (point.decide clock request)).WellFormed := by
  unfold decide
  dsimp only
  split
  case h_1 => exact .ofError .either _
  case h_2 algorithm _ =>
    cases point.source.roots request with
    | error error => exact .ofError .either error
    | ok roots =>
        exact (combineRoots_accountable (point.evaluation clock request) algorithm roots).1

theorem evaluateIndividual_run :
    Id.run (point.evaluateIndividual clock request) =
      { Id.run (point.decide clock request) with
        attributes := request.echoed
        identifiers :=
          if request.returnPolicyIdList then (Id.run (point.decide clock request)).identifiers
          else [] } :=
  rfl

/-- An error leaves nothing to be done. -/
theorem individualResults_unburdened :
    ∀ result ∈ point.individualResults clock request, result.decision.isIndeterminate = true →
      result.obligations = [] ∧ result.advice = [] := by
  intro result hresult hd
  rcases List.mem_map.1 hresult with ⟨single, -, rfl⟩
  exact (point.decide_wellFormed clock single).unburdened hd

theorem individualResults_ne_nil : point.individualResults clock request ≠ [] := by
  rw [individualResults, Ne, List.map_eq_nil_iff]
  exact request.individual_ne_nil

/-- The individual results do not depend on whether they are to be combined. -/
theorem individualResults_combined
    (hfixed : request.hasRepeatedCategories = false →
      point.SeesAlike { request with combinedDecision := true }
        { request with combinedDecision := false }) :
    point.individualResults clock { request with combinedDecision := true } =
      point.individualResults clock { request with combinedDecision := false } := by
  unfold individualResults
  cases hrepeated : request.hasRepeatedCategories with
  | true =>
      rw [request.individual_of_repeated hrepeated true,
        request.individual_of_repeated hrepeated false]
  | false =>
      -- The one individual request still tells what is consulted that decisions are combined.
      rw [Request.individual_of_unrepeated { request with combinedDecision := true } hrepeated,
        Request.individual_of_unrepeated { request with combinedDecision := false } hrepeated,
        List.map_singleton, List.map_singleton, evaluateIndividual_run, evaluateIndividual_run,
        (hfixed hrepeated).decide_eq rfl clock]
      rfl

end

end DecisionPoint

/-- Where the individual requests may be answered, and what is consulted takes no notice of whether
their decisions are to be combined, asking for a combined decision gives one result, which combines
those that the same request has where no combined decision is asked for. -/
theorem combined_decision_exact (point : DecisionPoint Id) (clock : Clock) (request : Request)
    (hallowed : request.hasRepeatedCategories = true →
      point.config.enableMultipleDecisions = true)
    (hfixed : request.hasRepeatedCategories = false →
      point.SeesAlike { request with combinedDecision := true }
        { request with combinedDecision := false }) :
    let results :=
      (Id.run (point.evaluate clock { request with combinedDecision := false })).results
    results ≠ [] ∧
      ∃ combined,
        Id.run (point.evaluate clock { request with combinedDecision := true }) =
          .single combined ∧
        combined.Combines request.returnPolicyIdList results := by
  have hresults :
      (Id.run (point.evaluate clock { request with combinedDecision := false })).results =
        point.individualResults clock { request with combinedDecision := false } := by
    rw [point.evaluate_run clock { request with combinedDecision := false } hallowed,
      if_neg Bool.false_ne_true]
  have hsame := point.individualResults_combined clock request hfixed
  rw [hresults]
  have hne := point.individualResults_ne_nil clock { request with combinedDecision := false }
  refine ⟨hne, combineResults request.returnPolicyIdList
    (point.individualResults clock { request with combinedDecision := false }), ?_, ?_⟩
  · rw [point.evaluate_run clock { request with combinedDecision := true } hallowed, if_pos rfl,
      hsame]
  · exact combines_combineResults _ hne (point.individualResults_unburdened clock _)

namespace TwoResources

/-- A request about the first resource alone. -/
def alone : Request := ⟨[category "resource" "a"], true, false⟩

theorem seesAlike (request request' : Request) : point.SeesAlike request request' where
  roots := rfl
  find _ hresolver := nomatch hresolver
  select _ hresolver := nomatch hresolver

/-- The decisions on the two resources differ, so they have none in common; the one on the first
resource alone is that of the combined result. -/
theorem combined_decision_exact_twoResources :
    (request.hasRepeatedCategories = true ∧ point.config.enableMultipleDecisions = true ∧
      ∃ combined,
        Id.run (point.evaluate clock { request with combinedDecision := true }) =
          .single combined ∧
        combined.Combines false
          (Id.run (point.evaluate clock { request with combinedDecision := false })).results) ∧
    (alone.hasRepeatedCategories = false ∧
      point.SeesAlike { alone with combinedDecision := true }
        { alone with combinedDecision := false } ∧
      ∃ combined,
        Id.run (point.evaluate clock { alone with combinedDecision := true }) =
          .single combined ∧
        combined.Combines true
          (Id.run (point.evaluate clock { alone with combinedDecision := false })).results) ∧
    (Id.run (point.evaluate clock { request with combinedDecision := true })).decision? =
      some (.indeterminate .either) ∧
    (Id.run (point.evaluate clock { alone with combinedDecision := true })).decision? =
      some .permit := by
  refine ⟨⟨by decide, rfl, ?_⟩, ⟨by decide, seesAlike _ _, ?_⟩, by decide, by decide⟩
  · exact (combined_decision_exact point clock request (fun _ => rfl) fun _ => seesAlike _ _).2
  · exact (combined_decision_exact point clock alone (fun _ => rfl) fun _ => seesAlike _ _).2

/-- A resolver that knows the first resource if decisions are to be combined, else the second. -/
def flagReader : Resolver Id :=
  .withoutPaths fun _ request =>
    pure (.ok (.singleton (.string (if request.combinedDecision then "a" else "b"))))

/-- The request without attributes is about the second resource, and the policy is not applicable;
but asked for a combined decision it is about the first one, and permitted. -/
theorem not_combines_flagReader :
    let point := { point with resolvers := [flagReader] }
    let results :=
      (Id.run (point.evaluate clock { Request.empty with combinedDecision := false })).results
    let combined :=
      Id.run (point.evaluate clock { Request.empty with combinedDecision := true })
    Request.empty.hasRepeatedCategories = false ∧
      results.map Result.decision = [.notApplicable] ∧ combined.decision? = some .permit ∧
      ∀ result, combined = .single result → ¬result.Combines false results := by
  intro point results combined
  have hresults : results.map Result.decision = [.notApplicable] := by decide
  have hcombined : combined.decision? = some .permit := by decide
  refine ⟨rfl, hresults, hcombined, fun result hsingle hcombines => ?_⟩
  rw [hsingle] at hcombined
  have hpermit : result.decision = .permit := Option.some.inj hcombined
  rcases List.map_eq_singleton_iff.1 hresults with ⟨single, heq, hd⟩
  have hsame := ((hcombines.decided rfl).1 hpermit single (heq ▸ List.mem_singleton_self _)).1
  cases hd.symm.trans hsame

end TwoResources

end Xacml
