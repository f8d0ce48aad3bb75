import Mathlib.Algebra.BigOperators.Ring.List
import Mathlib.Algebra.GroupWithZero.Nat
import Mathlib.Data.List.Forall2
import Mathlib.Data.List.Induction
import Mathlib.Data.List.Nodup
import Mathlib.Data.List.Perm.Subperm
import Xacml.DecisionPoint
import Xacml.Proofs.Choices

/-!
# Individual requests

A request in which categories repeat asks for several decisions: one for each way to choose an
occurrence of every category.

* `FirstOccurrences` says that a list keeps of another one each item once, in the order of the first
  occurrences,
* `forall₂_choices` and `pairwise_choices`: choices correspond to their positions, which come in
  lexicographic order,
* `Request.IsPick` says which choice a request stands for,
* `individual_answered`: a request is split into all choices, and each one is answered as if it had
  been asked for alone.
-/

namespace Xacml

/-! ## First occurrences -/

/-- Whether the second list has the items of the first one, each once, in the order of their first
occurrences. -/
structure FirstOccurrences {α : Type} [BEq α] (all once : List α) : Prop where
  nodup : once.Nodup
  mem_iff {x : α} : x ∈ once ↔ x ∈ all
  ordered : once.Pairwise fun x y => all.idxOf x < all.idxOf y

section

variable {α : Type} [BEq α] [LawfulBEq α]

theorem eraseDups_concat (all : List α) (x : α) :
    (all ++ [x]).eraseDups = if x ∈ all then all.eraseDups else all.eraseDups ++ [x] := by
  rw [List.eraseDups_append]
  split
  case isTrue h => simp [List.removeAll, h]
  case isFalse h => simp [List.removeAll, h, List.eraseDups_cons]

/-- Erasing repetitions keeps the first occurrences: by induction on the list from its end. -/
theorem firstOccurrences_eraseDups (all : List α) : FirstOccurrences all all.eraseDups := by
  induction all using List.reverseRecOn with
  | nil => exact ⟨.nil, by simp, .nil⟩
  | append_singleton all x ih =>
      have hkeep : all.eraseDups.Pairwise fun y z =>
          (all ++ [x]).idxOf y < (all ++ [x]).idxOf z := by
        refine ih.ordered.imp_of_mem fun hy hz h => ?_
        rwa [List.idxOf_append_of_mem (ih.mem_iff.1 hy), List.idxOf_append_of_mem (ih.mem_iff.1 hz)]
      rw [eraseDups_concat]
      split
      case isTrue h =>
        refine ⟨ih.nodup, fun {y} => ?_, hkeep⟩
        rw [ih.mem_iff, List.mem_append, List.mem_singleton]
        exact ⟨.inl, fun hy => hy.elim id fun heq => heq ▸ h⟩
      case isFalse h =>
        refine ⟨?_, fun {y} => ?_, ?_⟩
        · refine List.nodup_append.2 ⟨ih.nodup, List.nodup_singleton x, fun y hy z hz => ?_⟩
          obtain rfl := List.mem_singleton.1 hz
          exact fun heq => h (heq ▸ ih.mem_iff.1 hy)
        · rw [List.mem_append, List.mem_append, ih.mem_iff]
        · refine List.pairwise_append.2 ⟨hkeep, List.pairwise_singleton _ _, fun y hy z hz => ?_⟩
          obtain rfl := List.mem_singleton.1 hz
          rw [List.idxOf_append_of_mem (ih.mem_iff.1 hy), List.idxOf_append_of_notMem h]
          have hlt := List.idxOf_lt_length_iff.2 (ih.mem_iff.1 hy)
          omega

theorem sublist_eraseDups (all : List α) : all.eraseDups.Sublist all := by
  induction all using List.reverseRecOn with
  | nil => exact .refl []
  | append_singleton all x ih =>
      rw [eraseDups_concat]
      split
      case isTrue => exact ih.trans (List.sublist_append_left all [x])
      case isFalse => exact ih.append (.refl [x])

/-- Nothing is erased exactly if nothing is repeated. -/
theorem length_eraseDups_lt_iff (all : List α) :
    all.eraseDups.length < all.length ↔ ¬ all.Nodup := by
  have hsub := sublist_eraseDups all
  have hnodup := (firstOccurrences_eraseDups all).nodup
  constructor
  · intro hlt h
    have hsubset : all ⊆ all.eraseDups := fun x hx => List.mem_eraseDups.2 hx
    exact absurd (h.subperm hsubset).length_le (Nat.not_le.2 hlt)
  · intro h
    refine Nat.lt_of_not_le fun hle => h ?_
    exact hsub.eq_of_length_le hle ▸ hnodup

theorem eraseDups_of_nodup {all : List α} (h : all.Nodup) : all.eraseDups = all :=
  (sublist_eraseDups all).eq_of_length_le
    (Nat.le_of_not_lt fun hlt => (length_eraseDups_lt_iff all).1 hlt h)

end

/-! ## Choices and their positions -/

section

variable {α : Type}

/-- Choices from ascending lists come in lexicographic order. -/
theorem pairwise_choices [LT α] {lists : List (List α)}
    (h : ∀ items ∈ lists, items.Pairwise (· < ·)) : (choices lists).Pairwise (· < ·) := by
  induction lists with
  | nil => exact List.pairwise_singleton _ _
  | cons items rest ih =>
      rw [List.forall_mem_cons] at h
      refine List.pairwise_flatMap.2 ⟨fun x _ => ?_, h.1.imp fun hxy => ?_⟩
      · refine List.pairwise_map.2 ((ih h.2).imp fun hlt => ?_)
        exact List.cons_lt_cons_iff.2 (.inr ⟨rfl, hlt⟩)
      · rintro _ ha _ hb
        rcases List.mem_map.1 ha with ⟨_, -, rfl⟩
        rcases List.mem_map.1 hb with ⟨_, -, rfl⟩
        exact List.cons_lt_cons_iff.2 (.inl hxy)

/-- A choice takes the items at the positions that the corresponding choice of positions has. -/
theorem forall₂_choices (lists : List (List α)) :
    List.Forall₂
      (fun positions chosen =>
        chosen.map some = List.zipWith (fun items i => items[i]?) lists positions)
      (choices (lists.map fun items => List.range items.length)) (choices lists) := by
  induction lists with
  | nil => exact .cons rfl .nil
  | cons items rest ih =>
      have hitems : List.Forall₂ (fun i x => items[i]? = some x) (List.range items.length) items :=
        List.forall₂_of_length_eq_of_get (by simp) fun i _ h => by simp
      refine List.rel_flatMap hitems fun i x hx => ?_
      refine List.rel_map (fun positions chosen h => ?_) ih
      rw [List.map_cons, List.zipWith_cons_cons, hx, h]

end

/-! ## Splitting requests -/

namespace Request

variable (request : Request)

/-- Whether a request takes, of each category of another one, the occurrence at the given
position. -/
def IsPick (positions : List Nat) (single : Request) : Prop :=
  single.categories.map some =
    List.zipWith (fun uri i => (request.occurrences uri)[i]?) request.uris positions

theorem hasRepeatedCategories_iff :
    request.hasRepeatedCategories = true ↔ ¬ (request.categories.map Category.uri).Nodup := by
  rw [← length_eraseDups_lt_iff, List.length_map]
  exact decide_eq_true_iff

theorem length_occurrences (uri : String) :
    (request.occurrences uri).length = (request.categories.map Category.uri).count uri := by
  rw [occurrences, List.count_eq_countP, List.countP_map, List.countP_eq_length_filter]
  rfl

theorem uri_of_mem_occurrences {uri : String} {category : Category}
    (h : category ∈ request.occurrences uri) : category.uri = uri :=
  of_decide_eq_true (List.mem_filter.1 h).2

/-- A choice of occurrences has the categories in their order. -/
theorem map_uri_of_mem_choices {uris : List String} {categories : List Category}
    (h : categories ∈ choices (uris.map request.occurrences)) :
    categories.map Category.uri = uris := by
  rw [mem_choices, List.forall₂_map_right_iff] at h
  induction h with
  | nil => rfl
  | cons first _ ih => rw [List.map_cons, ih, request.uri_of_mem_occurrences first]

/-- Without repeated categories there is one choice. -/
theorem choices_of_nodup (h : (request.categories.map Category.uri).Nodup) :
    choices (request.uris.map request.occurrences) = [request.categories] := by
  have hone : ∀ category ∈ request.categories, request.occurrences category.uri = [category] := by
    intro category hcategory
    have hlength : (request.occurrences category.uri).length = 1 := by
      rw [length_occurrences]
      exact List.count_eq_one_of_mem h (List.mem_map_of_mem hcategory)
    have hmem : category ∈ request.occurrences category.uri := by simp [occurrences, hcategory]
    rcases List.length_eq_one_iff.1 hlength with ⟨other, hother⟩
    rw [hother] at hmem ⊢
    rw [List.mem_singleton.1 hmem]
  have hsingletons : ∀ categories : List Category,
      choices (categories.map fun category => [category]) = [categories] := by
    intro categories
    induction categories with
    | nil => rfl
    | cons category rest ih => simp [choices, ih]
  rw [uris, eraseDups_of_nodup h, List.map_map]
  exact (congrArg choices (List.map_congr_left hone)).trans (hsingletons _)

theorem individual_of_unrepeated (h : request.hasRepeatedCategories = false) :
    request.individual = [request] := by
  rw [individual, h, if_neg Bool.false_ne_true]

/-- Whether decisions are to be combined is not asked again of the individual requests. -/
theorem individual_of_repeated (h : request.hasRepeatedCategories = true) (combined : Bool) :
    { request with combinedDecision := combined }.individual = request.individual :=
  (if_pos h).trans (if_pos h).symm

/-- The individual requests are the choices, whether or not categories repeat. -/
theorem individual_eq :
    request.individual =
      (choices (request.uris.map request.occurrences)).map fun categories =>
        { request with
          categories
          combinedDecision := request.combinedDecision && !request.hasRepeatedCategories } := by
  unfold individual
  cases hrepeated : request.hasRepeatedCategories with
  | true => simp
  | false =>
      have hnodup : (request.categories.map Category.uri).Nodup := by
        refine Classical.not_not.1 fun h => ?_
        rw [request.hasRepeatedCategories_iff.2 h] at hrepeated
        cases hrepeated
      rw [request.choices_of_nodup hnodup]
      simp

/-- An individual request has every category once, in the order of the first occurrences, and is
told like the whole whether to list policies. -/
theorem of_mem_individual {single : Request} (h : single ∈ request.individual) :
    single.categories.map Category.uri = request.uris ∧ single.hasRepeatedCategories = false ∧
      single.returnPolicyIdList = request.returnPolicyIdList ∧
      single.combinedDecision = (request.combinedDecision && !request.hasRepeatedCategories) := by
  rw [individual_eq] at h
  rcases List.mem_map.1 h with ⟨categories, hcategories, rfl⟩
  have huris := request.map_uri_of_mem_choices hcategories
  refine ⟨huris, ?_, rfl, rfl⟩
  refine Bool.eq_false_iff.2 fun hrepeated => ?_
  refine (hasRepeatedCategories_iff _).1 hrepeated ?_
  rw [huris]
  exact (firstOccurrences_eraseDups _).nodup

theorem length_individual :
    request.individual.length =
      (request.uris.map (request.categories.map Category.uri).count).prod := by
  rw [individual_eq, List.length_map, length_choices, List.map_map]
  exact congrArg List.prod (List.map_congr_left fun uri _ => request.length_occurrences uri)

theorem individual_ne_nil : request.individual ≠ [] := by
  intro h
  have hzero := request.length_individual
  rw [h, List.length_nil] at hzero
  rcases List.mem_map.1 (List.prod_eq_zero_iff.1 hzero.symm) with ⟨uri, huri, hcount⟩
  exact absurd (List.mem_eraseDups.1 huri) (List.count_eq_zero.1 hcount)

/-- The positions that can be chosen, in lexicographic order, correspond to the individual
requests. -/
theorem exists_picks :
    ∃ picks : List (List Nat),
      (∀ positions, positions ∈ picks ↔
        List.Forall₂ (fun i uri => i < (request.categories.map Category.uri).count uri) positions
          request.uris) ∧
      picks.Pairwise (· < ·) ∧ List.Forall₂ request.IsPick picks request.individual := by
  refine ⟨choices ((request.uris.map request.occurrences).map fun items =>
    List.range items.length), fun positions => ?_, ?_, ?_⟩
  · rw [mem_choices, List.forall₂_map_right_iff, List.forall₂_map_right_iff]
    simp only [List.mem_range, length_occurrences]
  · refine pairwise_choices fun positions hpositions => ?_
    rcases List.mem_map.1 hpositions with ⟨items, -, rfl⟩
    exact List.pairwise_lt_range
  · rw [individual_eq, List.forall₂_map_right_iff]
    refine (forall₂_choices (request.uris.map request.occurrences)).imp fun positions chosen h => ?_
    rwa [List.zipWith_map_left] at h

end Request

/-! ## Answers -/

namespace DecisionPoint

section

variable {m : Type → Type} [Monad m] [LawfulMonad m] (point : DecisionPoint m) (clock : Clock)

theorem evaluateEach_eq_mapM (requests : List Request) :
    point.evaluateEach clock requests = requests.mapM (point.evaluateIndividual clock) := by
  induction requests with
  | nil => rfl
  | cons request rest ih => rw [evaluateEach, ih, List.mapM_cons]

/-- Unless multiple decisions are refused, the individual requests are answered in their order. -/
theorem evaluate_of_enabled {request : Request}
    (h : request.hasRepeatedCategories = true → point.config.enableMultipleDecisions = true) :
    point.evaluate clock request = do
      let results ← request.individual.mapM (point.evaluateIndividual clock)
      if request.combinedDecision then
        return .single (combineResults request.returnPolicyIdList results)
      else return ⟨results⟩ := by
  have hallowed :
      ¬(request.hasRepeatedCategories && !point.config.enableMultipleDecisions) = true := by
    simpa using h
  rw [evaluate, if_neg hallowed, evaluateEach_eq_mapM]

/-- A request in which nothing repeats is answered as an individual one. -/
theorem evaluate_alone {single : Request} (hrepeated : single.hasRepeatedCategories = false)
    (hcombined : single.combinedDecision = false) :
    point.evaluate clock single = Response.single <$> point.evaluateIndividual clock single := by
  rw [evaluate_of_enabled point clock (by simp [hrepeated])]
  simp [single.individual_of_unrepeated hrepeated, hcombined]
  rfl

end

/-- The results of the individual requests. -/
def individualResults (point : DecisionPoint Id) (clock : Clock) (request : Request) :
    List Result :=
  request.individual.map fun single => Id.run (point.evaluateIndividual clock single)

theorem evaluate_run (point : DecisionPoint Id) (clock : Clock) (request : Request)
    (h : request.hasRepeatedCategories = true → point.config.enableMultipleDecisions = true) :
    Id.run (point.evaluate clock request) =
      if request.combinedDecision then
        .single
          (combineResults request.returnPolicyIdList (point.individualResults clock request))
      else ⟨point.individualResults clock request⟩ := by
  rw [evaluate_of_enabled point clock h, Id.run_bind, List.idRun_mapM, apply_ite Id.run]
  rfl

end DecisionPoint

/-- A request is split into the choices of one occurrence of every category, each choice once and in
lexicographic order; where several decisions are allowed and none is to be combined, each individual
request is answered, in this order, as it is when it is asked for alone. -/
theorem individual_answered (request : Request) :
    FirstOccurrences (request.categories.map Request.Category.uri) request.uris ∧
    (∃ picks : List (List Nat),
      (∀ positions, positions ∈ picks ↔
        List.Forall₂
          (fun i uri => i < (request.categories.map Request.Category.uri).count uri) positions
          request.uris) ∧
      picks.Pairwise (· < ·) ∧ List.Forall₂ request.IsPick picks request.individual) ∧
    (∀ single ∈ request.individual,
      single.categories.map Request.Category.uri = request.uris ∧
        single.hasRepeatedCategories = false ∧
        single.returnPolicyIdList = request.returnPolicyIdList ∧
        single.combinedDecision =
          (request.combinedDecision && !request.hasRepeatedCategories)) ∧
    request.individual.length =
      (request.uris.map (request.categories.map Request.Category.uri).count).prod ∧
    ∀ (point : DecisionPoint Id) (clock : Clock),
      point.config.enableMultipleDecisions = true → request.combinedDecision = false →
        List.Forall₂
          (fun single result => Id.run (point.evaluate clock single) = .single result)
          request.individual (Id.run (point.evaluate clock request)).results := by
  refine ⟨firstOccurrences_eraseDups _, request.exists_picks, fun single hsingle =>
    request.of_mem_individual hsingle, request.length_individual, ?_⟩
  intro point clock henabled hcombined
  rw [point.evaluate_run clock request fun _ => henabled, hcombined]
  refine List.forall₂_map_right_iff.2 (List.forall₂_same.2 fun single hsingle => ?_)
  rcases request.of_mem_individual hsingle with ⟨-, hrepeated, -, hsame⟩
  rw [hcombined, Bool.false_and] at hsame
  rw [point.evaluate_alone clock hrepeated hsame]
  rfl

namespace TwoResources

/-- A category that tells an identifier. -/
def category (uri id : String) : Request.Category :=
  ⟨uri, [⟨"id", none, [.string id], true⟩]⟩

/-- A request about two resources; the subject is told between them. -/
def request : Request :=
  ⟨[category "resource" "a", category "subject" "s", category "resource" "b"], false, false⟩

/-- The target of what is about the first resource. -/
def target : Target :=
  .anyOf [⟨[⟨[⟨.ofStrict (.comparison (.equal .string)), .string "a",
    .designator ⟨⟨"resource", "id", .string, none⟩, true⟩⟩]⟩]⟩]

/-- A policy that permits what is about the first resource. -/
def policy : PolicyTree :=
  .policy
    ⟨⟨"policy", ⟨[1]⟩, .v3_0, none, target, ⟨"deny-overrides", .overrides .deny⟩, [], [], []⟩, [],
      [⟨⟨"rule", .permit, none, none, none, [], []⟩, []⟩]⟩

/-- A decision point of that policy alone. -/
def point : DecisionPoint Id :=
  ⟨.standard, .default, ⟨fun _ => .ok none, fun _ => .ok [policy]⟩, [], .main⟩

/-- The start of the calendar. -/
def clock : Clock := ⟨⟨⟨0, 0⟩, none⟩⟩

/-- The first resource is permitted, and the policy is not about the second one. -/
theorem individual_answered_twoResources :
    (point.config.enableMultipleDecisions = true ∧ request.combinedDecision = false) ∧
      List.Forall₂
        (fun single result => Id.run (point.evaluate clock single) = .single result)
        request.individual (Id.run (point.evaluate clock request)).results ∧
      (Id.run (point.evaluate clock request)).results.map Result.decision =
        [.permit, .notApplicable] :=
  ⟨⟨rfl, rfl⟩, (individual_answered request).2.2.2.2 point clock rfl rfl, by decide⟩

end TwoResources

end Xacml
