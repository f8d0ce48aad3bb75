import Xacml.Proofs.Combining.Contributors

/-!
# Groups of children under the overriding methods

A policy set may be split into smaller ones and its children may change places without a change to
what an overriding method decides.

* `Effect.join` is the decision of an overriding method on two children; the decisions form a
  semilattice under it, and `Effect.overriding_cons` says that the decisions of any children are
  joined,
* `flatMap_upTo_flatten` says what the children up to the one that settles a matter have together,
  whether they are looked at one by one or in groups,
* `combine_overrides_regroup`: combining groups and then their results gives what combining all
  children at once does, but for the status; and the decision depends on nothing but which decisions
  there are among the children.
-/

namespace Xacml

/-! ## Joining decisions -/

namespace Effect

variable {winner : Effect} {ds es : List Decision}

/-- The decision of an overriding method on two children. -/
def join (winner : Effect) (d e : Decision) : Decision :=
  winner.overriding [d, e]

/-- Only which decisions there are counts, and it does not count whether one is NotApplicable. -/
theorem overriding_congr (h : ∀ d, d ≠ .notApplicable → (d ∈ ds ↔ d ∈ es)) :
    winner.overriding ds = winner.overriding es := by
  have heffect (e : Effect) := h (.ofEffect e) (Decision.ofEffect_ne_notApplicable e)
  have herror (extent : Extent) := h (.indeterminate extent) (by simp)
  simp only [overriding, heffect, herror]

/-- The decisions of several children are joined one by one. -/
theorem overriding_cons (winner : Effect) (d : Decision) (ds : List Decision) :
    winner.overriding (d :: ds) = winner.join d (winner.overriding ds) := by
  rcases d with _ | _ | extent | _
  case indeterminate =>
    cases extent <;> cases winner <;>
      grind [overriding, join, Decision.ofEffect, Extent.ofEffect, Effect.opposite]
  all_goals
    cases winner <;>
      grind [overriding, join, Decision.ofEffect, Extent.ofEffect, Effect.opposite]

theorem join_comm (winner : Effect) (d e : Decision) : winner.join d e = winner.join e d :=
  overriding_congr fun _ _ => by simp [or_comm]

theorem join_notApplicable (winner : Effect) (d : Decision) :
    winner.join d .notApplicable = d := by
  rcases d with _ | _ | extent | _
  case indeterminate => cases extent <;> cases winner <;> rfl
  all_goals cases winner <;> rfl

theorem join_assoc (winner : Effect) (d e f : Decision) :
    winner.join (winner.join d e) f = winner.join d (winner.join e f) := by
  calc
    winner.join (winner.join d e) f = winner.join f (winner.join d e) := winner.join_comm _ _
    _ = winner.overriding [f, d, e] := (winner.overriding_cons f [d, e]).symm
    _ = winner.overriding [d, e, f] := overriding_congr fun _ _ => by simp [or_comm, or_left_comm]
    _ = winner.join d (winner.join e f) := winner.overriding_cons d [e, f]

theorem overriding_append (winner : Effect) (ds es : List Decision) :
    winner.overriding (ds ++ es) = winner.join (winner.overriding ds) (winner.overriding es) := by
  induction ds with
  | nil =>
      rw [join_comm]
      exact (winner.join_notApplicable _).symm
  | cons d ds ih => rw [List.cons_append, overriding_cons, ih, overriding_cons, join_assoc]

/-- Decisions may be joined in groups. -/
theorem overriding_flatten (winner : Effect) (groups : List (List Decision)) :
    winner.overriding (groups.map winner.overriding) = winner.overriding groups.flatten := by
  induction groups with
  | nil => rfl
  | cons ds groups ih =>
      rw [List.map_cons, overriding_cons, ih, List.flatten_cons, overriding_append]

/-- An effect that comes out of all children comes out of those of a group that have it. -/
theorem overriding_of_subset {e : Effect} (hsubset : ds ⊆ es)
    (h : winner.overriding es = .ofEffect e) (he : Decision.ofEffect e ∈ ds) :
    winner.overriding ds = .ofEffect e := by
  have hnot {d : Decision} (hd : d ∉ es) : d ∉ ds := mt (@hsubset d) hd
  cases e <;> cases winner <;>
    grind [overriding, Decision.ofEffect, Extent.ofEffect, Effect.opposite]

end Effect

/-! ## Looking at groups of children -/

theorem upTo_append {α : Type} (settles : α → Bool) (xs ys : List α) :
    upTo settles (xs ++ ys) =
      if xs.any settles then upTo settles xs else xs ++ upTo settles ys := by
  induction xs with
  | nil => rfl
  | cons x xs ih =>
      rw [List.cons_append, upTo, upTo, ih, List.any_cons]
      cases settles x <;> cases xs.any settles <;> rfl

/-- What the items up to the one that settles a matter have together.  They may be looked at in
groups, if a group settles the matter as soon as one of its items does and has what these items
have. -/
theorem flatMap_upTo_flatten {α β : Type} {settles : α → Bool} {merge : List α → α}
    {f : α → List β} {groups : List (List α)}
    (hsettles : ∀ group ∈ groups, settles (merge group) = group.any settles)
    (hf : ∀ group ∈ groups, f (merge group) = (upTo settles group).flatMap f) :
    (upTo settles (groups.map merge)).flatMap f = (upTo settles groups.flatten).flatMap f := by
  induction groups with
  | nil => rfl
  | cons group groups ih =>
      rw [List.forall_mem_cons] at hsettles hf
      rw [List.map_cons, upTo, List.flatten_cons, upTo_append, hsettles.1]
      cases hany : group.any settles with
      | true => simpa using hf.1
      | false =>
          -- Nothing of the group is left out.
          have hall : upTo settles group = group := by
            simpa [hany, upTo] using upTo_append settles group []
          have hgroup := hf.1
          rw [hall] at hgroup
          simpa [hgroup] using ih hsettles.2 hf.2

/-! ## Shares in a combined result -/

namespace Result

/-- The policies that a child adds to the applicable ones. -/
def listed (result : Result) : List PolicyIdentifier :=
  if result.decision = .notApplicable then [] else result.identifiers

/-- What a child adds to a part of a result of an effect. -/
def share (part : Result → List Obligation) (e : Effect) (result : Result) : List Obligation :=
  if result.decision = .ofEffect e then part result else []

/-- Whether a part of a combined result is put together from that part of the children's. -/
def IsGathered (part : Result → List Obligation) : Prop :=
  ∀ ⦃result results⦄, Gathers result results → part result = results.flatMap part

/-- The result without its status. -/
def withoutStatus (result : Result) : Result :=
  { result with status := none }

theorem flatMap_share (part : Result → List Obligation) (e : Effect) (results : List Result) :
    results.flatMap (share part e) =
      (results.filter fun result => result.decision = .ofEffect e).flatMap part := by
  induction results with
  | nil => rfl
  | cons result rest ih =>
      by_cases h : result.decision = .ofEffect e <;> simp [share, h, ih]

end Result

theorem Tally.recordAll_identifiers (tally : Tally) (results : List Result) :
    (tally.recordAll results).identifiers =
      tally.identifiers ++ results.flatMap Result.listed := by
  induction results generalizing tally with
  | nil => simp [recordAll]
  | cons result rest ih =>
      have hstep : (tally.record result).identifiers = tally.identifiers ++ result.listed := by
        cases hd : result.decision <;> simp [record, Result.listed, hd]
      simpa [recordAll, hstep] using ih (tally.record result)

/-- A child that stands for several ones: it comes to what a method makes of them. -/
def Method.group (method : Method) (children : List (Candidate Id)) : Candidate Id where
  evaluate := fun _ => method.combine children
  applies := fun _ => pure (.ok true)
  effect := none

namespace Effect

variable {winner : Effect} {children : List (Candidate Id)} {groups : List (List (Candidate Id))}

/-- Whether a child settles the result. -/
def settledBy (winner : Effect) (child : Candidate Id) : Bool :=
  child.result.decision == .ofEffect winner

/-- What an overriding method makes of children. -/
def combined (winner : Effect) (children : List (Candidate Id)) : Result :=
  ((Method.overrides winner).group children).result

theorem combined_decision (winner : Effect) (children : List (Candidate Id)) :
    (winner.combined children).decision = winner.overriding (decisionsOf children) :=
  decisionOn_overrides winner children

theorem combined_tallied (winner : Effect) (children : List (Candidate Id)) :
    TalliedUpTo (· == .ofEffect winner) .empty children (winner.combined children) :=
  (combineOverrides_tallied winner .empty .nothing children).1

/-- A group settles the result as soon as one of its children does. -/
theorem settledBy_group (winner : Effect) (children : List (Candidate Id)) :
    winner.settledBy ((Method.overrides winner).group children) =
      children.any winner.settledBy := by
  have hwins : winner.overriding (decisionsOf children) = .ofEffect winner ↔
      Decision.ofEffect winner ∈ decisionsOf children := by
    refine ⟨fun h => ?_, fun h => by simp [overriding, h]⟩
    by_contra hmem
    revert h
    simp only [overriding, if_neg hmem]
    cases winner <;> grind [Decision.ofEffect, Effect.opposite]
  rw [Bool.eq_iff_iff, settledBy, beq_iff_eq]
  refine (combined_decision winner children ▸ hwins).trans ?_
  simp [decisionsOf, settledBy, Candidate.result]

/-- The policies that were applicable are those that the children up to the settling one add. -/
theorem combined_listed (winner : Effect) (children : List (Candidate Id)) :
    (winner.combined children).listed =
        (upTo winner.settledBy children).flatMap (fun child => child.result.listed) ∧
      (winner.combined children).listed = (winner.combined children).identifiers := by
  rcases winner.combined_tallied children with ⟨decision, heq, hnone⟩
  have hlist : (winner.combined children).identifiers =
      (upTo winner.settledBy children).flatMap (fun child => child.result.listed) := by
    rw [heq, Tally.finish_identifiers, Tally.recordAll_identifiers, List.flatMap_map]
    rfl
  suffices h : (winner.combined children).listed = (winner.combined children).identifiers from
    ⟨h.trans hlist, h⟩
  rw [Result.listed, heq, Tally.finish_decision]
  split
  case isFalse => rfl
  case isTrue h =>
    -- Then no child was applicable, and none has added anything.
    rw [Tally.recordAll_of_notApplicable (hnone h), Tally.finish_identifiers]
    rfl

variable {part : Result → List Obligation}

/-- A part of a result of an effect is what the children up to the settling one add to it. -/
theorem combined_part {e : Effect}
    (hpart : Result.IsGathered part)
    (h : (winner.combined children).decision = .ofEffect e) :
    part (winner.combined children) =
      (upTo winner.settledBy children).flatMap fun child => child.result.share part e := by
  have hgathers := hpart ((winner.combined_tallied children).gathers h)
  rw [← Result.flatMap_share, List.flatMap_map] at hgathers
  exact hgathers

/-- A group adds what its children do, unless its decision hides an effect that they have. -/
theorem share_group {e : Effect}
    (hpart : Result.IsGathered part)
    (h : Decision.ofEffect e ∈ decisionsOf children →
      winner.overriding (decisionsOf children) = .ofEffect e) :
    (winner.combined children).share part e =
      (upTo winner.settledBy children).flatMap fun child => child.result.share part e := by
  rw [Result.share]
  split
  case isTrue hd => exact combined_part hpart hd
  case isFalse hd =>
    rw [combined_decision] at hd
    refine (List.flatMap_eq_nil_iff.2 fun child hchild => if_neg fun heq => hd (h ?_)).symm
    exact List.mem_map.2 ⟨child, mem_of_mem_upTo hchild, heq⟩

/-- Without an effect a combined result has no obligations and no advice. -/
theorem combined_bare (h : (winner.combined children).decision.effect? = none) :
    (winner.combined children).obligations = [] ∧ (winner.combined children).advice = [] := by
  rcases winner.combined_tallied children with ⟨decision, heq, -⟩
  rw [heq, Tally.finish_decision] at h
  rw [heq]
  cases decision <;> first | exact ⟨rfl, rfl⟩ | cases h

theorem combined_attributes (winner : Effect) (children : List (Candidate Id)) :
    (winner.combined children).attributes = [] := by
  rcases winner.combined_tallied children with ⟨decision, heq, -⟩
  rw [heq]
  cases decision <;> rfl

theorem decisionsOf_groups (winner : Effect) (groups : List (List (Candidate Id))) :
    decisionsOf (groups.map (Method.overrides winner).group) =
      (groups.map decisionsOf).map winner.overriding := by
  rw [decisionsOf, List.map_map, List.map_map]
  exact List.map_congr_left fun children _ => combined_decision winner children

theorem combined_groups_decision (winner : Effect) (groups : List (List (Candidate Id))) :
    (winner.combined (groups.map (Method.overrides winner).group)).decision =
      (winner.combined groups.flatten).decision := by
  rw [combined_decision, combined_decision, decisionsOf_groups, overriding_flatten, decisionsOf,
    List.map_flatten]
  rfl

/-- What groups add to a part of a result of an effect is what all children add. -/
theorem combined_groups_part
    (hpart : Result.IsGathered part)
    {e : Effect} (h : (winner.combined groups.flatten).decision = .ofEffect e) :
    part (winner.combined (groups.map (Method.overrides winner).group)) =
      part (winner.combined groups.flatten) := by
  have hnested := (combined_groups_decision winner groups).trans h
  rw [combined_part hpart hnested, combined_part hpart h]
  refine flatMap_upTo_flatten (fun children _ => settledBy_group winner children)
    fun children hchildren => share_group hpart ?_
  rw [combined_decision] at h
  refine overriding_of_subset (fun d hd => ?_) h
  rcases List.mem_map.1 hd with ⟨child, hchild, rfl⟩
  exact List.mem_map.2 ⟨child, List.mem_flatten.2 ⟨children, hchildren, hchild⟩, rfl⟩

theorem combined_groups_identifiers (winner : Effect) (groups : List (List (Candidate Id))) :
    (winner.combined (groups.map (Method.overrides winner).group)).identifiers =
      (winner.combined groups.flatten).identifiers := by
  rw [← (combined_listed winner _).2, ← (combined_listed winner _).2, (combined_listed winner _).1,
    (combined_listed winner _).1]
  exact flatMap_upTo_flatten (fun children _ => settledBy_group winner children)
    fun children _ => (combined_listed winner children).1

/-- Groups and their children come to the same result, but for the status. -/
theorem combined_groups (winner : Effect) (groups : List (List (Candidate Id))) :
    (winner.combined (groups.map (Method.overrides winner).group)).withoutStatus =
      (winner.combined groups.flatten).withoutStatus := by
  have hdecision := combined_groups_decision winner groups
  have hidentifiers := combined_groups_identifiers winner groups
  have hattributes :=
    (combined_attributes winner (groups.map (Method.overrides winner).group)).trans
      (combined_attributes winner groups.flatten).symm
  have hparts : (winner.combined (groups.map (Method.overrides winner).group)).obligations =
        (winner.combined groups.flatten).obligations ∧
      (winner.combined (groups.map (Method.overrides winner).group)).advice =
        (winner.combined groups.flatten).advice := by
    cases heffect : (winner.combined groups.flatten).decision.effect? with
    | none =>
        rcases combined_bare heffect with ⟨hobligations, hadvice⟩
        rcases combined_bare (hdecision ▸ heffect) with ⟨hobligations', hadvice'⟩
        exact ⟨hobligations'.trans hobligations.symm, hadvice'.trans hadvice.symm⟩
    | some e =>
        have hd := Decision.eq_ofEffect_of_effect? heffect
        exact ⟨combined_groups_part (fun _ _ h => h.1) hd,
          combined_groups_part (fun _ _ h => h.2) hd⟩
  simp only [Result.withoutStatus, hdecision, hparts.1, hparts.2, hattributes, hidentifiers]

end Effect

/-! ## Regrouping -/

/-- Combining children in consecutive groups and then the results of the groups gives the decision,
the obligations, the advice and the applicable policies that combining all children at once gives.
The decision stays the same when the children are put in another order, when one of them is
repeated, and when one that is not applicable is put in or left out. -/
theorem combine_overrides_regroup (winner : Effect) :
    (∀ groups : List (List (Candidate Id)),
      (Id.run ((Method.overrides winner).combine
          (groups.map (Method.overrides winner).group))).withoutStatus =
        (Id.run ((Method.overrides winner).combine groups.flatten)).withoutStatus) ∧
    (∀ children others : List (Candidate Id), children.Perm others →
      (Method.overrides winner).decisionOn children =
        (Method.overrides winner).decisionOn others) ∧
    ∀ (before after : List (Candidate Id)) (child : Candidate Id),
      child ∈ before ++ after ∨ child.result.decision = .notApplicable →
        (Method.overrides winner).decisionOn (before ++ child :: after) =
          (Method.overrides winner).decisionOn (before ++ after) := by
  refine ⟨winner.combined_groups, fun children others h => ?_, fun before after child h => ?_⟩
  · rw [decisionOn_overrides, decisionOn_overrides]
    exact Effect.overriding_congr fun d _ => (h.map _).mem_iff
  · rw [decisionOn_overrides, decisionOn_overrides]
    refine Effect.overriding_congr fun d hd => ?_
    have hadded : d = child.result.decision → d ∈ decisionsOf (before ++ after) := by
      rintro rfl
      rcases h with hmem | hna
      · exact List.mem_map.2 ⟨child, hmem, rfl⟩
      · exact absurd hna hd
    have hcons : d ∈ decisionsOf (before ++ child :: after) ↔
        d = child.result.decision ∨ d ∈ decisionsOf (before ++ after) := by
      simp only [decisionsOf, List.map_append, List.map_cons, List.mem_append, List.mem_cons]
      exact or_left_comm
    exact hcons.trans (or_iff_right_of_imp hadded)

namespace RegroupedPermit

/-- An obligation to log what is permitted. -/
def log : Obligation := ⟨"log", .permit, []⟩

/-- A child that permits and wants this logged. -/
def permitting : Candidate Id where
  evaluate := fun _ => pure
    { Result.ofDecision .permit with
      obligations := [log]
      identifiers := [⟨.policy, "reader", ⟨[1]⟩⟩] }
  applies := fun _ => pure (.ok true)
  effect := none

/-- Where Deny overrides, a group with an error that can only have hidden a Permit still permits.
The Permit of this group and that of the last one are both logged, whether the children are combined
at once or in groups, and it does not matter in which order they are or whether the second Permit is
among them. -/
theorem combine_overrides_regroup_permits :
    let groups : List (List (Candidate Id)) :=
      [[permitting, .decided (.indeterminate .permit)], [], [.decided .notApplicable, permitting]]
    let others : List (Candidate Id) :=
      [permitting, permitting, .decided (.indeterminate .permit), .decided .notApplicable]
    groups.flatten.Perm others ∧ permitting ∈ [] ++ others.tail ∧
      (Id.run ((Method.overrides .deny).combine
          (groups.map (Method.overrides .deny).group))).withoutStatus =
        (Id.run ((Method.overrides .deny).combine groups.flatten)).withoutStatus ∧
      (Id.run ((Method.overrides .deny).combine groups.flatten)).obligations = [log, log] ∧
      (Method.overrides .deny).decisionOn groups.flatten =
        (Method.overrides .deny).decisionOn others ∧
      (Method.overrides .deny).decisionOn others =
        (Method.overrides .deny).decisionOn others.tail := by
  intro groups others
  let undecided : List (Candidate Id) :=
    [.decided (.indeterminate .permit), .decided .notApplicable]
  have hlast : (undecided ++ [permitting]).Perm ([permitting] ++ undecided) :=
    List.perm_append_comm
  have hperm : groups.flatten.Perm others := hlast.cons permitting
  have hmem : permitting ∈ [] ++ others.tail := List.mem_cons_self
  exact ⟨hperm, hmem, (combine_overrides_regroup .deny).1 groups, rfl,
    (combine_overrides_regroup .deny).2.1 _ _ hperm,
    (combine_overrides_regroup .deny).2.2 [] others.tail permitting (.inl hmem)⟩

end RegroupedPermit

end Xacml
