import Mathlib.Data.List.Basic
import Xacml.Proofs.Combining.Resolution

/-!
# What children contribute to a combined result

A method looks at its children one by one and stops where the decision is settled.  This module says
which children it has looked at by then, and what of theirs the combined result takes over:

* `Method.consulted` are the children that the decision rests on, and `Method.contributors` those
  among them that have come to a given effect,
* `Result.WellFormed` says how the parts of a result go with its decision,
* `Method.combine_gathers`: a Permit or a Deny has the obligations and the advice of its
  contributors in their order, and nothing else,
* `Method.combine_wellFormed`: well-formed results are combined to a well-formed one.
-/

namespace Xacml

/-! ## Well-formed results -/

/-- How the parts of a result go with its decision: only an error has a status, obligations and
advice are about the decision, and nothing is listed as applicable where nothing was. -/
structure Result.WellFormed (result : Result) : Prop where
  status : result.status.isSome = true ↔ result.decision.isIndeterminate = true
  fulfilled : ∀ o ∈ result.obligations ++ result.advice, result.decision = .ofEffect o.fulfillOn
  unlisted : result.decision = .notApplicable → result.identifiers = []

namespace Result.WellFormed

/-- A result without obligations and advice is about nothing. -/
theorem of_bare {result : Result}
    (status : result.status.isSome = true ↔ result.decision.isIndeterminate = true)
    (obligations : result.obligations = []) (advice : result.advice = [])
    (unlisted : result.decision = .notApplicable → result.identifiers = []) :
    result.WellFormed := by
  refine ⟨status, fun o ho => ?_, unlisted⟩
  rw [obligations, advice] at ho
  cases ho

theorem ofDecision {decision : Decision} (h : decision.isIndeterminate = false) :
    (Result.ofDecision decision).WellFormed :=
  of_bare (by simp [Result.ofDecision, h]) rfl rfl fun _ => rfl

theorem ofError (extent : Extent) (error : EvaluationError) :
    (Result.ofError extent error).WellFormed :=
  of_bare (by simp [Result.ofError, Result.ofDecision, Decision.isIndeterminate]) rfl rfl
    fun _ => rfl

end Result.WellFormed

/-! ## Children that are looked at -/

/-- The items up to the first one that settles a matter, that one included. -/
def upTo {α : Type} (settles : α → Bool) : List α → List α
  | [] => []
  | item :: rest => if settles item then [item] else item :: upTo settles rest

/-- What a child comes to. -/
def Candidate.result (child : Candidate Id) : Result :=
  Id.run (child.evaluate ())

/-- Whether the target of a child applies; an error counts as no. -/
def Candidate.isApplicable (child : Candidate Id) : Bool :=
  match Id.run (child.applies ()) with
  | .ok applies => applies
  | .error _ => false

namespace Method

variable {α : Type}

/-- The children that the decision of a method rests on, where items stand for children. -/
def consulted (method : Method) (child : α → Candidate Id) (items : List α) : List α :=
  let decision := fun item => (child item).result.decision
  match method with
  | .overrides winner => upTo (fun item => decision item == .ofEffect winner) items
  | .unlessOpposed fallback =>
      upTo (fun item => decision item == .ofEffect fallback.opposite) items
  | .firstApplicable => upTo (fun item => decision item != .notApplicable) items
  | .onlyOneApplicable => items.filter fun item => (child item).isApplicable
  | .legacyOverrides winner level =>
      upTo (fun item => settlesLegacy winner level (decision item)) items

/-- The children that the decision of a method rests on and that have come to an effect. -/
def contributors (method : Method) (child : α → Candidate Id) (e : Effect) (items : List α) :
    List α :=
  (method.consulted child items).filter fun item => (child item).result.decision = .ofEffect e

end Method

/-! ## Tallies of several children -/

namespace Tally

/-- What the children of an effect contribute. -/
def contribution (tally : Tally) : Effect → Contribution
  | .permit => tally.permit
  | .deny => tally.deny

/-- Takes the results of several children into account. -/
def recordAll (tally : Tally) (results : List Result) : Tally :=
  results.foldl record tally

theorem finish_ofEffect (tally : Tally) (e : Effect) :
    (tally.finish (.ofEffect e)).obligations = (tally.contribution e).obligations ∧
      (tally.finish (.ofEffect e)).advice = (tally.contribution e).advice := by
  cases e <;> exact ⟨rfl, rfl⟩

theorem finish_identifiers (tally : Tally) (decision : Decision) :
    (tally.finish decision).identifiers = tally.identifiers := by
  cases decision <;> rfl

/-- One result adds to the contribution of its effect alone. -/
theorem record_contribution (tally : Tally) (result : Result) (e : Effect) :
    (tally.record result).contribution e =
      if result.decision = .ofEffect e then (tally.contribution e).add result
      else tally.contribution e := by
  cases hd : result.decision <;> cases e <;> simp [record, contribution, hd, Decision.ofEffect]

theorem recordAll_contribution (tally : Tally) (results : List Result) (e : Effect) :
    ((tally.recordAll results).contribution e).obligations =
        (tally.contribution e).obligations ++
          (results.filter fun result => result.decision = .ofEffect e).flatMap
            Result.obligations ∧
      ((tally.recordAll results).contribution e).advice =
        (tally.contribution e).advice ++
          (results.filter fun result => result.decision = .ofEffect e).flatMap
            Result.advice := by
  induction results generalizing tally with
  | nil => simp [recordAll]
  | cons result rest ih =>
      have hstep := ih (tally.record result)
      rw [record_contribution] at hstep
      by_cases hd : result.decision = .ofEffect e
      · rw [if_pos hd] at hstep
        simpa [recordAll, hd, Contribution.add] using hstep
      · rw [if_neg hd] at hstep
        simpa [recordAll, hd] using hstep

/-- Children that were not applicable leave no trace. -/
theorem recordAll_of_notApplicable {tally : Tally} {results : List Result}
    (h : ∀ result ∈ results, result.decision = .notApplicable) :
    tally.recordAll results = tally := by
  induction results with
  | nil => rfl
  | cons result rest ih =>
      have hfirst : tally.record result = tally := by
        simp [record, h result List.mem_cons_self]
      have hrest := ih fun result hresult => h result (List.mem_cons_of_mem _ hresult)
      simpa [recordAll, hfirst] using hrest

end Tally

/-! ## The loops -/

/-- Whether a combined result is the tally of the children up to the one that settles the matter,
finished with some decision; nothing is found applicable unless no child was. -/
def TalliedUpTo (settles : Decision → Bool) (tally : Tally) (children : List (Candidate Id))
    (result : Result) : Prop :=
  let results := (upTo (fun child => settles child.result.decision) children).map Candidate.result
  ∃ decision, result = (tally.recordAll results).finish decision ∧
    (decision = .notApplicable → ∀ result ∈ results, result.decision = .notApplicable)

namespace TalliedUpTo

variable {settles : Decision → Bool} {tally : Tally} {child : Candidate Id}
  {rest : List (Candidate Id)}

theorem nil {decision : Decision} : TalliedUpTo settles tally [] (tally.finish decision) :=
  ⟨decision, rfl, fun _ _ h => nomatch h⟩

theorem settled {decision : Decision} (h : settles child.result.decision = true)
    (hd : decision ≠ .notApplicable) :
    TalliedUpTo settles tally (child :: rest) ((tally.record child.result).finish decision) := by
  refine ⟨decision, ?_, fun heq => absurd heq hd⟩
  simp [upTo, h, Tally.recordAll]

theorem goOn {result : Result} (h : ¬ settles child.result.decision = true)
    (hrest : TalliedUpTo settles (tally.record child.result) rest result)
    (hkeep : result.decision = .notApplicable → child.result.decision = .notApplicable) :
    TalliedUpTo settles tally (child :: rest) result := by
  rcases hrest with ⟨decision, heq, hnone⟩
  have hfirst : upTo (fun child => settles child.result.decision) (child :: rest) =
      child :: upTo (fun child => settles child.result.decision) rest := by
    simp [upTo, h]
  refine ⟨decision, ?_, fun hd => ?_⟩
  · rw [heq, hfirst]
    rfl
  · rw [hfirst, List.map_cons, List.forall_mem_cons]
    exact ⟨hkeep (by rw [heq, Tally.finish_decision, hd]), hnone hd⟩

end TalliedUpTo

theorem Decision.ofEffect_ne_notApplicable (e : Effect) : ofEffect e ≠ notApplicable := by
  cases e <;> decide

namespace Seen

theorem eq_nothing_of_decision {seen : Seen} {winner : Effect}
    (h : seen.decision winner = .notApplicable) : seen = nothing := by
  rcases seen with ⟨loser, winnerError, loserError, eitherError⟩
  revert h
  cases winner <;> revert loser winnerError loserError eitherError <;> decide

theorem eq_nothing_of_note {seen : Seen} {winner : Effect} {decision : Decision}
    (h : seen.note winner decision = nothing) : seen = nothing ∧ decision = .notApplicable := by
  rcases seen with ⟨loser, winnerError, loserError, eitherError⟩
  rcases decision with _ | _ | extent | _
  case indeterminate => cases extent <;> cases winner <;> simp_all [note, nothing, Extent.allows]
  all_goals simp_all [note, nothing]

end Seen

namespace LegacySeen

theorem eq_nothing_of_decision {seen : LegacySeen} {winner : Effect}
    (h : seen.decision winner = .notApplicable) : seen = nothing := by
  rcases seen with ⟨loser, error, potentialWinner⟩
  revert h
  cases winner <;> revert loser error potentialWinner <;> decide

theorem eq_nothing_of_note {seen : LegacySeen} {winner : Effect} {level : Level}
    {effect : Option Effect} {decision : Decision}
    (h : seen.note winner level effect decision = nothing) :
    seen = nothing ∧ decision = .notApplicable := by
  cases decision <;> simp_all [note, nothing]

end LegacySeen

theorem combineOverrides_cons (winner : Effect) (tally : Tally) (seen : Seen)
    (child : Candidate Id) (rest : List (Candidate Id)) :
    Id.run (combineOverrides winner tally seen (child :: rest)) =
      if child.result.decision = .ofEffect winner then
        (tally.record child.result).finish (.ofEffect winner)
      else
        Id.run (combineOverrides winner (tally.record child.result)
          (seen.note winner child.result.decision) rest) := by
  simp only [combineOverrides, Id.run_bind, apply_ite Id.run, Id.run_pure]
  rfl

/-- Where nothing is found applicable, nothing has been seen. -/
theorem combineOverrides_tallied (winner : Effect) (tally : Tally) (seen : Seen)
    (children : List (Candidate Id)) :
    let result := Id.run (combineOverrides winner tally seen children)
    TalliedUpTo (· == .ofEffect winner) tally children result ∧
      (result.decision = .notApplicable → seen = .nothing) := by
  induction children generalizing tally seen with
  | nil =>
      refine ⟨.nil, fun h => ?_⟩
      rw [combineOverrides, Id.run_pure, Tally.finish_decision] at h
      exact Seen.eq_nothing_of_decision h
  | cons child rest ih =>
      rw [combineOverrides_cons]
      split
      case isTrue h =>
        refine ⟨.settled (by simpa using h) (Decision.ofEffect_ne_notApplicable winner), ?_⟩
        intro hd
        rw [Tally.finish_decision] at hd
        exact absurd hd (Decision.ofEffect_ne_notApplicable winner)
      case isFalse h =>
        rcases ih (tally.record child.result) (seen.note winner child.result.decision) with
          ⟨hrest, hseen⟩
        exact ⟨.goOn (by simpa using h) hrest fun hd => (Seen.eq_nothing_of_note (hseen hd)).2,
          fun hd => (Seen.eq_nothing_of_note (hseen hd)).1⟩

theorem combineUnlessOpposed_cons (fallback : Effect) (tally : Tally) (child : Candidate Id)
    (rest : List (Candidate Id)) :
    Id.run (combineUnlessOpposed fallback tally (child :: rest)) =
      if child.result.decision = .ofEffect fallback.opposite then
        (tally.record child.result).finish (.ofEffect fallback.opposite)
      else Id.run (combineUnlessOpposed fallback (tally.record child.result) rest) := by
  simp only [combineUnlessOpposed, Id.run_bind, apply_ite Id.run, Id.run_pure]
  rfl

/-- Something is always decided. -/
theorem combineUnlessOpposed_tallied (fallback : Effect) (tally : Tally)
    (children : List (Candidate Id)) :
    let result := Id.run (combineUnlessOpposed fallback tally children)
    TalliedUpTo (· == .ofEffect fallback.opposite) tally children result ∧
      result.decision ≠ .notApplicable := by
  induction children generalizing tally with
  | nil =>
      refine ⟨.nil, ?_⟩
      rw [combineUnlessOpposed, Id.run_pure, Tally.finish_decision]
      exact Decision.ofEffect_ne_notApplicable fallback
  | cons child rest ih =>
      rw [combineUnlessOpposed_cons]
      have hopposite := Decision.ofEffect_ne_notApplicable fallback.opposite
      split
      case isTrue h =>
        refine ⟨.settled (by simpa using h) hopposite, ?_⟩
        rwa [Tally.finish_decision]
      case isFalse h =>
        rcases ih (tally.record child.result) with ⟨hrest, hdecided⟩
        exact ⟨.goOn (by simpa using h) hrest fun hd => absurd hd hdecided, hdecided⟩

theorem combineLegacyOverrides_cons (winner : Effect) (level : Level) (tally : Tally)
    (seen : LegacySeen) (child : Candidate Id) (rest : List (Candidate Id)) :
    Id.run (combineLegacyOverrides winner level tally seen (child :: rest)) =
      if settlesLegacy winner level child.result.decision then
        (tally.record child.result).finish (.ofEffect winner)
      else
        Id.run (combineLegacyOverrides winner level (tally.record child.result)
          (seen.note winner level child.effect child.result.decision) rest) := by
  simp only [combineLegacyOverrides, Id.run_bind, apply_ite Id.run, Id.run_pure]
  rfl

/-- Where nothing is found applicable, nothing has been seen. -/
theorem combineLegacyOverrides_tallied (winner : Effect) (level : Level) (tally : Tally)
    (seen : LegacySeen) (children : List (Candidate Id)) :
    let result := Id.run (combineLegacyOverrides winner level tally seen children)
    TalliedUpTo (settlesLegacy winner level) tally children result ∧
      (result.decision = .notApplicable → seen = .nothing) := by
  induction children generalizing tally seen with
  | nil =>
      refine ⟨.nil, fun h => ?_⟩
      rw [combineLegacyOverrides, Id.run_pure, Tally.finish_decision] at h
      exact LegacySeen.eq_nothing_of_decision h
  | cons child rest ih =>
      rw [combineLegacyOverrides_cons]
      split
      case isTrue h =>
        refine ⟨.settled h (Decision.ofEffect_ne_notApplicable winner), ?_⟩
        intro hd
        rw [Tally.finish_decision] at hd
        exact absurd hd (Decision.ofEffect_ne_notApplicable winner)
      case isFalse h =>
        rcases ih (tally.record child.result)
            (seen.note winner level child.effect child.result.decision) with ⟨hrest, hseen⟩
        exact ⟨.goOn h hrest fun hd => (LegacySeen.eq_nothing_of_note (hseen hd)).2,
          fun hd => (LegacySeen.eq_nothing_of_note (hseen hd)).1⟩

/-! ## Methods that pass a child's result on -/

/-- The first applicable child is the last one that is looked at. -/
theorem combineFirstApplicable_run (children : List (Candidate Id)) :
    let result := Id.run (combineFirstApplicable children)
    (result = .notApplicable ∧ ∀ child ∈ children, child.result.decision = .notApplicable) ∨
      ∃ before child after, children = before ++ child :: after ∧ result = child.result ∧
        child.result.decision ≠ .notApplicable ∧
        ∀ c ∈ before, c.result.decision = .notApplicable := by
  induction children with
  | nil => exact .inl ⟨rfl, fun _ h => nomatch h⟩
  | cons child rest ih =>
      have hstep : Id.run (combineFirstApplicable (child :: rest)) =
          if child.result.decision = .notApplicable then Id.run (combineFirstApplicable rest)
          else child.result := by
        simp only [combineFirstApplicable, Id.run_bind, apply_ite Id.run, Id.run_pure]
        rfl
      rw [hstep]
      split
      case isFalse h => exact .inr ⟨[], child, rest, rfl, rfl, h, fun _ h => nomatch h⟩
      case isTrue h =>
        rcases ih with ⟨heq, hnone⟩ | ⟨before, first, after, rfl, heq, hfirst, hbefore⟩
        · exact .inl ⟨heq, List.forall_mem_cons.2 ⟨h, hnone⟩⟩
        · exact .inr ⟨child :: before, first, after, rfl, heq, hfirst,
            List.forall_mem_cons.2 ⟨h, hbefore⟩⟩

/-- The result is that of the only applicable child, or nothing was applicable, or an error. -/
theorem combineOnlyOneApplicable_run (found : Option (Candidate Id))
    (children : List (Candidate Id)) :
    let result := Id.run (combineOnlyOneApplicable found children)
    (∃ child, found.toList ++ children.filter Candidate.isApplicable = [child] ∧
        result = child.result) ∨
      result = .notApplicable ∨ ∃ error, result = .ofError .either error := by
  induction children generalizing found with
  | nil =>
      cases found with
      | none => exact .inr (.inl rfl)
      | some child => exact .inl ⟨child, rfl, rfl⟩
  | cons child rest ih =>
      simp only [combineOnlyOneApplicable, Id.run_bind]
      cases happlies : Id.run (child.applies ()) with
      | error error => exact .inr (.inr ⟨error, rfl⟩)
      | ok applies =>
          cases applies with
          | false =>
              have hskip : (child :: rest).filter Candidate.isApplicable =
                  rest.filter Candidate.isApplicable := by
                simp [Candidate.isApplicable, happlies]
              rw [hskip]
              exact ih found
          | true =>
              cases found with
              | some first => exact .inr (.inr ⟨_, rfl⟩)
              | none =>
                  have hkeep : (child :: rest).filter Candidate.isApplicable =
                      child :: rest.filter Candidate.isApplicable := by
                    simp [Candidate.isApplicable, happlies]
                  rw [hkeep]
                  exact ih (some child)

/-! ## What the combined result takes over -/

/-- The first item that settles a matter is the last one up to it. -/
theorem upTo_append_cons {α : Type} {settles : α → Bool} {before after : List α} {item : α}
    (hbefore : ∀ x ∈ before, settles x = false) (hitem : settles item = true) :
    upTo settles (before ++ item :: after) = before ++ [item] := by
  induction before with
  | nil => simp [upTo, hitem]
  | cons x before ih =>
      have hrest := ih fun y hy => hbefore y (List.mem_cons_of_mem _ hy)
      simp [upTo, hbefore x List.mem_cons_self, hrest]

theorem upTo_map {α β : Type} (settles : β → Bool) (f : α → β) (items : List α) :
    upTo settles (items.map f) = (upTo (fun item => settles (f item)) items).map f := by
  induction items with
  | nil => rfl
  | cons item rest ih =>
      simp only [List.map_cons, upTo, ih]
      split <;> rfl

theorem mem_of_mem_upTo {α : Type} {settles : α → Bool} {items : List α} {x : α}
    (h : x ∈ upTo settles items) : x ∈ items := by
  induction items with
  | nil => exact h
  | cons item rest ih =>
      rw [upTo] at h
      split at h
      · exact List.mem_cons.2 (.inl (List.mem_singleton.1 h))
      · rcases List.mem_cons.1 h with rfl | h
        · exact List.mem_cons_self
        · exact List.mem_cons_of_mem _ (ih h)

/-- Whether a result has the obligations and the advice of other results, in their order. -/
def Result.Gathers (result : Result) (results : List Result) : Prop :=
  result.obligations = results.flatMap Result.obligations ∧
    result.advice = results.flatMap Result.advice

theorem Result.gathers_self (result : Result) : result.Gathers [result] := by
  simp [Gathers]

/-- A tally takes over what the children with its decision have. -/
theorem TalliedUpTo.gathers {settles : Decision → Bool} {children : List (Candidate Id)}
    {result : Result} (h : TalliedUpTo settles .empty children result) {e : Effect}
    (hd : result.decision = .ofEffect e) :
    result.Gathers
      (((upTo (fun child => settles child.result.decision) children).map Candidate.result).filter
        fun result => result.decision = .ofEffect e) := by
  rcases h with ⟨decision, rfl, -⟩
  rw [Tally.finish_decision] at hd
  subst hd
  let results := (upTo (fun child => settles child.result.decision) children).map Candidate.result
  rcases Tally.finish_ofEffect (Tally.empty.recordAll results) e with ⟨hobligations, hadvice⟩
  rcases Tally.recordAll_contribution .empty results e with ⟨hobligations', hadvice'⟩
  have hempty : Tally.empty.contribution e = .none := by cases e <;> rfl
  rw [hempty] at hobligations' hadvice'
  exact ⟨hobligations.trans hobligations', hadvice.trans hadvice'⟩

namespace Method

variable {α : Type}

/-- The results of children that are contributors when they stand for themselves. -/
theorem contributors_map (method : Method) (child : α → Candidate Id) (e : Effect)
    (items : List α) :
    method.contributors id e (items.map child) = (method.contributors child e items).map child := by
  cases method <;>
    simp only [contributors, consulted, id_eq, upTo_map, List.filter_map, Function.comp_def]

theorem mem_of_mem_consulted (method : Method) {child : α → Candidate Id} {items : List α} {x : α}
    (h : x ∈ method.consulted child items) : x ∈ items := by
  cases method with
  | onlyOneApplicable => exact List.mem_of_mem_filter h
  | _ => exact mem_of_mem_upTo h

/-- A Permit or a Deny has the obligations and the advice of its contributors, in their order. -/
theorem combine_gathers (method : Method) (children : List (Candidate Id)) {e : Effect}
    (h : (Id.run (method.combine children)).decision = .ofEffect e) :
    (Id.run (method.combine children)).Gathers
      ((method.contributors id e children).map Candidate.result) := by
  have hfilter (items : List (Candidate Id)) :
      (items.map Candidate.result).filter (fun result => result.decision = .ofEffect e) =
        (items.filter fun child => child.result.decision = .ofEffect e).map Candidate.result := by
    rw [List.filter_map]
    rfl
  cases method with
  | overrides winner =>
      have hgathers := (combineOverrides_tallied winner .empty .nothing children).1.gathers h
      rwa [hfilter] at hgathers
  | unlessOpposed fallback =>
      have hgathers := (combineUnlessOpposed_tallied fallback .empty children).1.gathers h
      rwa [hfilter] at hgathers
  | legacyOverrides winner level =>
      have hgathers :=
        (combineLegacyOverrides_tallied winner level .empty .nothing children).1.gathers h
      rwa [hfilter] at hgathers
  | firstApplicable =>
      simp only [combine] at h ⊢
      rcases combineFirstApplicable_run children with
        ⟨heq, -⟩ | ⟨before, child, after, rfl, heq, hchild, hbefore⟩
      · rw [heq] at h
        exact absurd h.symm (Decision.ofEffect_ne_notApplicable e)
      · rw [heq] at h ⊢
        have hcontributors :
            contributors .firstApplicable id e (before ++ child :: after) = [child] := by
          -- Nothing is applicable before the child, and it settles the matter.
          have hlook : consulted .firstApplicable id (before ++ child :: after) =
              before ++ [child] :=
            upTo_append_cons (fun c hc => by simp [hbefore c hc]) (by simp [hchild])
          have hskip : before.filter (fun c => c.result.decision = .ofEffect e) = [] := by
            refine List.filter_eq_nil_iff.2 fun c hc => ?_
            simp [hbefore c hc, (Decision.ofEffect_ne_notApplicable e).symm]
          simp only [contributors, hlook, id_eq, List.filter_append, hskip]
          simp [h]
        rw [hcontributors]
        exact Result.gathers_self _
  | onlyOneApplicable =>
      simp only [combine] at h ⊢
      rcases combineOnlyOneApplicable_run none children with
        ⟨child, hone, heq⟩ | heq | ⟨error, heq⟩
      · rw [heq] at h ⊢
        have hcontributors : contributors .onlyOneApplicable id e children = [child] := by
          -- The only applicable child is the only one that is looked at.
          have hlook : consulted .onlyOneApplicable id children = [child] := hone
          simp [contributors, hlook, h]
        rw [hcontributors]
        exact Result.gathers_self _
      · rw [heq] at h
        exact absurd h.symm (Decision.ofEffect_ne_notApplicable e)
      · rw [heq] at h
        cases e <;> cases h

end Method

/-! ## Combined results are well-formed -/

/-- A tally of well-formed results is well-formed. -/
theorem TalliedUpTo.wellFormed {settles : Decision → Bool} {children : List (Candidate Id)}
    {result : Result} (h : TalliedUpTo settles .empty children result)
    (hchildren : ∀ child ∈ children, child.result.WellFormed) : result.WellFormed := by
  have hgathers {e : Effect} (hd : result.decision = .ofEffect e) := h.gathers hd
  rcases h with ⟨decision, rfl, hnone⟩
  cases heffect : decision.effect? with
  | none =>
      -- Without an effect nothing is taken over from the children.
      refine .of_bare ?_ ?_ ?_ fun hd => ?_
      · cases decision <;> simp [Tally.finish, Result.ofDecision, Decision.isIndeterminate]
      · cases decision <;> first | rfl | cases heffect
      · cases decision <;> first | rfl | cases heffect
      · rw [Tally.finish_decision] at hd
        rw [Tally.recordAll_of_notApplicable (hnone hd), Tally.finish_identifiers]
        rfl
  | some e =>
      obtain rfl := Decision.eq_ofEffect_of_effect? heffect
      have hd := Tally.finish_decision (Tally.empty.recordAll
        ((upTo (fun child => settles child.result.decision) children).map Candidate.result))
        (.ofEffect e)
      refine ⟨by cases e <;> simp [Tally.finish, Result.ofDecision, Decision.isIndeterminate,
        Decision.ofEffect], fun o ho => ?_, fun hna => ?_⟩
      · rcases hgathers hd with ⟨hobligations, hadvice⟩
        -- The obligation is one of a child with the same decision.
        have hsource : ∃ r ∈ ((upTo (fun child => settles child.result.decision) children).map
            Candidate.result).filter (fun r => r.decision = .ofEffect e),
            o ∈ r.obligations ++ r.advice := by
          rw [hobligations, hadvice, List.mem_append, List.mem_flatMap, List.mem_flatMap] at ho
          rcases ho with ⟨r, hr, ho⟩ | ⟨r, hr, ho⟩
          · exact ⟨r, hr, List.mem_append_left _ ho⟩
          · exact ⟨r, hr, List.mem_append_right _ ho⟩
        rcases hsource with ⟨r, hr, ho⟩
        rcases List.mem_filter.1 hr with ⟨hmem, hdecision⟩
        rcases List.mem_map.1 hmem with ⟨child, hchild, rfl⟩
        -- That child is well-formed, so the obligation is about its decision.
        rw [hd, ← of_decide_eq_true hdecision]
        exact (hchildren child (mem_of_mem_upTo hchild)).fulfilled o ho
      · rw [hd] at hna
        exact absurd hna (Decision.ofEffect_ne_notApplicable e)

theorem Method.combine_wellFormed (method : Method) {children : List (Candidate Id)}
    (h : ∀ child ∈ children, child.result.WellFormed) :
    (Id.run (method.combine children)).WellFormed := by
  cases method with
  | overrides winner =>
      exact (combineOverrides_tallied winner .empty .nothing children).1.wellFormed h
  | unlessOpposed fallback =>
      exact (combineUnlessOpposed_tallied fallback .empty children).1.wellFormed h
  | legacyOverrides winner level =>
      exact (combineLegacyOverrides_tallied winner level .empty .nothing children).1.wellFormed h
  | firstApplicable =>
      simp only [combine]
      rcases combineFirstApplicable_run children with
        ⟨heq, -⟩ | ⟨before, child, after, rfl, heq, -, -⟩
      · rw [heq]
        exact .ofDecision rfl
      · rw [heq]
        exact h child (List.mem_append_right _ List.mem_cons_self)
  | onlyOneApplicable =>
      simp only [combine]
      rcases combineOnlyOneApplicable_run none children with ⟨child, hone, heq⟩ | heq | ⟨error, heq⟩
      · rw [heq]
        have hmem : child ∈ children.filter Candidate.isApplicable := by
          rw [show children.filter Candidate.isApplicable = [child] from hone]
          exact List.mem_singleton_self child
        exact h child (List.mem_of_mem_filter hmem)
      · rw [heq]
        exact .ofDecision rfl
      · rw [heq]
        exact .ofError .either error

end Xacml
