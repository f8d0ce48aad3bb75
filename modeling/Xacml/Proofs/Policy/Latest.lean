import Mathlib.Data.List.Induction
import Xacml.Policy.Source
import Xacml.Proofs.Version.Order

/-!
# The latest version that a reference accepts

A reference stands for a tree among those that a collection of policies holds.

* `PolicyReference.Fits` says which trees a reference may stand for, and `PolicyReference.SameFor`
  which lists differ only in other trees,
* `PolicySnapshot.IsLastLatest` is the tree that a search for the latest version ends with: no tree
  of the list is later, and what stands behind it is earlier,
* `PolicySnapshot.find_latest`: a reference stands for the last one of the latest trees that it
  accepts, whatever else the collection holds, and in whichever order these trees stand if no two
  of them have equal versions.
-/

namespace Xacml

/-! ## What a reference accepts -/

/-- Whether a version meets every constraint. -/
structure VersionConstraints.Allows (constraints : VersionConstraints) (version : Version) :
    Prop where
  matched : ∀ pattern, constraints.version = some pattern → pattern.accepts version = true
  earliest : ∀ pattern, constraints.earliest = some pattern → pattern.lowerBounds version = true
  latest : ∀ pattern, constraints.latest = some pattern → pattern.upperBounds version = true

theorem VersionConstraints.satisfiedBy_iff {constraints : VersionConstraints} {version : Version} :
    constraints.satisfiedBy version = true ↔ constraints.Allows version := by
  simp only [satisfiedBy, Bool.and_eq_true, Option.all_eq_true]
  constructor
  · rintro ⟨⟨hmatched, hearliest⟩, hlatest⟩
    exact ⟨hmatched, hearliest, hlatest⟩
  · rintro ⟨hmatched, hearliest, hlatest⟩
    exact ⟨⟨hmatched, hearliest⟩, hlatest⟩

namespace PolicyReference

/-- Whether a reference may stand for a tree: a policy or a policy set, whichever is referred to,
with the identifier and a version that the reference asks for. -/
inductive Fits (reference : PolicyReference) : PolicyTree → Prop
  | policy (p : Policy) (kind : reference.kind = .policy) (id : p.header.id = reference.id)
      (version : reference.constraints.Allows p.header.version) : Fits reference (.policy p)
  | policySet (header : PolicyHeader) (children : List (Child PolicyTree))
      (kind : reference.kind = .policySet) (id : header.id = reference.id)
      (version : reference.constraints.Allows header.version) :
      Fits reference (.policySet header children)

theorem accepts_iff {reference : PolicyReference} {tree : PolicyTree} :
    reference.accepts tree = true ↔ reference.Fits tree := by
  cases tree with
  | policy p =>
      simp only [accepts, PolicyTree.kind?, PolicyTree.id, PolicyTree.header?, Bool.and_eq_true,
        beq_iff_eq, Option.some.injEq, Option.any_some, VersionConstraints.satisfiedBy_iff]
      constructor
      · rintro ⟨⟨kind, id⟩, version⟩
        exact .policy p kind.symm id version
      · intro h
        cases h with
        | policy _ kind id version => exact ⟨⟨kind.symm, id⟩, version⟩
  | policySet header children =>
      simp only [accepts, PolicyTree.kind?, PolicyTree.id, PolicyTree.header?, Bool.and_eq_true,
        beq_iff_eq, Option.some.injEq, Option.any_some, VersionConstraints.satisfiedBy_iff]
      constructor
      · rintro ⟨⟨kind, id⟩, version⟩
        exact .policySet header children kind.symm id version
      · intro h
        cases h with
        | policySet _ _ kind id version => exact ⟨⟨kind.symm, id⟩, version⟩
  | reference target =>
      constructor <;> intro h <;> cases h

/-- Whether two lists are the same for a reference: they differ only in trees that it does not fit,
of which any number may have been added, taken away or moved. -/
inductive SameFor (reference : PolicyReference) : List PolicyTree → List PolicyTree → Prop
  | nil : SameFor reference [] []
  | both {trees trees' : List PolicyTree} (tree : PolicyTree)
      (rest : SameFor reference trees trees') : SameFor reference (tree :: trees) (tree :: trees')
  | left {trees trees' : List PolicyTree} {tree : PolicyTree} (unfit : ¬reference.Fits tree)
      (rest : SameFor reference trees trees') : SameFor reference (tree :: trees) trees'
  | right {trees trees' : List PolicyTree} {tree : PolicyTree} (unfit : ¬reference.Fits tree)
      (rest : SameFor reference trees trees') : SameFor reference trees (tree :: trees')

theorem SameFor.filter_eq {reference : PolicyReference} {trees trees' : List PolicyTree}
    (h : reference.SameFor trees trees') :
    trees.filter reference.accepts = trees'.filter reference.accepts := by
  induction h with
  | nil => rfl
  | both tree _ ih => rw [List.filter_cons, List.filter_cons, ih]
  | left unfit _ ih => rw [List.filter_cons_of_neg (mt accepts_iff.1 unfit), ih]
  | right unfit _ ih => rw [List.filter_cons_of_neg (mt accepts_iff.1 unfit), ih]

end PolicyReference

namespace PolicySnapshot

/-! ## The last one of the latest trees -/

/-- Whether the version of one tree comes before that of another one. -/
def Precedes (tree other : PolicyTree) : Prop :=
  (versionOf tree).Before (versionOf other)

/-- Whether a tree is the last one of the latest trees in a list: no tree before it is later, and
every tree behind it is earlier. -/
def IsLastLatest (trees : List PolicyTree) (tree : PolicyTree) : Prop :=
  ∃ before after, trees = before ++ tree :: after ∧ (∀ other ∈ before, ¬Precedes tree other) ∧
    ∀ other ∈ after, Precedes other tree

section

variable {trees : List PolicyTree} {tree other : PolicyTree}

namespace IsLastLatest

theorem mem (h : IsLastLatest trees tree) : tree ∈ trees := by
  rcases h with ⟨before, after, rfl, -, -⟩
  simp

/-- No tree is later. -/
theorem not_precedes (h : IsLastLatest trees tree) (hother : other ∈ trees) :
    ¬Precedes tree other := by
  rcases h with ⟨before, after, rfl, hbefore, hafter⟩
  rcases List.mem_append.1 hother with hother | hother
  · exact hbefore other hother
  · rcases List.mem_cons.1 hother with rfl | hother
    · exact Version.not_before_self _
    · exact (hafter other hother).not_before

/-- An earlier tree may follow. -/
theorem concat_of_precedes (h : IsLastLatest trees tree) (hother : Precedes other tree) :
    IsLastLatest (trees ++ [other]) tree := by
  rcases h with ⟨before, after, rfl, hbefore, hafter⟩
  refine ⟨before, after ++ [other], by simp, hbefore, fun t ht => ?_⟩
  rcases List.mem_append.1 ht with ht | ht
  · exact hafter t ht
  · rw [List.mem_singleton.1 ht]
    exact hother

/-- What is not earlier takes the place of what was the latest so far. -/
theorem concat_of_not_precedes (h : IsLastLatest trees tree) (hother : ¬Precedes other tree) :
    IsLastLatest (trees ++ [other]) other := by
  refine ⟨trees, [], rfl, fun t ht hlater => ?_, by simp⟩
  have htree : (versionOf t).AtMost (versionOf tree) := Version.atMost_iff.2 (h.not_precedes ht)
  exact hother (Version.Before.trans_atMost hlater htree)

/-- There is only one such tree. -/
theorem unique (h : IsLastLatest trees tree) (h' : IsLastLatest trees other) : tree = other := by
  rcases h with ⟨before, after, htrees, hbefore, hafter⟩
  rcases h' with ⟨before', after', htrees', hbefore', hafter'⟩
  rw [htrees] at htrees'
  -- Of two different places one is behind the other one.
  rcases List.append_eq_append_iff.1 htrees' with ⟨between, hbetween, hrest⟩ |
    ⟨between, hbetween, hrest⟩
  · cases between with
    | nil => exact (List.cons.inj hrest).1
    | cons first between =>
        rw [List.cons_append, List.cons.injEq] at hrest
        have hother : Precedes other tree := hafter other (by simp [hrest.2])
        exact absurd hother (hbefore' tree (by simp [hbetween, hrest.1]))
  · cases between with
    | nil => exact (List.cons.inj hrest).1.symm
    | cons first between =>
        rw [List.cons_append, List.cons.injEq] at hrest
        have htree : Precedes tree other := hafter' tree (by simp [hrest.2])
        exact absurd htree (hbefore other (by simp [hbetween, hrest.1]))

/-- Where no two versions are equal, the order of the trees does not matter. -/
theorem perm {trees' : List PolicyTree} (h : IsLastLatest trees tree) (hperm : trees.Perm trees')
    (hdiffer : trees.Pairwise fun t u => Precedes t u ∨ Precedes u t) :
    IsLastLatest trees' tree := by
  have hmem := hperm.mem_iff.1 h.mem
  rcases List.append_of_mem hmem with ⟨before', after', rfl⟩
  have hdiffer' := hdiffer.perm hperm Or.symm
  rw [List.pairwise_append, List.pairwise_cons] at hdiffer'
  rcases hdiffer' with ⟨-, ⟨hafter, -⟩, hacross⟩
  refine ⟨before', after', rfl, fun t ht => ?_, fun t ht => ?_⟩
  · exact h.not_precedes (hperm.mem_iff.2 (by simp [ht]))
  · exact (hafter t ht).resolve_left (h.not_precedes (hperm.mem_iff.2 (by simp [ht])))

end IsLastLatest

theorem later_of_precedes (h : Precedes other tree) : later (some tree) other = some tree :=
  if_pos (Version.order_eq_lt_iff.2 h)

theorem later_of_not_precedes (h : ¬Precedes other tree) : later (some tree) other = some other :=
  if_neg (mt Version.order_eq_lt_iff.1 h)

/-- A search for the latest version ends with the last one of the latest trees. -/
theorem foldl_later (trees : List PolicyTree) :
    trees.foldl later none = none ∧ trees = [] ∨
      ∃ tree, trees.foldl later none = some tree ∧ IsLastLatest trees tree := by
  -- What has been found so far is the last one of the latest trees that have been seen.
  induction trees using List.reverseRecOn with
  | nil => exact .inl ⟨rfl, rfl⟩
  | append_singleton trees next ih =>
      rw [List.foldl_append, List.foldl_cons, List.foldl_nil]
      right
      rcases ih with ⟨hnone, rfl⟩ | ⟨tree, hsome, hlatest⟩
      · rw [hnone]
        exact ⟨next, rfl, [], [], rfl, by simp, by simp⟩
      · rw [hsome]
        by_cases hnext : Precedes next tree
        · exact ⟨tree, later_of_precedes hnext, hlatest.concat_of_precedes hnext⟩
        · exact ⟨next, later_of_not_precedes hnext, hlatest.concat_of_not_precedes hnext⟩

theorem foldl_later_eq_none_iff : trees.foldl later none = none ↔ trees = [] := by
  rcases foldl_later trees with ⟨hnone, hnil⟩ | ⟨tree, hsome, hlatest⟩
  · simp [hnil]
  · have hne : trees ≠ [] := List.ne_nil_of_mem hlatest.mem
    simp [hsome, hne]

theorem foldl_later_eq_some_iff :
    trees.foldl later none = some tree ↔ IsLastLatest trees tree := by
  rcases foldl_later trees with ⟨hnone, rfl⟩ | ⟨found, hsome, hlatest⟩
  · constructor
    · intro h
      cases h
    · intro h
      cases h.mem
  · rw [hsome, Option.some.injEq]
    constructor
    · rintro rfl
      exact hlatest
    · intro h
      exact hlatest.unique h

theorem foldl_later_perm {trees' : List PolicyTree} (hperm : trees.Perm trees')
    (hdiffer : trees.Pairwise fun t u => Precedes t u ∨ Precedes u t) :
    trees'.foldl later none = trees.foldl later none := by
  rcases foldl_later trees with ⟨hnone, rfl⟩ | ⟨tree, hsome, hlatest⟩
  · rw [List.nil_perm.1 hperm]
  · rw [hsome, foldl_later_eq_some_iff]
    exact hlatest.perm hperm hdiffer

/-! ## What a reference stands for -/

/-- The trees that a reference may stand for, in the order in which they are searched. -/
def fitting (snapshot : PolicySnapshot) (reference : PolicyReference) : List PolicyTree :=
  snapshot.all.filter reference.accepts

/-- Whether a reference stands for a tree in a list: it fits the tree, no tree before it that fits
is later, and every tree behind it that fits is earlier. -/
def StandsFor (reference : PolicyReference) (trees : List PolicyTree) (tree : PolicyTree) : Prop :=
  ∃ before after, trees = before ++ tree :: after ∧ reference.Fits tree ∧
    (∀ other ∈ before, reference.Fits other → ¬Precedes tree other) ∧
    ∀ other ∈ after, reference.Fits other → Precedes other tree

theorem standsFor_iff {reference : PolicyReference} :
    StandsFor reference trees tree ↔ IsLastLatest (trees.filter reference.accepts) tree := by
  constructor
  · rintro ⟨before, after, rfl, hfits, hbefore, hafter⟩
    refine ⟨before.filter reference.accepts, after.filter reference.accepts, ?_, ?_, ?_⟩
    · rw [List.filter_append, List.filter_cons_of_pos (PolicyReference.accepts_iff.2 hfits)]
    · intro other hother
      rw [List.mem_filter, PolicyReference.accepts_iff] at hother
      exact hbefore other hother.1 hother.2
    · intro other hother
      rw [List.mem_filter, PolicyReference.accepts_iff] at hother
      exact hafter other hother.1 hother.2
  · rintro ⟨kept, kept', htrees, hbefore, hafter⟩
    rcases List.filter_eq_append_iff.1 htrees with ⟨before, rest, rfl, rfl, hrest⟩
    rcases List.filter_eq_cons_iff.1 hrest with ⟨skipped, after, rfl, hskipped, htree, rfl⟩
    refine ⟨before ++ skipped, after, by simp, PolicyReference.accepts_iff.1 htree, ?_, ?_⟩
    · intro other hother hfits
      rw [← PolicyReference.accepts_iff] at hfits
      rcases List.mem_append.1 hother with hother | hother
      · exact hbefore other (List.mem_filter.2 ⟨hother, hfits⟩)
      · exact absurd hfits (hskipped other hother)
    · intro other hother hfits
      rw [← PolicyReference.accepts_iff] at hfits
      exact hafter other (List.mem_filter.2 ⟨hother, hfits⟩)

end

/-- A reference stands for nothing if no policy and no policy set fits it.  Otherwise it stands for
a tree that fits it and that no other such tree is later than; of those that are as late it is the
last one, roots coming before the library.  So nothing depends on the trees that do not fit, nor on
the order of those that do, if no two of them have equal versions.  Versions are in a total
preorder: the first place where two of them differ decides, a missing number counting as zero. -/
theorem find_latest (snapshot : PolicySnapshot) (reference : PolicyReference) :
    (snapshot.find reference = none ↔
        ∀ tree ∈ snapshot.roots ++ snapshot.library, ¬reference.Fits tree) ∧
      (∀ tree, snapshot.find reference = some tree ↔
        StandsFor reference (snapshot.roots ++ snapshot.library) tree) ∧
      (∀ other : PolicySnapshot, reference.SameFor snapshot.all other.all →
        other.find reference = snapshot.find reference) ∧
      (∀ other : PolicySnapshot, (snapshot.fitting reference).Perm (other.fitting reference) →
        ((snapshot.fitting reference).Pairwise fun t u => Precedes t u ∨ Precedes u t) →
          other.find reference = snapshot.find reference) ∧
      (∀ a b : Version, (a.order b = .lt ↔ a.Before b) ∧ (a.AtMost b ↔ ¬b.Before a) ∧
        (a.AtMost b ∨ b.AtMost a)) ∧
      ∀ a b c : Version, a.AtMost b → b.AtMost c → a.AtMost c := by
  refine ⟨?_, fun tree => ?_, fun other hsame => ?_, fun other hperm hdiffer => ?_, fun a b => ?_,
    fun a b c => Version.atMost_trans⟩
  · rw [find, foldl_later_eq_none_iff, List.filter_eq_nil_iff]
    simp only [PolicyReference.accepts_iff, all]
  · rw [find, foldl_later_eq_some_iff, standsFor_iff, all]
  · rw [find, find, hsame.filter_eq]
  · exact foldl_later_perm hperm hdiffer
  · exact ⟨Version.order_eq_lt_iff, Version.atMost_iff, Version.atMost_total a b⟩

end PolicySnapshot

end Xacml
