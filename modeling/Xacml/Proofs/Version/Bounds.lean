import Xacml.Proofs.Version.Order
import Xacml.Version.Pattern

/-!
# Bounds of versions

A pattern bounds a version if the version is no earlier, or no later, than something that the
pattern matches.

* `VersionPattern.Matches` are the versions that a pattern matches,
* `VersionPattern.least` is the least of them: wildcards stand for zero,
* `VersionPattern.opened` forgets what follows the first wildcard,
* `VersionPattern.bounds_exact`: a pattern bounds from above what is no later than some match, but
  it bounds from below what is no earlier than some match of the opened pattern.  Where a positive
  number follows a wildcard, that is more than what is no earlier than a match of the pattern.
-/

namespace Xacml

namespace VersionPattern

/-- Whether a pattern matches a version that has numbers at all. -/
def Matches (pattern : VersionPattern) (version : Version) : Prop :=
  version.numbers ≠ [] ∧ pattern.accepts version = true

/-- The least numbers that match the parts of a pattern. -/
def leastOf : List Part → List Nat
  | [] => []
  | .number n :: parts => n :: leastOf parts
  | .any :: parts => 0 :: leastOf parts
  | .rest :: _ => [0]

/-- The least version that a pattern matches. -/
def least (pattern : VersionPattern) : Version :=
  ⟨leastOf pattern.parts⟩

/-- The parts up to the first wildcard, and any further numbers. -/
def openedOf : List Part → List Part
  | [] => []
  | .number n :: parts => .number n :: openedOf parts
  | .any :: _ | .rest :: _ => [.rest]

/-- The pattern in which anything may follow from the first wildcard on. -/
def opened (pattern : VersionPattern) : VersionPattern :=
  ⟨openedOf pattern.parts⟩

/-! ## Patterns that have been read -/

/-- A pattern that has been read has a part, and `+` at most at its end. -/
theorem parts_of_read {text : String} {pattern : VersionPattern} (h : read text = .ok pattern) :
    pattern.parts ≠ [] ∧ .rest ∉ pattern.parts.dropLast := by
  simp only [read] at h
  split at h
  case h_1 parts hparts =>
    split at h
    case isTrue => cases h
    case isFalse hrest =>
      cases h
      refine ⟨?_, by simpa using hrest⟩
      rintro rfl
      -- Even the empty text is one piece, and each piece gives a part.
      cases hpieces : text.toList.splitOn '.' with
      | nil => exact List.splitOn_ne_nil _ _ hpieces
      | cons piece pieces =>
          rw [hpieces, List.mapM_cons] at hparts
          simp [Option.bind_eq_some_iff] at hparts
  case h_2 => cases h

/-! ## The least match -/

variable {parts : List Part} {numbers : List Nat}

theorem acceptsFrom_leastOf (parts : List Part) : acceptsFrom parts (leastOf parts) = true := by
  induction parts with
  | nil => rfl
  | cons part parts ih =>
      cases part with
      | number n => simp [leastOf, acceptsFrom, ih]
      | any => simp [leastOf, acceptsFrom, ih]
      | rest => rfl

/-- What matches a pattern matches it opened. -/
theorem acceptsFrom_openedOf (h : acceptsFrom parts numbers = true) :
    acceptsFrom (openedOf parts) numbers = true := by
  induction parts generalizing numbers with
  | nil => exact h
  | cons part parts ih =>
      cases part with
      | rest => rfl
      | any => rfl
      | number n =>
          cases numbers with
          | nil => cases h
          | cons m numbers =>
              simp only [openedOf, acceptsFrom, Bool.and_eq_true] at h ⊢
              exact ⟨h.1, ih h.2⟩

theorem leastOf_ne_nil (h : parts ≠ []) : leastOf parts ≠ [] := by
  cases parts with
  | nil => exact absurd rfl h
  | cons part parts => cases part <;> simp [leastOf]

/-- Whatever matches is no earlier than the least match. -/
theorem leastOf_atMost (h : acceptsFrom parts numbers = true) :
    Version.orderOf (leastOf parts) numbers ≠ .gt := by
  induction parts generalizing numbers with
  | nil => exact Version.orderOf_nil_ne_gt numbers
  | cons part parts ih =>
      cases part with
      | rest => exact Version.orderOf_zero_ne_gt numbers
      | any =>
          cases numbers with
          | nil => cases h
          | cons m numbers =>
              rw [leastOf, Version.orderOf_cons_ne_gt_iff]
              rcases Nat.eq_zero_or_pos m with rfl | hpos
              · exact .inr ⟨rfl, ih h⟩
              · exact .inl hpos
      | number n =>
          cases numbers with
          | nil => cases h
          | cons m numbers =>
              simp only [acceptsFrom, Bool.and_eq_true, beq_iff_eq] at h
              exact Version.orderOf_cons_ne_gt_iff.2 (.inr ⟨h.1, ih h.2⟩)

theorem matches_least {pattern : VersionPattern} (h : pattern.parts ≠ []) :
    pattern.Matches pattern.least :=
  ⟨leastOf_ne_nil h, acceptsFrom_leastOf pattern.parts⟩

/-- Some match is no later than a version exactly if the least match is. -/
theorem exists_matches_atMost_iff {pattern : VersionPattern} (h : pattern.parts ≠ [])
    (version : Version) :
    (∃ w, pattern.Matches w ∧ w.AtMost version) ↔ pattern.least.AtMost version := by
  constructor
  · rintro ⟨w, ⟨-, haccepts⟩, hw⟩
    exact Version.orderOf_trans (leastOf_atMost haccepts) hw
  · intro hleast
    exact ⟨pattern.least, matches_least h, hleast⟩

/-! ## Bounds -/

theorem orderFrom_number (wild : Ordering) (n : Nat) (parts : List Part) (numbers : List Nat) :
    orderFrom wild (.number n :: parts) numbers =
      (compare (numbers.headD 0) n).then (orderFrom wild parts numbers.tail) := by
  cases numbers <;> simp [orderFrom]

/-- A version is bounded from above exactly if it is no later than some match.  At a wildcard, a
match can exceed any number, and then what follows does not count. -/
theorem orderFrom_ne_gt_iff :
    orderFrom .lt parts numbers ≠ .gt ↔
      ∃ found, acceptsFrom parts found = true ∧ Version.orderOf numbers found ≠ .gt := by
  induction parts generalizing numbers with
  | nil =>
      have hnil (found : List Nat) : acceptsFrom [] found = true ↔ found = [] := by
        cases found <;> simp [acceptsFrom]
      simp only [hnil, exists_eq_left, Version.orderOf_nil_right_ne_gt_iff, orderFrom]
      split
      case isTrue hsome => simpa [Nat.pos_iff_ne_zero] using hsome
      case isFalse hnone => simpa using hnone
  | cons part parts ih =>
      cases part with
      | number n =>
          rw [orderFrom_number, Version.then_ne_gt_iff, ih]
          constructor
          · rintro (hlt | ⟨heq, found, hfound, horder⟩)
            · refine ⟨n :: leastOf parts, by simp [acceptsFrom, acceptsFrom_leastOf], ?_⟩
              exact Version.orderOf_ne_gt_iff.2 (.inl hlt)
            · refine ⟨n :: found, by simp [acceptsFrom, hfound], ?_⟩
              exact Version.orderOf_ne_gt_iff.2 (.inr ⟨heq, horder⟩)
          · rintro ⟨found, hfound, horder⟩
            cases found with
            | nil => cases hfound
            | cons m found =>
                simp only [acceptsFrom, Bool.and_eq_true, beq_iff_eq] at hfound
                rcases hfound with ⟨rfl, hfound⟩
                rcases Version.orderOf_ne_gt_iff.1 horder with hlt | ⟨heq, htail⟩
                · exact .inl hlt
                · exact .inr ⟨heq, found, hfound, htail⟩
      | any =>
          refine iff_of_true (by simp [orderFrom]) ?_
          refine ⟨(numbers.headD 0 + 1) :: leastOf parts, ?_, ?_⟩
          · simp [acceptsFrom, acceptsFrom_leastOf]
          · exact Version.orderOf_ne_gt_iff.2 (.inl (Nat.lt_succ_self _))
      | rest =>
          refine iff_of_true (by simp [orderFrom]) ⟨[numbers.headD 0 + 1], rfl, ?_⟩
          exact Version.orderOf_ne_gt_iff.2 (.inl (Nat.lt_succ_self _))

theorem upperBounds_iff {pattern : VersionPattern} (h : pattern.parts ≠ []) (version : Version) :
    pattern.upperBounds version = true ↔ ∃ w, pattern.Matches w ∧ version.AtMost w := by
  have hbound : pattern.upperBounds version = true ↔
      orderFrom .lt pattern.parts version.numbers ≠ .gt := by
    rw [upperBounds, bne_iff_ne]
  rw [hbound, orderFrom_ne_gt_iff]
  constructor
  · rintro ⟨found, hfound, horder⟩
    cases found with
    | cons n found => exact ⟨⟨n :: found⟩, ⟨List.cons_ne_nil _ _, hfound⟩, horder⟩
    | nil =>
        -- Where no number is needed, a zero does no harm.
        have hzero : acceptsFrom pattern.parts [0] = true := by
          cases hparts : pattern.parts with
          | nil => exact absurd hparts h
          | cons part parts =>
              rw [hparts] at hfound
              cases part with
              | rest => rfl
              | _ => cases hfound
        exact ⟨⟨[0]⟩, ⟨List.cons_ne_nil _ _, hzero⟩,
          Version.orderOf_trans horder (Version.orderOf_nil_ne_gt _)⟩
  · rintro ⟨w, ⟨-, haccepts⟩, hw⟩
    exact ⟨w.numbers, haccepts, hw⟩

/-- A version is bounded from below exactly if it is no earlier than the least match of the opened
pattern. -/
theorem orderFrom_ne_lt_iff :
    orderFrom .gt parts numbers ≠ .lt ↔
      Version.orderOf (leastOf (openedOf parts)) numbers ≠ .gt := by
  induction parts generalizing numbers with
  | nil =>
      refine iff_of_true ?_ (Version.orderOf_nil_ne_gt numbers)
      rw [orderFrom]
      split <;> decide
  | cons part parts ih =>
      cases part with
      | number n =>
          rw [orderFrom_number, Version.then_ne_lt_iff, ih, openedOf, leastOf,
            Version.orderOf_cons_ne_gt_iff]
      | any => exact iff_of_true (by simp [orderFrom]) (Version.orderOf_zero_ne_gt numbers)
      | rest => exact iff_of_true (by simp [orderFrom]) (Version.orderOf_zero_ne_gt numbers)

theorem lowerBounds_iff (pattern : VersionPattern) (version : Version) :
    pattern.lowerBounds version = true ↔ pattern.opened.least.AtMost version := by
  rw [lowerBounds, bne_iff_ne, orderFrom_ne_lt_iff]
  rfl

/-! ## Numbers that follow a wildcard -/

/-- The zeros among the least numbers: nothing else is asked for. -/
theorem leastOf_eq_zeros_iff (hrest : .rest ∉ parts.dropLast) :
    (∀ n ∈ leastOf parts, n = 0) ↔ ∀ n, .number n ∈ parts → n = 0 := by
  induction parts with
  | nil => simp [leastOf]
  | cons part parts ih =>
      cases parts with
      | nil => cases part <;> simp [leastOf]
      | cons next parts =>
          rw [List.dropLast_cons_cons, List.mem_cons, not_or] at hrest
          have ih := ih hrest.2
          cases part with
          | number n => simp [leastOf, ih]
          | any => simp [leastOf, ih]
          | rest => exact absurd rfl hrest.1

/-- Whether a positive number follows a wildcard. -/
def NumberFollows (parts : List Part) : Prop :=
  ∃ before after n, parts = before ++ .any :: after ∧ .number n ∈ after ∧ 0 < n

theorem numberFollows_number_cons_iff {n : Nat} :
    NumberFollows (.number n :: parts) ↔ NumberFollows parts := by
  constructor
  · rintro ⟨before, after, m, hparts, hm, hpos⟩
    cases before with
    | nil => cases hparts
    | cons first before =>
        rw [List.cons_append, List.cons.injEq] at hparts
        exact ⟨before, after, m, hparts.2, hm, hpos⟩
  · rintro ⟨before, after, m, rfl, hm, hpos⟩
    exact ⟨.number n :: before, after, m, rfl, hm, hpos⟩

theorem numberFollows_any_cons_iff :
    NumberFollows (.any :: parts) ↔ ∃ n, .number n ∈ parts ∧ 0 < n := by
  constructor
  · rintro ⟨before, after, n, hparts, hn, hpos⟩
    refine ⟨n, ?_, hpos⟩
    cases before with
    | nil =>
        rw [List.nil_append, List.cons.injEq] at hparts
        exact hparts.2 ▸ hn
    | cons first before =>
        rw [List.cons_append, List.cons.injEq] at hparts
        rw [hparts.2]
        exact List.mem_append_right _ (List.mem_cons_of_mem _ hn)
  · rintro ⟨n, hn, hpos⟩
    exact ⟨[], parts, n, rfl, hn, hpos⟩

theorem not_numberFollows_of_any_notMem (h : .any ∉ parts) : ¬NumberFollows parts := by
  rintro ⟨before, after, n, rfl, -, -⟩
  exact h (List.mem_append_right _ List.mem_cons_self)

/-- Opening a pattern makes its least match earlier exactly if a positive number follows a
wildcard. -/
theorem leastOf_openedOf_iff (hrest : .rest ∉ parts.dropLast) :
    Version.orderOf (leastOf parts) (leastOf (openedOf parts)) ≠ .gt ↔ ¬NumberFollows parts := by
  induction parts with
  | nil =>
      refine iff_of_true (Version.orderOf_nil_ne_gt _) ?_
      exact not_numberFollows_of_any_notMem List.not_mem_nil
  | cons part parts ih =>
      have htail : .rest ∉ parts.dropLast := by
        intro hmem
        cases parts with
        | nil => cases hmem
        | cons next parts => exact hrest (List.mem_cons_of_mem _ hmem)
      cases part with
      | number n =>
          rw [numberFollows_number_cons_iff, ← ih htail, leastOf, openedOf, leastOf,
            Version.orderOf_cons_ne_gt_iff]
          simp
      | any =>
          rw [numberFollows_any_cons_iff, leastOf, openedOf, leastOf,
            Version.orderOf_cons_ne_gt_iff]
          -- The first numbers are both zero, and no number is left to compare the others with.
          simp only [List.headD_cons, Nat.lt_irrefl, true_and, false_or, List.tail_cons,
            Version.orderOf_nil_right_ne_gt_iff, leastOf_eq_zeros_iff htail, not_exists, not_and,
            Nat.not_lt, Nat.le_zero]
      | rest =>
          have hnil : parts = [] := by
            cases parts with
            | nil => rfl
            | cons next parts => exact absurd List.mem_cons_self hrest
          subst hnil
          exact iff_of_true (Version.orderOf_zero_ne_gt _)
            (not_numberFollows_of_any_notMem (by decide))

/-! ## Exact bounds -/

/-- A pattern that has been read bounds from above exactly the versions that are no later than some
match.  From below, it bounds those that are no earlier than some match of the pattern opened at its
first wildcard; these are the versions that are no earlier than some match of the pattern itself,
that is, than its least match, unless a positive number follows a wildcard. -/
theorem bounds_exact {text : String} {pattern : VersionPattern} (h : read text = .ok pattern) :
    (∀ version, pattern.upperBounds version = true ↔
        ∃ w, pattern.Matches w ∧ version.AtMost w) ∧
      (∀ version, pattern.lowerBounds version = true ↔
        ∃ w, pattern.opened.Matches w ∧ w.AtMost version) ∧
      (∀ version, (∃ w, pattern.Matches w ∧ w.AtMost version) ↔ pattern.least.AtMost version) ∧
      ((∀ version, pattern.lowerBounds version = true ↔
          ∃ w, pattern.Matches w ∧ w.AtMost version) ↔
        ¬NumberFollows pattern.parts) := by
  rcases parts_of_read h with ⟨hne, hrest⟩
  have hopened : pattern.opened.parts ≠ [] := by
    simp only [opened]
    cases hparts : pattern.parts with
    | nil => exact absurd hparts hne
    | cons part parts => cases part <;> simp [openedOf]
  refine ⟨upperBounds_iff hne, ?_, exists_matches_atMost_iff hne, ?_⟩
  · intro version
    rw [lowerBounds_iff, exists_matches_atMost_iff hopened]
  · rw [← leastOf_openedOf_iff hrest]
    constructor
    · intro hbounds
      -- The least match of the opened pattern is bounded from below.
      have hleast : pattern.lowerBounds pattern.opened.least = true := by
        rw [lowerBounds_iff]
        exact Version.orderOf_self _
      exact (exists_matches_atMost_iff hne _).1 ((hbounds _).1 hleast)
    · intro hleast version
      rw [lowerBounds_iff, exists_matches_atMost_iff hne]
      constructor
      · intro hversion
        exact Version.orderOf_trans hleast hversion
      · intro hversion
        have hopen : acceptsFrom (openedOf pattern.parts) (leastOf pattern.parts) = true :=
          acceptsFrom_openedOf (acceptsFrom_leastOf pattern.parts)
        exact Version.orderOf_trans (leastOf_atMost hopen) hversion

namespace WildcardInside

/-- Any second number is fine, but the third one is not. -/
def pattern : VersionPattern := ⟨[.number 1, .any, .number 3]⟩

/-- The version `1.0`. -/
def version : Version := ⟨[1, 0]⟩

/-- No match is as early as `1.0`, but the bound does not see the number after the wildcard. -/
theorem bounds_exact_inside :
    read "1.*.3" = .ok pattern ∧ pattern.lowerBounds version = true ∧
      ¬∃ w, pattern.Matches w ∧ w.AtMost version := by
  have hread : read "1.*.3" = .ok pattern := rfl
  rcases bounds_exact hread with ⟨-, -, hleast, -⟩
  refine ⟨hread, by decide, ?_⟩
  rw [hleast]
  intro hversion
  -- The least match is `1.0.3`.
  have hthird : Version.orderOf [3] [] ≠ .gt := by
    simpa [Version.AtMost, Version.order, Version.orderOf, least, leastOf, pattern, version]
      using hversion
  exact absurd (Version.orderOf_nil_right_ne_gt_iff.1 hthird 3 List.mem_cons_self) (by decide)

end WildcardInside

end VersionPattern

end Xacml
