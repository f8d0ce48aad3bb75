import Xacml.Version.Basic

/-!
# The order of versions

Versions are compared number by number, and a version that has run out of numbers goes on with
zeros.

* `Version.orderOf_step`: one step compares the first numbers, of which a missing one is zero,
* `Version.AtMost` says that a version is no later than another one,
* `Version.orderOf_trans`: being no later carries over,
* `Version.Before` says it without lists: the first place where two versions differ decides,
* `Version.atMost_total` and `Version.atMost_trans`: this is a total preorder.
-/

namespace Xacml

namespace Version

/-- Whether a version is no later than another one. -/
def AtMost (a b : Version) : Prop :=
  a.order b ≠ .gt

/-! ## One step -/

/-- The first numbers decide unless they are equal; a missing one counts as zero. -/
theorem orderOf_step (as bs : List Nat) :
    orderOf as bs = (compare (as.headD 0) (bs.headD 0)).then (orderOf as.tail bs.tail) := by
  cases as with
  | nil =>
      cases bs with
      | nil => simp [orderOf]
      | cons b bs => simp [orderOf]
  | cons a as =>
      cases bs with
      | nil => simp [orderOf]
      | cons b bs => simp [orderOf]

theorem then_ne_gt_iff {a b : Nat} {o : Ordering} :
    (compare a b).then o ≠ .gt ↔ a < b ∨ a = b ∧ o ≠ .gt := by
  rcases Nat.lt_trichotomy a b with hlt | heq | hgt
  · have hcompare : compare a b = .lt := Nat.compare_eq_lt.2 hlt
    simp [hcompare, hlt]
  · simp [heq]
  · have hcompare : compare a b = .gt := Nat.compare_eq_gt.2 hgt
    simp [hcompare, Nat.not_lt_of_gt hgt, Nat.ne_of_gt hgt]

theorem then_ne_lt_iff {a b : Nat} {o : Ordering} :
    (compare a b).then o ≠ .lt ↔ b < a ∨ b = a ∧ o ≠ .lt := by
  rcases Nat.lt_trichotomy a b with hlt | heq | hgt
  · have hcompare : compare a b = .lt := Nat.compare_eq_lt.2 hlt
    simp [hcompare, Nat.not_lt_of_gt hlt, Nat.ne_of_gt hlt]
  · simp [heq]
  · have hcompare : compare a b = .gt := Nat.compare_eq_gt.2 hgt
    simp [hcompare, hgt]

theorem orderOf_ne_gt_iff {as bs : List Nat} :
    orderOf as bs ≠ .gt ↔
      as.headD 0 < bs.headD 0 ∨ as.headD 0 = bs.headD 0 ∧ orderOf as.tail bs.tail ≠ .gt := by
  rw [orderOf_step]
  exact then_ne_gt_iff

theorem orderOf_cons_ne_gt_iff {a : Nat} {as bs : List Nat} :
    orderOf (a :: as) bs ≠ .gt ↔
      a < bs.headD 0 ∨ a = bs.headD 0 ∧ orderOf as bs.tail ≠ .gt :=
  orderOf_ne_gt_iff

/-! ## Zeros -/

/-- Nothing comes before a version without numbers, which stands for zeros. -/
theorem orderOf_nil_ne_gt (bs : List Nat) : orderOf [] bs ≠ .gt := by
  induction bs with
  | nil => simp [orderOf]
  | cons b bs ih =>
      rw [orderOf_ne_gt_iff]
      rcases Nat.eq_zero_or_pos b with rfl | hpos
      · exact .inr ⟨rfl, ih⟩
      · exact .inl hpos

/-- A zero at the end is as good as no number. -/
theorem orderOf_zero_ne_gt (bs : List Nat) : orderOf [0] bs ≠ .gt := by
  rw [orderOf_cons_ne_gt_iff]
  rcases Nat.eq_zero_or_pos (bs.headD 0) with hzero | hpos
  · exact .inr ⟨hzero.symm, orderOf_nil_ne_gt _⟩
  · exact .inl hpos

/-- Only zeros are no later than a version without numbers. -/
theorem orderOf_nil_right_ne_gt_iff {as : List Nat} :
    orderOf as [] ≠ .gt ↔ ∀ n ∈ as, n = 0 := by
  induction as with
  | nil => simp [orderOf]
  | cons a as ih =>
      rw [orderOf_cons_ne_gt_iff, List.forall_mem_cons, ← ih]
      simp

theorem orderOf_self (as : List Nat) : orderOf as as ≠ .gt := by
  induction as with
  | nil => exact orderOf_nil_ne_gt []
  | cons a as ih => exact orderOf_cons_ne_gt_iff.2 (.inr ⟨rfl, ih⟩)

/-! ## Transitivity -/

/-- The first numbers decide in the first place where one of the two pairs differs. -/
theorem orderOf_trans {as bs cs : List Nat} (h : orderOf as bs ≠ .gt)
    (h' : orderOf bs cs ≠ .gt) : orderOf as cs ≠ .gt := by
  by_cases hnone : as.length + bs.length + cs.length = 0
  · have has : as = [] := List.eq_nil_of_length_eq_zero (by omega)
    rw [has]
    exact orderOf_nil_ne_gt cs
  · rw [orderOf_ne_gt_iff] at h h' ⊢
    rcases h with hlt | ⟨heq, htail⟩
    · rcases h' with hlt' | ⟨heq', -⟩
      · exact .inl (Nat.lt_trans hlt hlt')
      · exact .inl (heq' ▸ hlt)
    · rcases h' with hlt' | ⟨heq', htail'⟩
      · exact .inl (heq ▸ hlt')
      · exact .inr ⟨heq.trans heq', orderOf_trans htail htail'⟩
termination_by as.length + bs.length + cs.length
decreasing_by
  -- Some list still has a number, and no list gets longer.
  simp only [List.length_tail]
  omega

/-! ## Places -/

/-- The number at a place of a version; zero where it has none. -/
def number (version : Version) (place : Nat) : Nat :=
  version.numbers.getD place 0

/-- Whether a version comes before another one: it has the smaller number in the first place where
the two differ. -/
def Before (a b : Version) : Prop :=
  ∃ place, (∀ earlier < place, a.number earlier = b.number earlier) ∧
    a.number place < b.number place

theorem number_zero (numbers : List Nat) : number ⟨numbers⟩ 0 = numbers.headD 0 := by
  cases numbers <;> rfl

theorem number_succ (numbers : List Nat) (place : Nat) :
    number ⟨numbers⟩ (place + 1) = number ⟨numbers.tail⟩ place := by
  cases numbers <;> rfl

/-- The first numbers decide unless they are equal. -/
theorem before_iff {as bs : List Nat} :
    Before ⟨as⟩ ⟨bs⟩ ↔
      as.headD 0 < bs.headD 0 ∨ as.headD 0 = bs.headD 0 ∧ Before ⟨as.tail⟩ ⟨bs.tail⟩ := by
  simp only [← number_zero]
  constructor
  · rintro ⟨place, hsame, hlt⟩
    cases place with
    | zero => exact .inl hlt
    | succ place =>
        refine .inr ⟨hsame 0 (Nat.succ_pos place), place, fun earlier hearlier => ?_, ?_⟩
        · rw [← number_succ, ← number_succ]
          exact hsame _ (Nat.succ_lt_succ hearlier)
        · rw [← number_succ, ← number_succ]
          exact hlt
  · rintro (hlt | ⟨heq, place, hsame, hlt⟩)
    · exact ⟨0, fun _ h => absurd h (Nat.not_lt_zero _), hlt⟩
    · refine ⟨place + 1, fun earlier hearlier => ?_, ?_⟩
      · cases earlier with
        | zero => exact heq
        | succ earlier =>
            rw [number_succ, number_succ]
            exact hsame earlier (Nat.lt_of_succ_lt_succ hearlier)
      · rw [number_succ, number_succ]
        exact hlt

theorem then_eq_lt_iff {a b : Nat} {o : Ordering} :
    (compare a b).then o = .lt ↔ a < b ∨ a = b ∧ o = .lt := by
  rcases Nat.lt_trichotomy a b with hlt | heq | hgt
  · have hcompare : compare a b = .lt := Nat.compare_eq_lt.2 hlt
    simp [hcompare, hlt]
  · simp [heq]
  · have hcompare : compare a b = .gt := Nat.compare_eq_gt.2 hgt
    simp [hcompare, Nat.not_lt_of_gt hgt, Nat.ne_of_gt hgt]

theorem orderOf_eq_lt_iff {as bs : List Nat} :
    orderOf as bs = .lt ↔ Before ⟨as⟩ ⟨bs⟩ := by
  by_cases hnone : as.length + bs.length = 0
  · obtain rfl : as = [] := List.eq_nil_of_length_eq_zero (by omega)
    obtain rfl : bs = [] := List.eq_nil_of_length_eq_zero (by omega)
    simp [orderOf, Before]
  · rw [orderOf_step, then_eq_lt_iff, before_iff, orderOf_eq_lt_iff]
termination_by as.length + bs.length
decreasing_by
  simp only [List.length_tail]
  omega

theorem orderOf_swap (as bs : List Nat) : (orderOf as bs).swap = orderOf bs as := by
  fun_induction orderOf as bs with
  | case1 => simp [orderOf]
  | case2 b bs ih => rw [orderOf, ← ih, Ordering.swap_then, Nat.compare_swap]
  | case3 a as ih => rw [orderOf, ← ih, Ordering.swap_then, Nat.compare_swap]
  | case4 a as b bs ih => rw [orderOf, ← ih, Ordering.swap_then, Nat.compare_swap]

/-! ## A total preorder -/

section

variable {a b c : Version}

theorem order_eq_lt_iff : a.order b = .lt ↔ a.Before b :=
  orderOf_eq_lt_iff

theorem atMost_iff : a.AtMost b ↔ ¬b.Before a := by
  rw [← order_eq_lt_iff, AtMost, order, order, ← orderOf_swap a.numbers b.numbers]
  cases orderOf a.numbers b.numbers <;> simp

theorem atMost_trans (h : a.AtMost b) (h' : b.AtMost c) : a.AtMost c :=
  orderOf_trans h h'

theorem atMost_self (a : Version) : a.AtMost a :=
  orderOf_self a.numbers

theorem not_before_self (a : Version) : ¬a.Before a :=
  atMost_iff.1 (atMost_self a)

theorem Before.atMost (h : a.Before b) : a.AtMost b := by
  rw [← order_eq_lt_iff] at h
  simp [AtMost, h]

theorem Before.not_before (h : a.Before b) : ¬b.Before a :=
  atMost_iff.1 h.atMost

theorem atMost_total (a b : Version) : a.AtMost b ∨ b.AtMost a := by
  by_cases h : b.Before a
  · exact .inr h.atMost
  · exact .inl (atMost_iff.2 h)

/-- What comes before a version comes before everything that is no earlier. -/
theorem Before.trans_atMost (h : a.Before b) (h' : b.AtMost c) : a.Before c := by
  refine Classical.byContradiction fun hnot => ?_
  exact atMost_iff.1 (atMost_trans h' (atMost_iff.2 hnot)) h

end

end Version

end Xacml
