import Mathlib.Data.List.Perm.Subperm
import Xacml.Value.Bag

/-!
# Bags as multisets

A bag is told by how many copies of each value it holds.

* `Bag.count_eq` reads the copies of a value off the representatives of the members, and
  `Bag.same_iff` says that equal bags are those with the same number of copies of every value,
* `Bag.countIn_distinctOf` and `Bag.countIn_missing` count the copies in a list without repetitions
  and those that a union adds,
* `Bag.IsUnion` tells a union by its copies, and `Bag.Joins` tells it up to equality,
* `Bag.union_least`: the union is the least bag that both bags are within, and obeys the laws of a
  least upper bound.
-/

namespace Xacml

theorem Value.same_comm (v w : Value) : v.same w = w.same v :=
  BEq.comm

namespace Bag

/-! ## Copies -/

section

variable {a b c : Bag} {v w : Value} {members : List Value}

/-- The representatives of the members. -/
def normals (bag : Bag) : List Value :=
  bag.members.map Value.normal

theorem count_eq (bag : Bag) (v : Value) : bag.count v = bag.normals.count v.normal := by
  rw [count, countIn, normals, List.count, List.countP_map]
  refine List.countP_congr fun w _ => ?_
  rw [Value.same_iff, Function.comp_apply, beq_iff_eq, eq_comm]

/-- Equal values have equally many copies. -/
theorem count_congr (h : v.same w = true) : a.count v = a.count w := by
  rw [count_eq, count_eq, Value.same_iff.1 h]

theorem contains_iff : a.contains v = true ↔ 0 < a.count v := by
  rw [contains, count, countIn, List.countP_pos_iff, List.any_eq_true]

/-- Only the copies of members need to be compared. -/
theorem normals_subperm_of_members (h : ∀ v ∈ a.members, a.count v ≤ b.count v) :
    a.normals.Subperm b.normals := by
  rw [List.subperm_ext_iff, normals, List.forall_mem_map]
  intro v hv
  have hle := h v hv
  rwa [count_eq, count_eq] at hle

theorem normals_subperm_iff : a.normals.Subperm b.normals ↔ ∀ v, a.count v ≤ b.count v := by
  refine ⟨fun h v => ?_, fun h => normals_subperm_of_members fun v _ => h v⟩
  rw [count_eq, count_eq]
  exact h.count_le _

theorem normals_perm_iff : a.normals.Perm b.normals ↔ ∀ v, a.count v = b.count v := by
  constructor
  · intro h v
    rw [count_eq, count_eq]
    exact h.count_eq _
  · intro h
    exact (normals_subperm_iff.2 fun v => Nat.le_of_eq (h v)).antisymm
      (normals_subperm_iff.2 fun v => Nat.le_of_eq (h v).symm)

/-- Bags are equal exactly if they have one type and every value has the same number of copies in
both. -/
theorem same_iff : a.same b = true ↔ a.type = b.type ∧ ∀ v, a.count v = b.count v := by
  have hsize : a.size = b.size ↔ a.normals.length = b.normals.length := by
    rw [normals, normals, List.length_map, List.length_map]
    rfl
  rw [same, Bool.and_eq_true, Bool.and_eq_true, decide_eq_true_iff, decide_eq_true_iff, hsize,
    List.all_eq_true, and_assoc]
  simp only [beq_iff_eq]
  refine and_congr_right fun _ => ⟨fun ⟨hlength, hcount⟩ => ?_, fun hcount => ?_⟩
  · have hsubperm := normals_subperm_of_members fun v hv => Nat.le_of_eq (hcount v hv)
    exact normals_perm_iff.1 (hsubperm.perm_of_length_le (Nat.le_of_eq hlength.symm))
  · exact ⟨(normals_perm_iff.2 hcount).length_eq, fun v _ => hcount v⟩

/-- Bags of the same members are equal, in whichever order. -/
theorem same_of_perm (type : a.type = b.type) (perm : a.members.Perm b.members) :
    a.same b = true :=
  same_iff.2 ⟨type, fun _ => perm.countP_eq _⟩

/-! ## Repetitions -/

/-- Filtering by a condition that does not tell equal values apart keeps all copies of a value or
none. -/
theorem countIn_filter {keep : Value → Bool} (hkeep : ∀ w, v.same w = true → keep w = keep v) :
    countIn (members.filter keep) v = if keep v then countIn members v else 0 := by
  have hcount : countIn (members.filter keep) v =
      members.countP fun w => v.same w && keep v := by
    rw [countIn, List.countP_filter]
    refine List.countP_congr fun w _ => ?_
    by_cases h : v.same w = true
    · rw [h, hkeep w h]
    · simp [h]
  rw [hcount, countIn]
  cases keep v <;> simp

/-- A list without repetitions holds one copy of each value that occurs. -/
theorem countIn_distinctOf (members : List Value) (v : Value) :
    countIn (distinctOf members) v = if members.any v.same then 1 else 0 := by
  induction members with
  | nil => rfl
  | cons first rest ih =>
      have hkeep (w : Value) (h : v.same w = true) : (!first.same w) = !first.same v := by
        rw [Value.same, Value.same, Value.same_iff.1 h]
      rw [distinctOf, countIn, List.countP_cons, ← countIn, countIn_filter hkeep, ih,
        List.any_cons, Value.same_comm first v]
      cases v.same first <;> simp

/-- Where equal values are repeated equally often, a value has as many copies as there are of it
times its repetitions. -/
theorem countIn_flatMap_replicate {times : Value → Nat}
    (htimes : ∀ w, v.same w = true → times w = times v) :
    countIn (members.flatMap fun w => List.replicate (times w) w) v =
      countIn members v * times v := by
  induction members with
  | nil => simp [countIn]
  | cons first rest ih =>
      rw [countIn] at ih ⊢
      rw [List.flatMap_cons, List.countP_append, ih, countIn, countIn, List.countP_cons,
        List.countP_replicate, Nat.add_mul, Nat.add_comm]
      by_cases hfirst : v.same first = true
      · rw [if_pos hfirst, if_pos hfirst, htimes first hfirst, Nat.one_mul]
      · rw [if_neg hfirst, if_neg hfirst, Nat.zero_mul]

/-! ## Unions -/

/-- The copies that a union adds. -/
theorem countIn_missing : countIn (b.distinct.flatMap (a.missing b)) v = b.count v - a.count v := by
  have htimes (w : Value) (h : v.same w = true) :
      b.count w - a.count w = b.count v - a.count v := by
    rw [count_congr h, count_congr h]
  calc countIn (b.distinct.flatMap (a.missing b)) v
      = countIn b.distinct v * (b.count v - a.count v) := countIn_flatMap_replicate htimes
    _ = b.count v - a.count v := by
      -- A value that does not occur has no copies to add.
      rw [distinct, countIn_distinctOf]
      split
      case isTrue => rw [Nat.one_mul]
      case isFalse h =>
        have hzero : ¬0 < b.count v := fun hpos => h (contains_iff.2 hpos)
        rw [Nat.eq_zero_of_not_pos hzero, Nat.zero_sub, Nat.mul_zero]

/-- Whether a bag has the type of two bags and holds as many copies of a value as the bag that holds
more of them. -/
structure IsUnion (a b u : Bag) : Prop where
  type : a.type = b.type
  type_eq : u.type = a.type
  count_eq (v : Value) : u.count v = max (a.count v) (b.count v)

theorem exists_union (htype : a.type = b.type) : ∃ u, a.union? b = some u ∧ IsUnion a b u := by
  rw [union?, dif_pos htype]
  refine ⟨_, rfl, htype, rfl, fun v => ?_⟩
  rw [count, countIn, List.countP_append, ← countIn, ← countIn, countIn_missing, ← count]
  omega

/-- Whether a bag has the type of another bag and holds at most as many copies of every value. -/
def Within (a b : Bag) : Prop :=
  a.type = b.type ∧ ∀ v, a.count v ≤ b.count v

/-- Whether the union of two bags is equal to a bag. -/
def Joins (a b u : Bag) : Prop :=
  ∃ w, a.union? b = some w ∧ w.same u = true

namespace IsUnion

variable {u w x d : Bag}

theorem joins (h : IsUnion a b u) : a.Joins b u := by
  rcases exists_union h.type with ⟨w, hunion, hw⟩
  refine ⟨w, hunion, same_iff.2 ⟨hw.type_eq.trans h.type_eq.symm, fun v => ?_⟩⟩
  rw [hw.count_eq, h.count_eq]

theorem left_within (h : IsUnion a b u) : a.Within u :=
  ⟨h.type_eq.symm, fun v => h.count_eq v ▸ Nat.le_max_left _ _⟩

theorem symm (h : IsUnion a b u) : IsUnion b a u where
  type := h.type.symm
  type_eq := h.type_eq.trans h.type
  count_eq v := by rw [h.count_eq, Nat.max_comm]

theorem within (h : IsUnion a b u) (ha : a.Within d) (hb : b.Within d) : u.Within d :=
  ⟨h.type_eq.trans ha.1, fun v => h.count_eq v ▸ Nat.max_le.2 ⟨ha.2 v, hb.2 v⟩⟩

theorem assoc (hu : IsUnion a b u) (hw : IsUnion b c w) (hx : IsUnion a w x) : IsUnion u c x where
  type := hu.type_eq.trans (hu.type.trans hw.type)
  type_eq := hx.type_eq.trans hu.type_eq.symm
  count_eq v := by rw [hx.count_eq, hw.count_eq, hu.count_eq, Nat.max_assoc]

end IsUnion

theorem isUnion_self (a : Bag) : IsUnion a a a :=
  ⟨rfl, rfl, fun _ => (Nat.max_self _).symm⟩

theorem isUnion_empty (a : Bag) : IsUnion a (empty a.type) a :=
  ⟨rfl, rfl, fun _ => (Nat.max_zero _).symm⟩

end

theorem equivalence_same : Equivalence fun a b : Bag => a.same b = true where
  refl _ := same_iff.2 ⟨rfl, fun _ => rfl⟩
  symm h := same_iff.2 ⟨(same_iff.1 h).1.symm, fun v => ((same_iff.1 h).2 v).symm⟩
  trans h h' := same_iff.2
    ⟨(same_iff.1 h).1.trans (same_iff.1 h').1,
      fun v => ((same_iff.1 h).2 v).trans ((same_iff.1 h').2 v)⟩

/-- Equality of bags is an equivalence, which ignores the order of the members: bags of one type are
equal exactly if every value has the same number of copies in both.  Bags of one type have a union,
in which every value has as many copies as in the bag that holds more of them.  It is the least bag
that both are within, and up to equality the union is commutative, associative and idempotent, and
the empty bag is neutral. -/
theorem union_least {type : DataType} {a b c : Bag} (ha : a.type = type) (hb : b.type = type)
    (hc : c.type = type) :
    (Equivalence fun a b : Bag => a.same b = true) ∧
      (a.same b = true ↔ ∀ v, a.count v = b.count v) ∧
      (a.members.Perm b.members → a.same b = true) ∧
      ∃ u, a.union? b = some u ∧ u.type = type ∧
        (∀ v, u.count v = max (a.count v) (b.count v)) ∧
        (a.Within u ∧ b.Within u ∧ ∀ d, a.Within d → b.Within d → u.Within d) ∧
        b.Joins a u ∧ a.Joins a a ∧ a.Joins (empty type) a ∧ (empty type).Joins a a ∧
        ∃ w x, b.union? c = some w ∧ a.union? w = some x ∧ u.Joins c x := by
  subst ha
  rcases exists_union hb.symm with ⟨u, hunion, hu⟩
  rcases exists_union (hb.trans hc.symm) with ⟨w, hwunion, hw⟩
  rcases exists_union (hb.symm.trans hw.type_eq.symm) with ⟨x, hxunion, hx⟩
  refine ⟨equivalence_same, ?_, same_of_perm hb.symm, u, hunion, hu.type_eq, hu.count_eq,
    ⟨hu.left_within, hu.symm.left_within, fun d => hu.within⟩, hu.symm.joins,
    (isUnion_self a).joins, (isUnion_empty a).joins, (isUnion_empty a).symm.joins, w, x, hwunion,
    hxunion, (hu.assoc hw hx).joins⟩
  rw [same_iff, and_iff_right hb.symm]

namespace TimeZones

/-- Noon in universal time. -/
def noon : Value := .time ⟨⟨43200, 0⟩, some 0⟩

/-- Noon in universal time, on clocks an hour ahead. -/
def onePm : Value := .time ⟨⟨43200, 0⟩, some 3600⟩

/-- Six hours later. -/
def evening : Value := .time ⟨⟨64800, 0⟩, none⟩

/-- Noon twice, in two zones. -/
def noons : Bag := ⟨.time, [noon, onePm], by decide⟩

/-- Noon once, and the evening twice. -/
def evenings : Bag := ⟨.time, [evening, noon, evening], by decide⟩

/-- The union of the two bags holds noon and the evening twice each. -/
theorem union_least_noons :
    noons.type = .time ∧ evenings.type = .time ∧ (empty .time).type = .time ∧
      ∃ u, noons.union? evenings = some u ∧ u.count noon = 2 ∧ u.count evening = 2 ∧
        evenings.Joins noons u := by
  have hnoons : noons.type = .time := rfl
  have hevenings : evenings.type = .time := rfl
  have hempty : (empty .time).type = .time := rfl
  rcases (union_least hnoons hevenings hempty).2.2.2 with ⟨u, hunion, -, hcount, -, hcomm, -⟩
  refine ⟨hnoons, hevenings, hempty, u, hunion, ?_, ?_, hcomm⟩
  · rw [hcount]
    decide
  · rw [hcount]
    decide

end TimeZones

end Bag
end Xacml
