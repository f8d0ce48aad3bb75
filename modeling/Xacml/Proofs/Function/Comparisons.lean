import Mathlib.Order.Defs.LinearOrder
import Xacml.Proofs.Typing.Call

/-!
# Comparisons and equality

Each ordered type is compared by a part of its values that stands in a total order; equality looks
at the whole value, apart from the zone of times and date-times.

* `Value.SplitByZone` are the pairs of dates of one day that were written in different zones: no
  other values of one type are ordered alike without being equal,
* `Value.IsRanked` says so of a type, and that its order is transitive,
* `comparisons_agree`: the comparison functions of a type agree with its equality on all values but
  these pairs, on which only the two inclusive comparisons hold.
-/

namespace Xacml

/-! ## Total orders -/

instance : Std.TransCmp Temporal.Count.order :=
  inferInstanceAs (Std.TransCmp (compareLex (compareOn Temporal.Count.seconds)
    (compareOn Temporal.Count.nanos)))

instance : Std.LawfulEqCmp Temporal.Count.order where
  eq_of_compare := by
    rintro ⟨seconds, nanos⟩ ⟨seconds', nanos'⟩ h
    rcases Ordering.then_eq_eq.1 h with ⟨hseconds, hnanos⟩
    obtain rfl : seconds = seconds' := Std.LawfulEqOrd.eq_of_compare hseconds
    obtain rfl : nanos = nanos' := Std.LawfulEqOrd.eq_of_compare hnanos
    rfl

theorem Temporal.Clock.count_inj {a b : Clock} : a.count = b.count ↔ a = b := by
  rcases a with ⟨seconds, nanos⟩
  rcases b with ⟨seconds', nanos'⟩
  simp only [count, Count.mk.injEq, mk.injEq, Int.ofNat_inj]

instance : Std.TransCmp CalendarDate.order :=
  inferInstanceAs (Std.TransCmp (compareLex (compareOn CalendarDate.year)
    (compareLex (compareOn CalendarDate.month) (compareOn CalendarDate.day))))

instance : Std.LawfulEqCmp CalendarDate.order where
  eq_of_compare := by
    rintro ⟨year, month, day⟩ ⟨year', month', day'⟩ h
    rcases Ordering.then_eq_eq.1 h with ⟨hyear, hrest⟩
    rcases Ordering.then_eq_eq.1 hrest with ⟨hmonth, hday⟩
    obtain rfl : year = year' := Std.LawfulEqOrd.eq_of_compare hyear
    obtain rfl : month = month' := Std.LawfulEqOrd.eq_of_compare hmonth
    obtain rfl : day = day' := Std.LawfulEqOrd.eq_of_compare hday
    rfl

/-! ## Ranks -/

namespace Value

/-- Whether two values are dates of one day that were written in different zones; one of them may
have no zone. -/
def SplitByZone (a b : Value) : Prop :=
  ∃ x y : Date, a = .date x ∧ b = .date y ∧ x.date = y.date ∧ x.zone ≠ y.zone

theorem SplitByZone.not_same {a b : Value} (h : a.SplitByZone b) : ¬a.same b = true := by
  rcases h with ⟨x, y, rfl, rfl, -, hzone⟩
  rw [same_iff]
  intro hnormal
  exact hzone (congrArg Date.zone (date.inj hnormal))

/-- Whether the values of a type are ordered by a rank, which equal values share with each other and
with nothing else but dates of the same day. -/
structure IsRanked (type : DataType) : Prop where
  order {a b : Value} (ha : a.type = type) (hb : b.type = type) :
    ∃ o, a.order? b = some o ∧ (o = .eq ↔ a.same b = true ∨ a.SplitByZone b)
  trans {a b c : Value} (ha : a.type = type) (hb : b.type = type) (hc : c.type = type)
    (hab : a.order? b = some .lt) (hbc : b.order? c = some .lt) : a.order? c = some .lt

/-- A type is ranked by a part of its values that a total order compares. -/
theorem IsRanked.of_rank {type : DataType} {α κ : Type} (cmp : κ → κ → Ordering)
    [Std.TransCmp cmp] [Std.LawfulEqCmp cmp] (make : α → Value) (rank : α → κ)
    (exists_make : ∀ v : Value, v.type = type → ∃ x, v = make x)
    (order_make : ∀ x y, (make x).order? (make y) = some (cmp (rank x) (rank y)))
    (rank_eq_iff : ∀ x y, rank x = rank y ↔
      (make x).same (make y) = true ∨ (make x).SplitByZone (make y)) : IsRanked type where
  order := by
    intro a b ha hb
    rcases exists_make a ha with ⟨x, rfl⟩
    rcases exists_make b hb with ⟨y, rfl⟩
    refine ⟨_, order_make x y, ?_⟩
    rw [Std.LawfulEqCmp.compare_eq_iff_eq, rank_eq_iff]
  trans := by
    intro a b c ha hb hc hab hbc
    rcases exists_make a ha with ⟨x, rfl⟩
    rcases exists_make b hb with ⟨y, rfl⟩
    rcases exists_make c hc with ⟨z, rfl⟩
    rw [order_make, Option.some.injEq] at hab hbc ⊢
    exact Std.TransCmp.lt_trans hab hbc

/-- Without dates, there is only equality. -/
theorem same_or_splitByZone_iff {a b : Value} (h : ∀ x, a ≠ date x) :
    a.same b = true ∨ a.SplitByZone b ↔ a.normal = b.normal := by
  rw [same_iff, or_iff_left]
  rintro ⟨x, y, rfl, -⟩
  exact h x rfl

theorem date_same_or_splitByZone_iff {x y : Date} :
    (date x).same (date y) = true ∨ (date x).SplitByZone (date y) ↔ x.date = y.date := by
  rw [same_iff]
  constructor
  · rintro (h | ⟨x', y', hx, hy, hdate, -⟩)
    · rw [date.inj h]
    · rw [date.inj hx, date.inj hy, hdate]
  · intro hdate
    by_cases hzone : x.zone = y.zone
    · rcases x with ⟨day, zone⟩
      rcases y with ⟨day', zone'⟩
      obtain rfl : day = day' := hdate
      obtain rfl : zone = zone' := hzone
      exact .inl rfl
    · exact .inr ⟨x, y, rfl, rfl, hdate, hzone⟩

/-- Every ordered type but that of the doubles is ranked. -/
theorem isRanked {type : DataType} (hordered : type ∈ ComparisonOp.orderedTypes)
    (hdouble : type ≠ .double) : IsRanked type := by
  cases type with
  | integer =>
      refine .of_rank compare integer Int64.toInt (fun v h => ?_) (fun _ _ => rfl)
        fun x y => ?_
      · cases v <;> first | exact ⟨_, rfl⟩ | cases h
      · rw [same_or_splitByZone_iff (by simp), Int64.toInt_inj]
        simp [normal]
  | string =>
      refine .of_rank compare string id (fun v h => ?_) (fun _ _ => rfl) fun x y => ?_
      · cases v <;> first | exact ⟨_, rfl⟩ | cases h
      · rw [same_or_splitByZone_iff (by simp)]
        simp [normal]
  | time =>
      refine .of_rank Temporal.Count.order time (fun t => t.utc.count) (fun v h => ?_)
        (fun _ _ => rfl) fun x y => ?_
      · cases v <;> first | exact ⟨_, rfl⟩ | cases h
      · rw [same_or_splitByZone_iff (by simp)]
        simp [normal, Temporal.Clock.count_inj]
  | date =>
      refine .of_rank CalendarDate.order date Date.date (fun v h => ?_) (fun _ _ => rfl)
        fun x y => date_same_or_splitByZone_iff.symm
      cases v <;> first | exact ⟨_, rfl⟩ | cases h
  | dateTime =>
      refine .of_rank Temporal.Count.order dateTime DateTime.instant (fun v h => ?_)
        (fun _ _ => rfl) fun x y => ?_
      · cases v <;> first | exact ⟨_, rfl⟩ | cases h
      · rw [same_or_splitByZone_iff (by simp)]
        simp [normal]
  | double => exact absurd rfl hdouble
  | _ => simp [ComparisonOp.orderedTypes] at hordered

end Value

/-! ## Calls -/

/-- Whether a function that compares two values holds of them. -/
def ComparisonOp.HoldsOf (op : ComparisonOp) (a b : Value) : Prop :=
  (Function.ofStrict (.comparison op)).call [.single a, .single b] = .ok (.ofBool true)

/-- Whether one of three propositions holds and the two others do not. -/
def ExactlyOne (p q r : Prop) : Prop :=
  p ∧ ¬q ∧ ¬r ∨ q ∧ ¬p ∧ ¬r ∨ r ∧ ¬p ∧ ¬q

section

variable {type : DataType} {a b c : Value}

theorem fits_of_types (ha : a.type = type) (hb : b.type = type) :
    (Params.fixed [.single type, .single type]).Fits
      ([Datum.single a, .single b].map Datum.type) :=
  .of_fixed (by simp [Datum.type, ha, hb])

theorem call_equal {g : Function} (hg : g.operation = .strict (.comparison (.equal type)))
    (ha : a.type = type) (hb : b.type = type) :
    g.call [.single a, .single b] = .ok (.ofBool (a.same b)) :=
  Function.call_strict hg (fits_of_types ha hb)

theorem call_ordered {relation : Relation} {g : Function}
    (hg : g.operation = .strict (.comparison (.ordered relation type))) (ha : a.type = type)
    (hb : b.type = type) :
    g.call [.single a, .single b] = .ok (.ofBool ((a.order? b).any relation.holds)) :=
  Function.call_strict hg (fits_of_types ha hb)

theorem holdsOf_equal_iff (ha : a.type = type) (hb : b.type = type) :
    (ComparisonOp.equal type).HoldsOf a b ↔ a.same b = true := by
  rw [ComparisonOp.HoldsOf, call_equal rfl ha hb]
  simp [Datum.ofBool]

theorem holdsOf_ordered_iff {relation : Relation} (ha : a.type = type) (hb : b.type = type) :
    (ComparisonOp.ordered relation type).HoldsOf a b ↔
      (a.order? b).any relation.holds = true := by
  rw [ComparisonOp.HoldsOf, call_ordered rfl ha hb]
  simp [Datum.ofBool]

/-- The comparison functions say what the order says. -/
theorem holdsOf_of_order {relation : Relation} {o : Ordering} (ha : a.type = type)
    (hb : b.type = type) (ho : a.order? b = some o) :
    (ComparisonOp.ordered relation type).HoldsOf a b ↔ relation.holds o = true := by
  rw [holdsOf_ordered_iff ha hb, ho, Option.any_some]

theorem holdsOf_less_iff (ha : a.type = type) (hb : b.type = type) :
    (ComparisonOp.ordered .less type).HoldsOf a b ↔ a.order? b = some .lt := by
  rw [holdsOf_ordered_iff ha hb, Option.any_eq_true]
  simp [Relation.holds, Ordering.isLT_iff_eq_lt]

end

/-- Each comparison function of the types that are ordered by all of their values holds or does not
hold of two values, and never fails.  Exactly one of less, equal and greater holds, and an inclusive
comparison holds if the strict one or equality does, but for two dates of the same day in different
zones: of these only the inclusive comparisons hold, both of them.  Less is transitive. -/
theorem comparisons_agree {type : DataType} (hordered : type ∈ ComparisonOp.orderedTypes)
    (hdouble : type ≠ .double) {a b : Value} (ha : a.type = type) (hb : b.type = type) :
    let holds (relation : Relation) := (ComparisonOp.ordered relation type).HoldsOf
    let equal := (ComparisonOp.equal type).HoldsOf
    (∀ op ∈ ComparisonOp.equal type :: Relation.all.map (.ordered · type), ∃ truth,
        (Function.ofStrict (.comparison op)).call [.single a, .single b] = .ok (.ofBool truth)) ∧
      (¬a.SplitByZone b →
        ExactlyOne (holds .less a b) (equal a b) (holds .greater a b) ∧
          (holds .lessOrEqual a b ↔ holds .less a b ∨ equal a b) ∧
          (holds .greaterOrEqual a b ↔ holds .greater a b ∨ equal a b)) ∧
      (a.SplitByZone b →
        ¬holds .less a b ∧ ¬equal a b ∧ ¬holds .greater a b ∧
          holds .lessOrEqual a b ∧ holds .greaterOrEqual a b) ∧
      ∀ c : Value, c.type = type → holds .less a b → holds .less b c → holds .less a c := by
  intro holds equal
  have hranked := Value.isRanked hordered hdouble
  rcases hranked.order ha hb with ⟨o, ho, heq⟩
  have hholds (relation : Relation) : holds relation a b ↔ relation.holds o = true :=
    holdsOf_of_order ha hb ho
  have hequal : equal a b ↔ a.same b = true := holdsOf_equal_iff ha hb
  refine ⟨?_, fun hsplit => ?_, fun hsplit => ?_, fun c hc hab hbc => ?_⟩
  · intro op hop
    rcases List.mem_cons.1 hop with rfl | hop
    · exact ⟨_, call_equal rfl ha hb⟩
    · rcases List.mem_map.1 hop with ⟨relation, -, rfl⟩
      exact ⟨_, call_ordered rfl ha hb⟩
  · -- Equality is the middle of the order.
    have hmiddle : equal a b ↔ o = .eq := by rw [hequal, heq, or_iff_left hsplit]
    simp only [hholds, hmiddle]
    cases o <;> simp [ExactlyOne, Relation.holds]
  · obtain rfl : o = .eq := heq.2 (.inr hsplit)
    simp [hholds, hequal, hsplit.not_same, Relation.holds]
  · exact (holdsOf_less_iff ha hc).2
      (hranked.trans ha hb hc ((holdsOf_less_iff ha hb).1 hab) ((holdsOf_less_iff hb hc).1 hbc))

namespace NewYear

/-- A day without a zone. -/
def unzoned : Value := .date ⟨⟨2024, 1, 1⟩, none⟩

/-- The same day in universal time. -/
def universal : Value := .date ⟨⟨2024, 1, 1⟩, some 0⟩

theorem unzoned_splitByZone_universal : unzoned.SplitByZone universal :=
  ⟨_, _, rfl, rfl, rfl, by decide⟩

/-- None of less, equal and greater holds of the two days, and one is less than or equal to the
other. -/
theorem not_exactlyOne :
    ¬ExactlyOne ((ComparisonOp.ordered .less .date).HoldsOf unzoned universal)
        ((ComparisonOp.equal .date).HoldsOf unzoned universal)
        ((ComparisonOp.ordered .greater .date).HoldsOf unzoned universal) ∧
      ¬((ComparisonOp.ordered .lessOrEqual .date).HoldsOf unzoned universal ↔
        (ComparisonOp.ordered .less .date).HoldsOf unzoned universal ∨
          (ComparisonOp.equal .date).HoldsOf unzoned universal) := by
  have ha : unzoned.type = .date := rfl
  have hb : universal.type = .date := rfl
  have horder : unzoned.order? universal = some .eq := by decide
  have hequal : ¬(ComparisonOp.equal .date).HoldsOf unzoned universal :=
    (holdsOf_equal_iff ha hb).not.2 unzoned_splitByZone_universal.not_same
  have hordered (relation : Relation) :
      (ComparisonOp.ordered relation .date).HoldsOf unzoned universal ↔
        relation.holds .eq = true :=
    holdsOf_of_order ha hb horder
  simp [ExactlyOne, hordered, hequal, Relation.holds]

/-- One instant, written in two zones. -/
def midnight : Value := .dateTime ⟨⟨63839664000, 0⟩, some 0⟩

/-- Midnight in universal time, on the clocks two hours ahead. -/
def twoOClock : Value := .dateTime ⟨⟨63839664000, 0⟩, some 7200⟩

/-- The two spellings of an instant are equal, and neither of them is less. -/
theorem comparisons_agree_zones :
    DataType.dateTime ∈ ComparisonOp.orderedTypes ∧ DataType.dateTime ≠ .double ∧
      midnight.type = .dateTime ∧ twoOClock.type = .dateTime ∧
      (ComparisonOp.equal .dateTime).HoldsOf midnight twoOClock ∧
      ¬(ComparisonOp.ordered .less .dateTime).HoldsOf midnight twoOClock ∧
      (ComparisonOp.ordered .lessOrEqual .dateTime).HoldsOf midnight twoOClock := by
  have hordered : DataType.dateTime ∈ ComparisonOp.orderedTypes := by decide
  have hdouble : DataType.dateTime ≠ .double := by decide
  have ha : midnight.type = .dateTime := rfl
  have hb : twoOClock.type = .dateTime := rfl
  have hequal : (ComparisonOp.equal .dateTime).HoldsOf midnight twoOClock :=
    (holdsOf_equal_iff ha hb).2 (Value.same_iff.2 rfl)
  have hdates : ¬midnight.SplitByZone twoOClock := by
    rintro ⟨x, -, hx, -⟩
    cases hx
  rcases (comparisons_agree hordered hdouble ha hb).2.1 hdates with ⟨hone, hinclusive, -⟩
  refine ⟨hordered, hdouble, ha, hb, hequal, ?_, hinclusive.2 (.inr hequal)⟩
  rcases hone with ⟨-, hnot, -⟩ | ⟨-, hless, -⟩ | ⟨-, -, hnot⟩
  · exact absurd hequal hnot
  · exact hless
  · exact absurd hequal hnot

end NewYear

end Xacml
