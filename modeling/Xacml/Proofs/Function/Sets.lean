import Xacml.Function.Catalog
import Xacml.Proofs.Function.Comparisons
import Xacml.Proofs.Function.Images

/-!
# Bags as sets

The set functions of a type see only which values occur in a bag.

* `Bag.IsSetOf` tells the bags that hold one copy of each value of a set; `Bag.isSetOf_common` and
  `Bag.isSetOf_distinctAll` say so of intersections and unions,
* `SetOp.callOn` calls a set function on bags, and `SetOp.Computes` says what it comes to,
* `HigherOrderOp.apply_equal` is what the quantifiers make of the equality of a type,
* `set_functions`: the functions compute the operations on sets that they are named for, and the
  quantifiers over equality come to the same.
-/

namespace Xacml

/-! ## Members -/

namespace Bag

/-- Whether a bag holds one copy of each value of a set, and nothing else. -/
structure IsSetOf (occurs : Value → Prop) (bag : Bag) : Prop where
  count_le (v : Value) : bag.count v ≤ 1
  contains_iff (v : Value) : bag.contains v = true ↔ occurs v

/-- Whether the same values occur in two bags, however often. -/
def SameMembers (a b : Bag) : Prop :=
  ∀ v, a.contains v = b.contains v

section

variable {a b a' b' u : Bag} {v w : Value}

theorem isSetOf_of_count {occurs : Value → Prop} [DecidablePred occurs]
    (h : ∀ v, u.count v = if occurs v then 1 else 0) : u.IsSetOf occurs where
  count_le v := by
    rw [h]
    split <;> decide
  contains_iff v := by
    rw [Bag.contains_iff, h]
    split <;> simp [*]

theorem contains_congr (h : v.same w = true) : a.contains v = a.contains w := by
  rw [Bool.eq_iff_iff, contains_iff, contains_iff, count_congr h]

theorem contains_of_mem (h : v ∈ a.members) : a.contains v = true :=
  List.any_eq_true.2 ⟨v, h, v.same_refl⟩

/-- A condition on the members that does not tell equal values apart is one on the values that
occur. -/
theorem forall_mem_iff {p : Value → Prop} (hp : ∀ v w, v.same w = true → p w → p v) :
    (∀ v ∈ a.members, p v) ↔ ∀ v, a.contains v = true → p v := by
  constructor
  · intro h v hv
    rcases List.any_eq_true.1 hv with ⟨w, hw, hvw⟩
    exact hp v w hvw (h w hw)
  · exact fun h v hv => h v (contains_of_mem hv)

theorem isSubset_iff : a.isSubset b = true ↔ ∀ v, a.contains v = true → b.contains v = true := by
  rw [isSubset, List.all_eq_true]
  exact forall_mem_iff fun v w h hw => contains_congr h ▸ hw

theorem overlaps_iff : a.overlaps b = true ↔ ∃ v, a.contains v = true ∧ b.contains v = true := by
  rw [← not_iff_not, Bool.not_eq_true, overlaps, List.any_eq_false, not_exists]
  simp only [not_and]
  exact forall_mem_iff fun v w h hw => contains_congr h ▸ hw

theorem isSubset_congr (ha : a.SameMembers a') (hb : b.SameMembers b') :
    a.isSubset b = a'.isSubset b' := by
  rw [Bool.eq_iff_iff, isSubset_iff, isSubset_iff]
  simp only [ha _, hb _]

theorem overlaps_congr (ha : a.SameMembers a') (hb : b.SameMembers b') :
    a.overlaps b = a'.overlaps b' := by
  rw [Bool.eq_iff_iff, overlaps_iff, overlaps_iff]
  simp only [ha _, hb _]

theorem isSetOf_common (h : u.members = a.common b) :
    u.IsSetOf fun v => a.contains v = true ∧ b.contains v = true := by
  refine isSetOf_of_count fun v => ?_
  rw [count, h, common, countIn_filter fun w hw => (contains_congr hw).symm, distinct,
    countIn_distinctOf, ← contains, ← ite_and]
  exact if_congr and_comm rfl rfl

theorem isSetOf_distinctAll {bags : List Bag} (h : u.members = distinctAll bags) :
    u.IsSetOf fun v => ∃ bag ∈ bags, bag.contains v = true := by
  refine isSetOf_of_count fun v => ?_
  rw [count, h, distinctAll, countIn_distinctOf, List.any_flatMap]
  simp [contains]

end

end Bag

/-! ## Calls -/

namespace SetOp

/-- Calls the set function of a type on bags. -/
def callOn (op : SetOp) (type : DataType) (bags : List Bag) : Except EvaluationError Datum :=
  (Function.ofStrict (.set op type)).call (bags.map .bag)

section

variable {type : DataType} {a b : Bag} {bags : List Bag}

theorem callOn_pair {op : SetOp} (hop : op ≠ .union) (ha : a.type = type) (hb : b.type = type) :
    op.callOn type [a, b] = op.call type [.bag a, .bag b] := by
  refine Function.call_ofStrict ?_
  cases op with
  | union => exact absurd rfl hop
  | _ => exact .of_fixed (by simp [Datum.type, ha, hb])

/-- The union takes two bags or more. -/
theorem callOn_union (hbags : ∀ bag ∈ bags, bag.type = type) :
    union.callOn type bags =
      if 2 ≤ bags.length then union.call type (bags.map .bag)
      else .error (.arity (union.id type) 2 bags.length) := by
  split
  case isTrue hlength =>
    refine Function.call_ofStrict ?_
    have hmore : ∀ t ∈ (bags.map Datum.bag).map Datum.type, t = .bag type := by
      rw [List.map_map, List.forall_mem_map]
      exact fun bag hbag => congrArg ValueType.bag (hbags bag hbag)
    exact Params.Fits.of_variadic (by simpa using hlength) hmore
  case isFalse hlength =>
    have hchecked : (Function.ofStrict (.set .union type)).checkValues (union.params type)
        (bags.map .bag) = .error (.arity (union.id type) 2 bags.length) := by
      have hrefused : ¬(union.params type).accepts bags.length = true := by
        simpa [params, Params.accepts] using hlength
      rw [Function.checkValues, List.length_map, if_neg hrefused]
      rfl
    change (do Function.checkValues _ (union.params type) _; union.call type _) = _
    rw [hchecked]
    rfl

/-- The computation itself takes any number of bags. -/
theorem call_union (hbags : ∀ bag ∈ bags, bag.type = type) :
    ∃ u, union.call type (bags.map .bag) = .ok (.bag u) ∧ u.type = type ∧
      u.members = Bag.distinctAll bags := by
  have hdata : ∀ t ∈ (bags.map Datum.bag).map Datum.type, t.isBag = true := by
    rw [List.map_map, List.forall_mem_map]
    exact fun _ _ => rfl
  rcases HigherOrderOp.mapM_asBag_eq hdata with ⟨bags', hmapM, heq⟩
  obtain rfl : bags = bags' := List.map_injective_iff.2 (fun _ _ => Datum.bag.inj) heq
  rcases Bag.ofList_of_types (Bag.typed_distinctAll hbags) with ⟨u, hu, htype, hmembers⟩
  refine ⟨u, ?_, htype, hmembers⟩
  simp only [call, hmapM, bind, Except.bind, hu]

theorem callOn_intersection (ha : a.type = type) (hb : b.type = type) :
    ∃ u, intersection.callOn type [a, b] = .ok (.bag u) ∧ u.type = type ∧
      u.members = a.common b := by
  rcases Bag.ofList_of_types (Bag.typed_common ha b) with ⟨u, hu, htype, hmembers⟩
  refine ⟨u, ?_, htype, hmembers⟩
  have hmapM : [Datum.bag a, .bag b].mapM Datum.asBag = .ok [a, b] := rfl
  rw [callOn_pair (by decide) ha hb]
  simp only [call, hmapM, bind, Except.bind, hu]

theorem callOn_overlaps (ha : a.type = type) (hb : b.type = type) :
    overlaps.callOn type [a, b] = .ok (.ofBool (a.overlaps b)) :=
  callOn_pair (by decide) ha hb

theorem callOn_subset (ha : a.type = type) (hb : b.type = type) :
    subset.callOn type [a, b] = .ok (.ofBool (a.isSubset b)) :=
  callOn_pair (by decide) ha hb

theorem callOn_equals (ha : a.type = type) (hb : b.type = type) :
    equals.callOn type [a, b] = .ok (.ofBool (a.isSubset b && b.isSubset a)) :=
  callOn_pair (by decide) ha hb

end

end SetOp

/-! ## Quantifiers over equality -/

section

variable {type : DataType} {g : Function} {v w : Value} {a b : Bag}
  (hg : g.operation = .strict (.comparison (.equal type)))

include hg

theorem affirms_equal (hv : v.type = type) (hw : w.type = type) :
    g.affirms [.single v, .single w] = v.same w := by
  rw [Function.affirms, Function.holds, call_equal hg hv hw]
  cases v.same w <;> rfl

/-- Equality holds of a value and some member if the value occurs. -/
theorem exists_affirms_iff (hv : v.type = type) (hb : b.type = type) :
    (∃ w ∈ b.members, g.affirms [.single v, .single w] = true) ↔ b.contains v = true := by
  rw [Bag.contains, List.any_eq_true]
  refine exists_congr fun w => and_congr_right fun hw => ?_
  rw [affirms_equal hg hv ((b.typed w hw).trans hb)]

theorem checkPlain_equal :
    g.checkPlain [.value (.single type), .value (.single type)] = .ok .boolean := by
  have hargs : g.checkArgs (ComparisonOp.equal type).params
      [.value (.single type), .value (.single type)] = .ok () := by
    simp only [Function.checkArgs, Function.checkArgsFrom, Function.checkArg, ComparisonOp.params,
      Params.type?, List.getElem?_cons_zero, List.getElem?_cons_succ, if_true]
    rfl
  simp only [Function.checkPlain, hg, StrictOp.params, hargs]
  rfl

theorem call_equal_of_types {call : List Datum}
    (h : call.map Datum.type = [.single type, .single type]) : ∃ d, g.call call = .ok d := by
  rcases Datum.eq_two_of_types h with ⟨x, y, rfl, hx, hy⟩
  cases x with
  | bag => cases hx
  | single v =>
      cases y with
      | bag => cases hy
      | single w =>
          exact ⟨_, call_equal hg (ValueType.single.inj hx) (ValueType.single.inj hy)⟩

namespace HigherOrderOp

/-- A quantifier over equality does not fail. -/
theorem apply_equal {op : HigherOrderOp} {args : List Datum} (function : String) (hmap : op ≠ map)
    (hshape : (op.shape true).Matches (args.map Datum.type))
    (hargs : memberwise (args.map Datum.type) = [.single type, .single type]) :
    op.apply function g args = .ok (.ofBool (op.meaning g args)) := by
  have hplain : g.checkPlain (memberTypes (args.map Datum.type)) = .ok .boolean := by
    have hmembers : memberTypes (args.map Datum.type) =
        (memberwise (args.map Datum.type)).map .value := by simp [memberwise, memberTypes]
    rw [hmembers, hargs]
    exact checkPlain_equal hg
  have hmakes : op.Makes .boolean .boolean := by
    cases op with
    | map => exact absurd rfl hmap
    | _ => exact ⟨rfl, rfl⟩
  -- Each application takes two values of the type, of which equality is always defined.
  have htakes : op.Takes true g (args.map Datum.type) .boolean := ⟨hshape, _, hplain, hmakes⟩
  exact apply_eq_meaning function hmap htakes fun call hcall =>
    call_equal_of_types hg ((types_of_mem_choices hcall).trans hargs)

theorem anyOf_equal (function : String) (hv : v.type = type) (hb : b.type = type) :
    anyOf.apply function g [.single v, .bag b] = .ok (.ofBool (b.contains v)) := by
  have hcalls : applications [.single v, .bag b] =
      b.members.map fun w => [.single v, .single w] :=
    @applications_around [.single v] [] b (Nat.le_refl 1)
  have hmeaning : b.contains v = anyOf.meaning g [.single v, .bag b] := by
    rw [Bool.eq_iff_iff, ← exists_affirms_iff hg hv hb, meaning, hcalls, List.any_map,
      List.any_eq_true]
    rfl
  rw [hmeaning]
  exact apply_equal hg function (by decide) rfl
    (by simp [memberwise, Datum.type, ValueType.data, hv, hb])

theorem anyOfAny_equal (function : String) (ha : a.type = type) (hb : b.type = type) :
    anyOfAny.apply function g [.bag a, .bag b] = .ok (.ofBool (a.overlaps b)) := by
  have hcalls : applications [.bag a, .bag b] =
      a.members.flatMap fun v => b.members.map fun w => [.single v, .single w] := by
    simp [applications, choices, Datum.members, List.map_eq_flatMap, List.flatMap_assoc]
  have hmeaning : a.overlaps b = anyOfAny.meaning g [.bag a, .bag b] := by
    rw [Bool.eq_iff_iff, Bag.overlaps, List.any_eq_true, meaning, hcalls, List.any_flatMap,
      List.any_eq_true]
    refine exists_congr fun v => and_congr_right fun hv => ?_
    rw [← exists_affirms_iff hg ((a.typed v hv).trans ha) hb, List.any_map, List.any_eq_true]
    rfl
  rw [hmeaning]
  exact apply_equal hg function (by decide) rfl
    (by simp [memberwise, Datum.type, ValueType.data, ha, hb])

theorem allOfAny_equal (function : String) (ha : a.type = type) (hb : b.type = type) :
    allOfAny.apply function g [.bag a, .bag b] = .ok (.ofBool (a.isSubset b)) := by
  have hmeaning : a.isSubset b = allOfAny.meaning g [.bag a, .bag b] := by
    rw [Bool.eq_iff_iff, Bag.isSubset, List.all_eq_true, meaning, Datum.members, Datum.members,
      List.all_map, List.all_eq_true]
    refine forall₂_congr fun v hv => ?_
    rw [← exists_affirms_iff hg ((a.typed v hv).trans ha) hb, Function.comp_apply, List.any_map,
      List.any_eq_true]
    rfl
  rw [hmeaning]
  exact apply_equal hg function (by decide) rfl
    (by simp [memberwise, Datum.type, ValueType.data, ha, hb])

end HigherOrderOp

end

/-! ## The catalog -/

section

variable {type : DataType}

theorem ofStrict_mem_standard {op : StrictOp} (h : op ∈ Function.strictOps) :
    Function.ofStrict op ∈ Function.standard :=
  List.mem_append_left _ (List.mem_append_left _ (List.mem_append_left _ (List.mem_map_of_mem h)))

theorem set_mem_strictOps (htype : type ∈ DataType.bagTypes) (op : SetOp) :
    .set op type ∈ Function.strictOps := by
  have hop : op ∈ SetOp.all := by cases op <;> decide
  simp [Function.strictOps, htype, hop]

theorem isIn_mem_strictOps (htype : type ∈ DataType.bagTypes) :
    .bag .isIn type ∈ Function.strictOps := by
  have hop : BagOp.isIn ∈ BagOp.all := by decide
  simp [Function.strictOps, htype, hop]

theorem equal_mem_strictOps (htype : type ∈ DataType.bagTypes) (hequal : type.hasEquality = true) :
    .comparison (.equal type) ∈ Function.strictOps := by
  have hop : ComparisonOp.equal type ∈ ComparisonOp.all := by
    simp [ComparisonOp.all, ComparisonOp.equalTypes, (List.mem_filter.1 htype).1, hequal]
  simp [Function.strictOps, hop]

end

/-! ## Set functions -/

/-- Whether an outcome is the truth value of a proposition. -/
def Decides (outcome : Except EvaluationError Datum) (p : Prop) : Prop :=
  ∃ truth, outcome = .ok (.ofBool truth) ∧ (truth = true ↔ p)

namespace SetOp

/-- What the set functions of a type make of two bags. -/
structure Computes (type : DataType) (a b : Bag) : Prop where
  intersection : ∃ u, intersection.callOn type [a, b] = .ok (.bag u) ∧ u.type = type ∧
    u.IsSetOf fun v => a.contains v = true ∧ b.contains v = true
  overlaps : Decides (overlaps.callOn type [a, b])
    (∃ v, a.contains v = true ∧ b.contains v = true)
  subset : Decides (subset.callOn type [a, b]) (∀ v, a.contains v = true → b.contains v = true)
  equals : Decides (equals.callOn type [a, b]) (a.SameMembers b)

section

variable {type : DataType} {a b a' b' : Bag} {bags : List Bag}

theorem computes (ha : a.type = type) (hb : b.type = type) : Computes type a b where
  intersection := by
    rcases callOn_intersection ha hb with ⟨u, hu, htype, hmembers⟩
    exact ⟨u, hu, htype, Bag.isSetOf_common hmembers⟩
  overlaps := ⟨_, callOn_overlaps ha hb, Bag.overlaps_iff⟩
  subset := ⟨_, callOn_subset ha hb, Bag.isSubset_iff⟩
  equals := by
    refine ⟨_, callOn_equals ha hb, ?_⟩
    rw [Bool.and_eq_true, Bag.isSubset_iff, Bag.isSubset_iff, ← forall_and]
    exact forall_congr' fun v => iff_def.symm.trans Bool.eq_iff_iff.symm

/-- Repetitions among the members do not matter. -/
theorem callOn_congr {op : SetOp} (hop : op = .overlaps ∨ op = .subset ∨ op = .equals)
    (htypes : a.type = type ∧ b.type = type) (htypes' : a'.type = type ∧ b'.type = type)
    (ha : a.SameMembers a') (hb : b.SameMembers b') :
    op.callOn type [a, b] = op.callOn type [a', b'] := by
  rcases hop with rfl | rfl | rfl
  · rw [callOn_overlaps htypes.1 htypes.2, callOn_overlaps htypes'.1 htypes'.2,
      Bag.overlaps_congr ha hb]
  · rw [callOn_subset htypes.1 htypes.2, callOn_subset htypes'.1 htypes'.2,
      Bag.isSubset_congr ha hb]
  · rw [callOn_equals htypes.1 htypes.2, callOn_equals htypes'.1 htypes'.2,
      Bag.isSubset_congr ha hb, Bag.isSubset_congr hb ha]

theorem callOn_equals_iff (ha : a.type = type) (hb : b.type = type) :
    equals.callOn type [a, b] = .ok (.ofBool true) ↔
      subset.callOn type [a, b] = .ok (.ofBool true) ∧
        subset.callOn type [b, a] = .ok (.ofBool true) := by
  rw [callOn_equals ha hb, callOn_subset ha hb, callOn_subset hb ha]
  simp [Datum.ofBool]

end

end SetOp

/-- Whether the quantifiers over an equality function come to the same as the bag and set functions
of its type. -/
structure MatchesQuantifiers (type : DataType) (g : Function) (a b : Bag) : Prop where
  isIn (function : String) (v : Value) (hv : v.type = type) :
    HigherOrderOp.anyOf.apply function g [.single v, .bag b] =
      (Function.ofStrict (.bag .isIn type)).call [.single v, .bag b]
  overlaps (function : String) :
    HigherOrderOp.anyOfAny.apply function g [.bag a, .bag b] = SetOp.overlaps.callOn type [a, b]
  subset (function : String) :
    HigherOrderOp.allOfAny.apply function g [.bag a, .bag b] = SetOp.subset.callOn type [a, b]

theorem matchesQuantifiers {type : DataType} {g : Function} {a b : Bag}
    (hg : g.operation = .strict (.comparison (.equal type))) (ha : a.type = type)
    (hb : b.type = type) : MatchesQuantifiers type g a b where
  isIn function v hv := by
    rw [HigherOrderOp.anyOf_equal hg function hv hb, Function.call_isIn hv hb]
  overlaps function := by
    rw [HigherOrderOp.anyOfAny_equal hg function ha hb, SetOp.callOn_overlaps ha hb]
  subset function := by
    rw [HigherOrderOp.allOfAny_equal hg function ha hb, SetOp.callOn_subset ha hb]

/-- The specification has set functions and a membership test for each type of the bags, and an
equality function for those that have equality.  On bags of the type, union and intersection hold
one copy of each value that occurs in some bag or in both; the other functions decide whether values
in common, an inclusion or the equality of the members hold, whatever the repetitions; equality is
inclusion both ways.  The quantifiers over the equality function of the type, under whichever
identifier, come to the same as the membership test, the overlap and the inclusion. -/
theorem set_functions {type : DataType} (htype : type ∈ DataType.bagTypes) :
    ((∀ op, Function.ofStrict (.set op type) ∈ Function.standard) ∧
        Function.ofStrict (.bag .isIn type) ∈ Function.standard ∧
        (type.hasEquality = true →
          Function.ofStrict (.comparison (.equal type)) ∈ Function.standard)) ∧
      (∀ bags : List Bag, (∀ bag ∈ bags, bag.type = type) →
        ∃ u, SetOp.union.call type (bags.map .bag) = .ok (.bag u) ∧
          (SetOp.union.callOn type bags =
            if 2 ≤ bags.length then .ok (.bag u)
            else .error (.arity (SetOp.union.id type) 2 bags.length)) ∧
          u.type = type ∧ u.IsSetOf fun v => ∃ bag ∈ bags, bag.contains v = true) ∧
      ∀ a b : Bag, a.type = type → b.type = type →
        SetOp.Computes type a b ∧
        (∀ a' b' : Bag, a'.type = type → b'.type = type → a.SameMembers a' → b.SameMembers b' →
          ∀ op, op = .overlaps ∨ op = .subset ∨ op = .equals →
            SetOp.callOn op type [a, b] = SetOp.callOn op type [a', b']) ∧
        (SetOp.equals.callOn type [a, b] = .ok (.ofBool true) ↔
          SetOp.subset.callOn type [a, b] = .ok (.ofBool true) ∧
            SetOp.subset.callOn type [b, a] = .ok (.ofBool true)) ∧
        ∀ g : Function, g.operation = .strict (.comparison (.equal type)) →
          MatchesQuantifiers type g a b := by
  refine ⟨⟨?_, ?_, ?_⟩, fun bags hbags => ?_, fun a b ha hb => ⟨SetOp.computes ha hb, ?_,
    SetOp.callOn_equals_iff ha hb, fun g hg => matchesQuantifiers hg ha hb⟩⟩
  · exact fun op => ofStrict_mem_standard (set_mem_strictOps htype op)
  · exact ofStrict_mem_standard (isIn_mem_strictOps htype)
  · exact fun hequal => ofStrict_mem_standard (equal_mem_strictOps htype hequal)
  · rcases SetOp.call_union hbags with ⟨u, hu, hutype, hmembers⟩
    refine ⟨u, hu, ?_, hutype, Bag.isSetOf_distinctAll hmembers⟩
    rw [SetOp.callOn_union hbags, hu]
  · intro a' b' ha' hb' hsame hsame' op hop
    exact SetOp.callOn_congr hop ⟨ha, hb⟩ ⟨ha', hb'⟩ hsame hsame'

namespace Bag.TimeZones

/-- Noon in two zones is one member, which the other bag has too. -/
theorem set_functions_noons :
    DataType.time ∈ DataType.bagTypes ∧
      (∃ u, SetOp.intersection.callOn .time [noons, evenings] = .ok (.bag u) ∧
        u.count noon = 1) ∧
      SetOp.subset.callOn .time [noons, evenings] = .ok (.ofBool true) ∧
      HigherOrderOp.anyOf.apply "any-of" (.ofStrict (.comparison (.equal .time)))
        [.single onePm, .bag evenings] = .ok (.ofBool true) := by
  have htype : DataType.time ∈ DataType.bagTypes := by decide
  rcases (set_functions htype).2.2 noons evenings rfl rfl with ⟨hcomputes, -, -, hquantifiers⟩
  refine ⟨htype, ?_, ?_, ?_⟩
  · rcases hcomputes.intersection with ⟨u, hu, -, hset⟩
    have hnoon : 0 < u.count noon := Bag.contains_iff.1 ((hset.contains_iff noon).2 (by decide))
    exact ⟨u, hu, Nat.le_antisymm (hset.count_le noon) hnoon⟩
  · rcases hcomputes.subset with ⟨truth, hcall, hiff⟩
    rw [hcall, hiff.2 (Bag.isSubset_iff.1 (by decide))]
  · have hoccurs : evenings.contains onePm = true := by decide
    have hcall : (Function.ofStrict (.bag .isIn .time)).call [.single onePm, .bag evenings] =
        .ok (.ofBool (evenings.contains onePm)) := Function.call_isIn rfl rfl
    rw [(hquantifiers _ rfl).isIn _ onePm rfl, hcall, hoccurs]

end Bag.TimeZones

end Xacml
