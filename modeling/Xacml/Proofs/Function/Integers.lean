import Mathlib.Algebra.BigOperators.Group.List.Basic
import Mathlib.Algebra.Ring.Int.Defs
import Xacml.Proofs.Function.Connectives
import Xacml.Proofs.Function.Sets
import Xacml.Value.Integer

/-!
# Integer functions

Every function on integers gives the exact result of the mathematical operation or fails; the sums
and products of several numbers fail as soon as one of the results on the way is too large.

* `IntegerOp.IsExact` says that a function succeeds on numbers under a condition, then with the
  exact result, and fails otherwise,
* `Integer.isRepresentable_tdiv_iff`: one quotient of two integers is too large for 64 bits, that of
  the smallest integer by minus one; no remainder is,
* `integer_functions`: when each function succeeds, and the law that ties quotient and remainder
  together.  A remainder is refused wherever the quotient is, although it is zero there.
-/

namespace Xacml

/-! ## Range -/

namespace Integer

/-- Whether 64 bits hold a number. -/
def IsRepresentable (n : Int) : Prop :=
  -2 ^ 63 ≤ n ∧ n < 2 ^ 63

instance (n : Int) : Decidable (IsRepresentable n) :=
  inferInstanceAs (Decidable (_ ∧ _))

theorem isRepresentable_toInt (n : Int64) : IsRepresentable n.toInt :=
  ⟨n.le_toInt, n.toInt_lt⟩

theorem checked_eq_none_iff {n : Int} : checked n = none ↔ ¬IsRepresentable n := by
  simp [checked, IsRepresentable]

theorem isRepresentable_of_checked {n : Int} {r : Int64} (h : checked n = some r) :
    IsRepresentable n :=
  toInt_of_checked h ▸ isRepresentable_toInt r

/-! ## Division -/

theorem toInt_ne_zero {n : Int64} (h : n ≠ 0) : n.toInt ≠ 0 :=
  fun hzero => h (Int64.toInt_inj.1 hzero)

/-- A remainder is smaller than its divisor, so 64 bits hold it. -/
theorem isRepresentable_tmod {a b : Int64} (hb : b ≠ 0) :
    IsRepresentable (a.toInt.tmod b.toInt) := by
  have hdivisor := isRepresentable_toInt b
  have hpos : 0 < b.toInt.natAbs := Int.natAbs_pos.2 (toInt_ne_zero hb)
  have hlt : (a.toInt.tmod b.toInt).natAbs < b.toInt.natAbs := by
    rw [Int.natAbs_tmod]
    exact Nat.mod_lt _ hpos
  unfold IsRepresentable at *
  omega

/-- The only quotient that is too large is that of the smallest integer by minus one. -/
theorem isRepresentable_tdiv_iff {a b : Int64} (hb : b ≠ 0) :
    IsRepresentable (a.toInt.tdiv b.toInt) ↔ ¬(a = .minValue ∧ b = -1) := by
  have hdividend := isRepresentable_toInt a
  have hmin : a = .minValue ↔ a.toInt = -2 ^ 63 := by
    rw [← Int64.toInt_inj, Int64.toInt_minValue]
  have hminus : b = -1 ↔ b.toInt = -1 := by
    rw [← Int64.toInt_inj]
    exact Iff.rfl
  have hzero := toInt_ne_zero hb
  rw [hmin, hminus]
  generalize a.toInt = m at *
  generalize b.toInt = n at *
  by_cases hone : n.natAbs = 1
  · rcases Int.natAbs_eq_iff.1 hone with rfl | rfl
    · -- The quotient by one is the dividend.
      have hquotient : m.tdiv ((1 : Nat) : Int) = m := Int.tdiv_one m
      rw [hquotient]
      exact iff_of_true hdividend fun h => absurd h.2 (by decide)
    · have hquotient : m.tdiv (-((1 : Nat) : Int)) = -m := by
        rw [Int.tdiv_neg]
        exact congrArg Neg.neg (Int.tdiv_one m)
      rw [hquotient]
      unfold IsRepresentable at *
      omega
  · -- Any other divisor halves the dividend at least.
    have hhalf : (m.tdiv n).natAbs ≤ m.natAbs / 2 := by
      rw [Int.natAbs_tdiv]
      exact Nat.div_le_div_left (by omega) (by decide)
    refine iff_of_true ?_ fun h => hone (by omega)
    unfold IsRepresentable at *
    omega

end Integer

/-! ## Outcomes -/

namespace IntegerOp

open Integer

/-- Whether an outcome is the number `exact` if `possible` holds, and a failure otherwise. -/
structure Settles (outcome : Except Failure Int64) (possible : Prop) (exact : Int) : Prop where
  succeeds : possible → ∃ n, outcome = .ok n ∧ n.toInt = exact
  fails : ¬possible → ∃ failure, outcome = .error failure

theorem Settles.congr {outcome : Except Failure Int64} {p q : Prop} {exact : Int} (hpq : p ↔ q)
    (h : Settles outcome p exact) : Settles outcome q exact :=
  ⟨fun hq => h.succeeds (hpq.2 hq), fun hq => h.fails (hpq.not.2 hq)⟩

/-- The result of a single operation fails only if 64 bits do not hold it. -/
theorem within_settles (n : Int) : Settles (within (checked n)) (IsRepresentable n) n := by
  cases hchecked : checked n with
  | some r => exact ⟨fun _ => ⟨r, rfl, toInt_of_checked hchecked⟩,
      fun h => absurd (isRepresentable_of_checked hchecked) h⟩
  | none => exact ⟨fun h => absurd h (checked_eq_none_iff.1 hchecked), fun _ => ⟨_, rfl⟩⟩

/-- An operation that is refused for one divisor. -/
theorem Settles.unless {outcome : Except Failure Int64} {refused p : Prop} [Decidable refused]
    {failure : Failure} {exact : Int} (h : ¬refused → Settles outcome p exact) :
    Settles (if refused then .error failure else outcome) (¬refused ∧ p) exact := by
  by_cases hrefused : refused
  · rw [if_pos hrefused]
    exact ⟨fun hp => absurd hrefused hp.1, fun _ => ⟨failure, rfl⟩⟩
  · rw [if_neg hrefused]
    exact (h hrefused).congr (and_iff_right hrefused).symm

/-! ## Repeated operations -/

theorem forall_prefix_cons {α : Type} {p : List α → Prop} {a : α} {l : List α} :
    (∀ front, front <+: a :: l → p front) ↔ p [] ∧ ∀ front, front <+: l → p (a :: front) := by
  constructor
  · intro h
    exact ⟨h [] List.nil_prefix, fun front hfront => h _ (List.cons_prefix_cons.2 ⟨rfl, hfront⟩)⟩
  · rintro ⟨hnil, hcons⟩ front hfront
    rcases List.prefix_cons_iff.1 hfront with rfl | ⟨rest, rfl, hrest⟩
    · exact hnil
    · exact hcons rest hrest

/-- An operation that is repeated from left to right fails at the first result that is too
large. -/
theorem foldAll_settles {op? : Int64 → Int64 → Option Int64} {op : Int → Int → Int}
    (hop : ∀ a b, op? a b = checked (op a.toInt b.toInt)) (acc : Int64) (numbers : List Int64) :
    Settles (foldAll op? acc numbers)
      (∀ front, front <+: numbers →
        IsRepresentable ((front.map Int64.toInt).foldl op acc.toInt))
      ((numbers.map Int64.toInt).foldl op acc.toInt) := by
  induction numbers generalizing acc with
  | nil =>
      refine ⟨fun _ => ⟨acc, rfl, rfl⟩, fun h => absurd (fun front hfront => ?_) h⟩
      obtain rfl : front = [] := List.prefix_nil.1 hfront
      exact isRepresentable_toInt acc
  | cons n rest ih =>
      simp only [foldAll, hop]
      cases hchecked : checked (op acc.toInt n.toInt) with
      | none =>
          refine ⟨fun h => ?_, fun _ => ⟨_, rfl⟩⟩
          -- The first result on the way is too large.
          exact absurd (h [n] (by simp)) (checked_eq_none_iff.1 hchecked)
      | some next =>
          have hnext : next.toInt = op acc.toInt n.toInt := toInt_of_checked hchecked
          have hrest := ih next
          rw [hnext] at hrest
          refine hrest.congr ?_
          rw [forall_prefix_cons]
          exact (and_iff_right (isRepresentable_toInt acc)).symm

/-- The sum of several numbers. -/
theorem foldAll_add_settles (n : Int64) (rest : List Int64) :
    Settles (foldAll add? n rest)
      (∀ front, front <+: n :: rest → IsRepresentable (front.map Int64.toInt).sum)
      ((n :: rest).map Int64.toInt).sum := by
  have hsum (more : List Int64) : ((n :: more).map Int64.toInt).sum =
      (more.map Int64.toInt).foldl (· + ·) n.toInt := by
    rw [List.sum_eq_foldl, List.map_cons, List.foldl_cons, Int.zero_add]
  rw [hsum]
  refine (foldAll_settles (fun _ _ => rfl) n rest).congr ?_
  rw [forall_prefix_cons]
  simp only [hsum]
  exact (and_iff_right (show IsRepresentable 0 by decide)).symm

/-- The product of several numbers. -/
theorem foldAll_mul_settles (n : Int64) (rest : List Int64) :
    Settles (foldAll mul? n rest)
      (∀ front, front <+: n :: rest → IsRepresentable (front.map Int64.toInt).prod)
      ((n :: rest).map Int64.toInt).prod := by
  have hprod (more : List Int64) : ((n :: more).map Int64.toInt).prod =
      (more.map Int64.toInt).foldl (· * ·) n.toInt := by
    rw [List.prod_eq_foldl, List.map_cons, List.foldl_cons, Int.one_mul]
  rw [hprod]
  refine (foldAll_settles (fun _ _ => rfl) n rest).congr ?_
  rw [forall_prefix_cons]
  simp only [hprod]
  exact (and_iff_right (show IsRepresentable 1 by decide)).symm

/-! ## Division -/

section

variable {a b : Int64}

theorem within_div_settles (hb : b ≠ 0) :
    Settles (within (div? a b)) (IsRepresentable (a.toInt.tdiv b.toInt))
      (a.toInt.tdiv b.toInt) := by
  rw [div?, if_neg (toInt_ne_zero hb)]
  exact within_settles _

/-- The remainder is computed only where the quotient is. -/
theorem within_mod_settles (hb : b ≠ 0) :
    Settles (within (mod? a b)) (IsRepresentable (a.toInt.tdiv b.toInt))
      (a.toInt.tmod b.toInt) := by
  rw [mod?, div?, if_neg (toInt_ne_zero hb)]
  cases hquotient : checked (a.toInt.tdiv b.toInt) with
  | none => exact ⟨fun h => absurd h (checked_eq_none_iff.1 hquotient), fun _ => ⟨_, rfl⟩⟩
  | some q =>
      exact (within_settles _).congr
        (iff_of_true (isRepresentable_tmod hb) (isRepresentable_of_checked hquotient))

/-- The remainder completes the multiple of the divisor, is smaller than the divisor and has the
sign of the dividend. -/
theorem tdiv_tmod_law {m n : Int} (hn : n ≠ 0) :
    m.tdiv n * n + m.tmod n = m ∧ (m.tmod n).natAbs < n.natAbs ∧
      (m.tmod n = 0 ∨ (m.tmod n).sign = m.sign) := by
  refine ⟨?_, ?_, ?_⟩
  · rw [Int.mul_comm]
    exact Int.mul_tdiv_add_tmod m n
  · rw [Int.natAbs_tmod]
    exact Nat.mod_lt _ (Int.natAbs_pos.2 hn)
  · by_cases hdvd : n ∣ m
    · exact .inl (Int.tmod_eq_zero_of_dvd hdvd)
    · exact .inr (by rw [Int.sign_tmod, if_neg hdvd])

end

/-! ## Calls -/

/-- Calls a function on integers. -/
def callOn (op : IntegerOp) (numbers : List Int64) : Except EvaluationError Datum :=
  (Function.ofStrict (.integer op)).call (numbers.map fun n => .single (.integer n))

/-- Whether a function succeeds on numbers exactly if `possible` holds, then with the number
`exact`, and otherwise ends in a processing error. -/
structure IsExact (op : IntegerOp) (numbers : List Int64) (possible : Prop) (exact : Int) :
    Prop where
  succeeds : possible → ∃ n : Int64, op.callOn numbers = .ok (.single (.integer n)) ∧
    n.toInt = exact
  fails : ¬possible → ∃ error, op.callOn numbers = .error error ∧
    error.status.code = .processingError

theorem callOn_eq {op : IntegerOp} {numbers : List Int64} {outcome : Except Failure Int64}
    (hcount : op.params.accepts numbers.length = true)
    (hcompute : op.compute numbers = some outcome) :
    op.callOn numbers =
      (outcome.map fun n => Datum.single (.integer n)).mapError (.failed op.id) := by
  have htypes : (numbers.map fun n => Datum.single (.integer n)).map Datum.type =
      List.replicate numbers.length (.single .integer) := by
    simp only [List.map_map, Function.comp_def, Datum.type, Value.type, List.map_const']
  have hfits : (StrictOp.integer op).params.Fits
      ((numbers.map fun n => Datum.single (.integer n)).map Datum.type) := by
    rw [htypes]
    cases op with
    | add | multiply =>
        refine .of_variadic (by simpa [params, Params.accepts] using hcount) ?_
        exact fun type htype => List.eq_of_mem_replicate htype
    | subtract | divide | mod =>
        have hlength : 2 = numbers.length := by simpa [params, Params.accepts] using hcount
        rw [← hlength]
        exact .of_fixed rfl
    | abs =>
        have hlength : 1 = numbers.length := by simpa [params, Params.accepts] using hcount
        rw [← hlength]
        exact .of_fixed rfl
  have hnumbers : (numbers.map fun n => Datum.single (.integer n)).mapM Datum.asInteger =
      .ok numbers := by
    rw [List.mapM_map]
    exact List.mapM_pure.trans (congrArg Except.ok (List.map_id' numbers))
  rw [callOn, Function.call_ofStrict hfits, StrictOp.call, call, hnumbers]
  cases outcome <;> simp [hcompute, bind, Except.bind] <;> rfl

theorem integer_mem_strictOps (op : IntegerOp) : .integer op ∈ Function.strictOps := by
  have hop : op ∈ all := by cases op <;> decide
  simp [Function.strictOps, hop]

theorem Settles.isExact {op : IntegerOp} {numbers : List Int64} {outcome : Except Failure Int64}
    {possible : Prop} {exact : Int} (h : Settles outcome possible exact)
    (hcount : op.params.accepts numbers.length = true)
    (hcompute : op.compute numbers = some outcome) : op.IsExact numbers possible exact where
  succeeds hp := by
    rcases h.succeeds hp with ⟨n, rfl, hn⟩
    exact ⟨n, callOn_eq hcount hcompute, hn⟩
  fails hp := by
    rcases h.fails hp with ⟨failure, rfl⟩
    exact ⟨_, callOn_eq hcount hcompute, rfl⟩

namespace IsExact

variable {op : IntegerOp} {numbers : List Int64} {p q : Prop} {exact : Int}

theorem congr (hpq : p ↔ q) (h : op.IsExact numbers p exact) : op.IsExact numbers q exact :=
  ⟨fun hq => h.succeeds (hpq.2 hq), fun hq => h.fails (hpq.not.2 hq)⟩

/-- A result shows that the function succeeds, and is the exact one. -/
theorem of_result {n : Int64} (h : op.IsExact numbers p exact)
    (hcall : op.callOn numbers = .ok (.single (.integer n))) : p ∧ n.toInt = exact := by
  by_cases hp : p
  · rcases h.succeeds hp with ⟨m, hm, hexact⟩
    rw [hm] at hcall
    cases hcall
    exact ⟨hp, hexact⟩
  · rcases h.fails hp with ⟨error, herror, -⟩
    rw [herror] at hcall
    cases hcall

end IsExact

end IntegerOp

open Integer IntegerOp in
/-- The specification has the functions on integers.  On two or more numbers, addition and
multiplication succeed if 64 bits hold the result for every first part of the numbers, and give the
exact sum and product.  Subtraction and magnitude succeed if 64 bits hold the exact result.  So does
division, unless the divisor is zero.  A remainder exists for every other divisor and 64 bits hold
it, but it is refused for the smallest integer and minus one, where the quotient is too large.
Quotient and remainder belong together as the law of division says.  A function that does not
succeed ends in a processing error. -/
theorem integer_functions (a b : Int64) (rest : List Int64) :
    (∀ op, Function.ofStrict (.integer op) ∈ Function.standard) ∧
      add.IsExact (a :: b :: rest)
        (∀ front, front <+: a :: b :: rest → IsRepresentable (front.map Int64.toInt).sum)
        ((a :: b :: rest).map Int64.toInt).sum ∧
      multiply.IsExact (a :: b :: rest)
        (∀ front, front <+: a :: b :: rest → IsRepresentable (front.map Int64.toInt).prod)
        ((a :: b :: rest).map Int64.toInt).prod ∧
      subtract.IsExact [a, b] (IsRepresentable (a.toInt - b.toInt)) (a.toInt - b.toInt) ∧
      abs.IsExact [a] (IsRepresentable a.toInt.natAbs) a.toInt.natAbs ∧
      divide.IsExact [a, b] (b ≠ 0 ∧ IsRepresentable (a.toInt.tdiv b.toInt))
        (a.toInt.tdiv b.toInt) ∧
      mod.IsExact [a, b] (b ≠ 0 ∧ ¬(a = .minValue ∧ b = -1)) (a.toInt.tmod b.toInt) ∧
      (b ≠ 0 → IsRepresentable (a.toInt.tmod b.toInt)) ∧
      ∀ q r : Int64, divide.callOn [a, b] = .ok (.single (.integer q)) →
        mod.callOn [a, b] = .ok (.single (.integer r)) →
          q.toInt * b.toInt + r.toInt = a.toInt ∧ r.toInt.natAbs < b.toInt.natAbs ∧
            (r.toInt = 0 ∨ r.toInt.sign = a.toInt.sign) := by
  have hdivide : divide.IsExact [a, b] (b ≠ 0 ∧ IsRepresentable (a.toInt.tdiv b.toInt))
      (a.toInt.tdiv b.toInt) :=
    Settles.isExact (.unless within_div_settles) rfl rfl
  have hmod : mod.IsExact [a, b] (b ≠ 0 ∧ IsRepresentable (a.toInt.tdiv b.toInt))
      (a.toInt.tmod b.toInt) :=
    Settles.isExact (.unless within_mod_settles) rfl rfl
  have hpossible : b ≠ 0 ∧ IsRepresentable (a.toInt.tdiv b.toInt) ↔
      b ≠ 0 ∧ ¬(a = .minValue ∧ b = -1) :=
    and_congr_right isRepresentable_tdiv_iff
  have hcount :
      (Params.variadic [] (.single .integer) 2).accepts (a :: b :: rest).length = true := by
    simp [Params.accepts]
  refine ⟨fun op => ofStrict_mem_standard (integer_mem_strictOps op),
    (foldAll_add_settles a (b :: rest)).isExact hcount rfl,
    (foldAll_mul_settles a (b :: rest)).isExact hcount rfl, (within_settles _).isExact rfl rfl,
    (within_settles _).isExact rfl rfl, hdivide, hmod.congr hpossible, isRepresentable_tmod, ?_⟩
  intro q r hq hr
  rcases hdivide.of_result hq with ⟨⟨hb, -⟩, hquotient⟩
  rcases hmod.of_result hr with ⟨-, hremainder⟩
  rw [hquotient, hremainder]
  exact tdiv_tmod_law (toInt_ne_zero hb)

open Integer IntegerOp in
/-- Minus seven by two leaves minus one.  The smallest integer leaves nothing by minus one, but that
remainder is refused. -/
theorem integer_functions_remainders :
    (divide.callOn [-7, 2] = .ok (.single (.integer (-3))) ∧
        mod.callOn [-7, 2] = .ok (.single (.integer (-1))) ∧ (-3) * 2 + -1 = (-7 : Int) ∧
        (-1 : Int).natAbs < (2 : Int).natAbs) ∧
      IsRepresentable (Int64.minValue.toInt.tmod (-1 : Int64).toInt) ∧
      ∃ error, mod.callOn [.minValue, -1] = .error error ∧
        error.status.code = .processingError := by
  have hquotient : divide.callOn [-7, 2] = .ok (.single (.integer (-3))) :=
    callOn_eq rfl (show _ = some (.ok (-3)) by decide)
  have hremainder : mod.callOn [-7, 2] = .ok (.single (.integer (-1))) :=
    callOn_eq rfl (show _ = some (.ok (-1)) by decide)
  rcases integer_functions (-7) 2 [] with ⟨-, -, -, -, -, -, -, -, hlaw⟩
  rcases integer_functions .minValue (-1) [] with ⟨-, -, -, -, -, -, hmod, hfits, -⟩
  rcases hlaw (-3) (-1) hquotient hremainder with ⟨hsum, hlt, -⟩
  exact ⟨⟨hquotient, hremainder, hsum, hlt⟩, hfits (by decide),
    hmod.fails fun h => h.2 ⟨rfl, rfl⟩⟩

end Xacml
