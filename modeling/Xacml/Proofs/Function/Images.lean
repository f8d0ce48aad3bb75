import Xacml.Proofs.Function.Connectives
import Xacml.Proofs.Function.Quantifiers
import Xacml.Proofs.Value.Union

/-!
# Images and pairs

`map` collects what a function makes of the members of a bag, and the operators on pairs nest a
quantifier within another one.

* `IsImage` says what the outcome of `map` owes to the applications of its function,
* `HigherOrderOp.meaning` is the truth value of the other functions of higher order, provided that
  no application fails,
* `apply_images`: `map` has the image of the members, pairs are quantified as the names of the
  operators say, and the order of members does not matter; `any-of` and `all-of` look for a truth
  value in the image.
-/

namespace Xacml

/-! ## Equal results -/

/-- Whether two results are one value, or equal bags. -/
inductive Datum.Equal : Datum → Datum → Prop
  | single (value : Value) : Equal (.single value) (.single value)
  | bag {bag bag' : Bag} (h : bag.same bag' = true) : Equal (.bag bag) (.bag bag')

/-! ## Results in turn -/

section

variable {ε α β : Type} {f : α → Except ε β} {items : List α}

/-- Of several results that are asked for in turn, the first error is reported. -/
theorem mapM_eq_error {error : ε} (h : firstError? (items.map f) = some error) :
    items.mapM f = .error error := by
  induction items with
  | nil => cases h
  | cons item rest ih =>
      rw [List.mapM_cons]
      rw [List.map_cons, firstError?, List.findSome?_cons] at h
      cases hitem : f item with
      | error e =>
          rw [hitem] at h
          cases h
          rfl
      | ok result =>
          rw [hitem] at h
          rw [ih h]
          rfl

theorem mapM_eq_ok (h : firstError? (items.map f) = none) :
    ∃ results, items.mapM f = .ok results ∧ items.map f = results.map .ok := by
  induction items with
  | nil => exact ⟨[], rfl, rfl⟩
  | cons item rest ih =>
      rw [List.map_cons, firstError?_eq_none_iff, List.forall_mem_cons,
        ← firstError?_eq_none_iff] at h
      rcases h with ⟨⟨result, hresult⟩, hrest⟩
      rcases ih hrest with ⟨results, hresults, hmap⟩
      refine ⟨result :: results, ?_, ?_⟩
      · rw [List.mapM_cons, hresult, hresults]
        rfl
      · rw [List.map_cons, List.map_cons, hresult, hmap]

theorem firstError?_map {γ : Type} (f : β → γ) (outcomes : List (Except ε β)) :
    firstError? (outcomes.map fun outcome => outcome.map f) = firstError? outcomes := by
  have hone : (errorOf? ∘ fun outcome : Except ε β => outcome.map f) = errorOf? := by
    funext outcome
    cases outcome <;> rfl
  rw [firstError?, List.findSome?_map, hone, firstError?]

end

/-! ## Searches without errors -/

section

variable {α : Type} {p : α → Except EvaluationError Bool} {holds : α → Bool} {items : List α}

theorem anyItem_eq_any (h : ∀ item ∈ items, p item = .ok (holds item)) :
    anyItem p items = .ok (items.any holds) := by
  induction items with
  | nil => rfl
  | cons item rest ih =>
      rcases List.forall_mem_cons.1 h with ⟨hitem, hrest⟩
      rw [anyItem, hitem, List.any_cons, ih hrest]
      cases holds item <;> rfl

theorem allItems_eq_all (h : ∀ item ∈ items, p item = .ok (holds item)) :
    allItems p items = .ok (items.all holds) := by
  induction items with
  | nil => rfl
  | cons item rest ih =>
      rcases List.forall_mem_cons.1 h with ⟨hitem, hrest⟩
      rw [allItems, hitem, List.all_cons, ih hrest]
      cases holds item <;> rfl

end

/-! ## Images -/

namespace Function

/-- Whether an outcome is a value equal to the given one. -/
def isOutcome (v : Value) : Except EvaluationError Datum → Bool
  | .ok (.single w) => v.same w
  | _ => false

/-- Whether a function sends arguments to a value. -/
def sends (g : Function) (v : Value) (call : List Datum) : Bool :=
  isOutcome v (g.call call)

/-- Whether a function holds of arguments; an error counts as no. -/
def affirms (g : Function) (call : List Datum) : Bool :=
  decide (g.holds call = .ok true)

/-- The membership test of a type looks for an equal member. -/
theorem call_isIn {type : DataType} {v : Value} {bag : Bag} (hv : v.type = type)
    (hbag : bag.type = type) :
    (ofStrict (.bag .isIn type)).call [.single v, .bag bag] = .ok (.ofBool (bag.contains v)) :=
  call_ofStrict (Params.Fits.of_fixed (by simp [Datum.type, hv, hbag]))

end Function

/-- The function that looks for a truth value in a bag. -/
def isIn : Function := .ofStrict (.bag .isIn .boolean)

/-- What the outcome of `map` owes to the applications of its function: it fails with the first
error among them, and otherwise is a bag of the declared type in which each value occurs as often as
members are sent to it. -/
structure IsImage (g : Function) (args : List Datum) (returns : ValueType)
    (outcome : Except EvaluationError Datum) : Prop where
  failed (error : EvaluationError) : outcome = .error error ↔
    firstError? ((HigherOrderOp.applications args).map g.call) = some error
  image : firstError? ((HigherOrderOp.applications args).map g.call) = none →
    ∃ bag : Bag, outcome = .ok (.bag bag) ∧ returns = .bag bag.type ∧
      g.checkPlain (memberTypes (args.map Datum.type)) = .ok (.single bag.type) ∧
      ∀ v, bag.count v = (HigherOrderOp.applications args).countP (g.sends v)

namespace HigherOrderOp

section

variable {g : Function} {args : List Datum} {data : DataType}

/-- Every application of a function that takes the members gives a value of its declared type. -/
theorem call_ends_of_mem {returns : ValueType} {call : List Datum}
    (hplain : g.checkPlain (memberTypes (args.map Datum.type)) = .ok returns)
    (hcall : call ∈ applications args) :
    Ends EvaluationError.IsOfData (fun d => d.type = returns) (g.call call) := by
  refine Function.call_ends ?_
  rw [types_of_mem_choices hcall]
  exact takes_of_checkPlain hplain

/-- Taking the value out of each result changes nothing else about them. -/
theorem outcomes_asValue
    (hplain : g.checkPlain (memberTypes (args.map Datum.type)) = .ok (.single data)) :
    (applications args).map g.call =
      ((applications args).map fun call => (g.call call).bind Datum.asValue).map
        fun outcome => outcome.map Datum.single := by
  rw [List.map_map]
  refine List.map_congr_left fun call hcall => ?_
  have hends := call_ends_of_mem hplain hcall
  rw [Function.comp_apply]
  cases hresult : g.call call with
  | error e => rfl
  | ok d =>
      cases d with
      | single v => rfl
      | bag b => cases hends.holds_of_eq hresult

/-- The bag of the results, where no application fails. -/
theorem mapResults_eq_ok (hbags : bagCount (args.map Datum.type) ≤ 1)
    (hplain : g.checkPlain (memberTypes (args.map Datum.type)) = .ok (.single data))
    (h : firstError? ((applications args).map g.call) = none) :
    ∃ bag : Bag, (∀ function, mapResults function g args = .ok (.bag bag)) ∧ bag.type = data ∧
      (applications args).map g.call = bag.members.map fun v => .ok (.single v) := by
  rw [outcomes_asValue hplain, firstError?_map] at h
  rcases mapM_eq_ok h with ⟨values, hvalues, hmap⟩
  have hcalls : (applications args).map g.call = values.map fun v => .ok (.single v) := by
    rw [outcomes_asValue hplain, hmap, List.map_map]
    rfl
  -- The members have the type of the bag, so that it can be built.
  have htyped : ∀ v ∈ values, v.type = data := by
    intro v hv
    have hmem : .ok (.single v) ∈ (applications args).map g.call :=
      hcalls ▸ List.mem_map_of_mem (f := fun v => Except.ok (Datum.single v)) hv
    rcases List.mem_map.1 hmem with ⟨call, hcall, hresult⟩
    exact ValueType.single.inj ((call_ends_of_mem hplain hcall).holds_of_eq hresult)
  rcases Bag.ofList_of_types htyped with ⟨bag, hbag, htype, hmembers⟩
  refine ⟨bag, fun function => ?_, htype, ?_⟩
  · simp only [mapResults, hplain, eachMember_eq function hbags]
    change ((applications args).mapM fun call => (g.call call).bind Datum.asValue) >>= _ = _
    rw [hvalues]
    simp only [ValueType.data, bind, Except.bind, hbag]
    rfl
  · rw [hcalls, hmembers]

theorem mapResults_eq_error {error : EvaluationError} (function : String)
    (hbags : bagCount (args.map Datum.type) ≤ 1)
    (hplain : g.checkPlain (memberTypes (args.map Datum.type)) = .ok (.single data))
    (h : firstError? ((applications args).map g.call) = some error) :
    mapResults function g args = .error error := by
  rw [outcomes_asValue hplain, firstError?_map] at h
  simp only [mapResults, hplain, eachMember_eq function hbags]
  change ((applications args).mapM fun call => (g.call call).bind Datum.asValue) >>= _ = _
  rw [mapM_eq_error h]
  rfl

theorem outcome_injective :
    Function.Injective fun v : Value => (.ok (.single v) : Except EvaluationError Datum) :=
  fun _ _ heq => Datum.single.inj (Except.ok.inj heq)

theorem count_image {bag : Bag}
    (h : (applications args).map g.call = bag.members.map fun v => .ok (.single v)) (v : Value) :
    bag.count v = (applications args).countP (g.sends v) := by
  calc bag.count v
      = (bag.members.map fun v => .ok (.single v)).countP (Function.isOutcome v) := by
          rw [List.countP_map]
          rfl
    _ = (applications args).countP (g.sends v) := by
          rw [← h, List.countP_map]
          rfl

theorem mapResults_isImage (function : String) (hbags : bagCount (args.map Datum.type) ≤ 1)
    (hplain : g.checkPlain (memberTypes (args.map Datum.type)) = .ok (.single data)) :
    IsImage g args (.bag data) (mapResults function g args) := by
  cases hfirst : firstError? ((applications args).map g.call) with
  | none =>
      rcases mapResults_eq_ok hbags hplain hfirst with ⟨bag, hbag, rfl, hcalls⟩
      refine ⟨fun error => ?_, fun _ => ⟨bag, hbag function, rfl, hplain, count_image hcalls⟩⟩
      rw [hbag function, hfirst]
      constructor <;> intro h <;> cases h
  | some e =>
      have herror := mapResults_eq_error function hbags hplain hfirst
      refine ⟨fun error => ?_, fun h => ?_⟩
      · rw [herror, hfirst, Except.error.injEq, Option.some.injEq]
      · rw [hfirst] at h
        cases h

/-! ## The applications of `map` -/

theorem members_of_single (h : ∀ arg ∈ args, arg.isBag = false) :
    args.map Datum.members = args.map fun arg => [arg] := by
  refine List.map_congr_left fun arg harg => ?_
  cases arg with
  | single v => rfl
  | bag b => cases h _ harg

theorem applications_of_single (h : ∀ arg ∈ args, arg.isBag = false) :
    applications args = [args] := by
  rw [applications, members_of_single h, choices_singletons]

/-- A function that ranges over the only bag is applied to each of its members in its place. -/
theorem applications_around {before after : List Datum} {b : Bag}
    (hbags : bagCount ((before ++ .bag b :: after).map Datum.type) ≤ 1) :
    applications (before ++ .bag b :: after) =
      b.members.map fun v => before ++ .single v :: after := by
  -- There is no room for another bag, so every other argument has itself as its only member.
  have hnone : bagCount (before.map Datum.type) = 0 ∧ bagCount (after.map Datum.type) = 0 := by
    have hself : (Datum.bag b).type.isBag = true := rfl
    rw [List.map_append, List.map_cons, bagCount, List.countP_append,
      List.countP_cons_of_pos hself] at hbags
    simp only [bagCount]
    omega
  have hsingle {list : List Datum} (h : bagCount (list.map Datum.type) = 0) :
      ∀ arg ∈ list, arg.isBag = false := by
    intro arg harg
    rw [bagCount, List.countP_eq_zero] at h
    exact Bool.eq_false_iff.2 (h _ (List.mem_map_of_mem harg))
  rw [applications, List.map_append, List.map_cons, members_of_single (hsingle hnone.1),
    members_of_single (hsingle hnone.2), choices_around]
  exact List.map_map

end

/-! ## Truth values -/

/-- The truth value of a function of higher order that gives one, if no application fails: its
quantifiers range over all choices of members, or over the members of the first bag and for each of
them over those of the second one. -/
def meaning (op : HigherOrderOp) (g : Function) (args : List Datum) : Bool :=
  match op, args with
  | anyOf, args | anyOfAny, args => (applications args).any g.affirms
  | allOf, args => (applications args).all g.affirms
  | allOfAny, [a, b] => a.members.all fun x => b.members.any fun y => g.affirms [x, y]
  | anyOfAll, [a, b] => a.members.any fun x => b.members.all fun y => g.affirms [x, y]
  | allOfAll, [a, b] => a.members.all fun x => b.members.all fun y => g.affirms [x, y]
  | _, _ => false

section

variable {op : HigherOrderOp} {legacy : Bool} {g : Function} {args args' : List Datum}

/-- The order of members does not matter. -/
theorem meaning_rearranged (h : List.Forall₂ Datum.Rearranged args args') :
    op.meaning g args = op.meaning g args' := by
  have happlications := applications_perm h
  cases op with
  | anyOf | anyOfAny => exact happlications.any_eq
  | allOf => exact happlications.all_eq
  | map => rfl
  | allOfAny | anyOfAll | allOfAll =>
      rcases h with _ | ⟨ha, _ | ⟨hb, _ | _⟩⟩
      · rfl
      · rfl
      · simp only [meaning, ha.members_perm.all_eq, ha.members_perm.any_eq,
          hb.members_perm.any_eq, hb.members_perm.all_eq]
      · rfl

/-- An application of a function that gives truth values gives one if it does not fail. -/
theorem call_eq_affirms {call : List Datum}
    (hplain : g.checkPlain (memberTypes (args.map Datum.type)) = .ok .boolean)
    (hcall : call ∈ applications args) (hok : ∃ d, g.call call = .ok d) :
    g.call call = .ok (.ofBool (g.affirms call)) ∧ g.holds call = .ok (g.affirms call) := by
  rcases hok with ⟨d, hd⟩
  have htype := (call_ends_of_mem hplain hcall).holds_of_eq hd
  have hbool : ∃ b, d = .ofBool b := by
    rcases d with v | bag
    · cases v <;> first | exact ⟨_, rfl⟩ | cases htype
    · cases htype
  rcases hbool with ⟨b, rfl⟩
  have hholds : g.holds call = .ok b := by
    rw [Function.holds, hd]
    rfl
  have haffirms : g.affirms call = b := by
    rw [Function.affirms, hholds]
    cases b <;> rfl
  rw [hd, hholds, haffirms]
  exact ⟨rfl, rfl⟩

/-- The loops over pairs nest what the loops over members come to. -/
theorem pairwise_eq_meaning (function : String) {xs ys : Bag} (op : HigherOrderOp)
    (hop : op = allOfAny ∨ op = anyOfAll ∨ op = allOfAll)
    (hholds : ∀ x ∈ xs.members, ∀ y ∈ ys.members,
      g.holds [.single x, .single y] = .ok (g.affirms [.single x, .single y])) :
    op.apply function g [.bag xs, .bag ys] =
      .ok (.ofBool (op.meaning g [.bag xs, .bag ys])) := by
  have hany := fun x hx => anyItem_eq_any (hholds x hx)
  have hall := fun x hx => allItems_eq_all (hholds x hx)
  have hpairs (outer inner : (Value → Except EvaluationError Bool) → List Value →
      Except EvaluationError Bool) :
      pairwise function g [.bag xs, .bag ys] outer inner =
        outer (fun x => inner (fun y => g.holds [.single x, .single y]) ys.members) xs.members :=
    rfl
  rcases hop with rfl | rfl | rfl
  · simp only [apply, hpairs, allItems_eq_all hany, meaning, Datum.members, List.all_map,
      List.any_map]
    rfl
  · simp only [apply, hpairs, anyItem_eq_any hall, meaning, Datum.members, List.all_map,
      List.any_map]
    rfl
  · simp only [apply, hpairs, allItems_eq_all hall, meaning, Datum.members, List.all_map]
    rfl

/-- A function of higher order that gives a truth value gives its meaning if no application
fails. -/
theorem apply_eq_meaning (function : String) (hmap : op ≠ map) {returns : ValueType}
    (h : op.Takes legacy g (args.map Datum.type) returns)
    (hok : ∀ call ∈ applications args, ∃ d, g.call call = .ok d) :
    op.apply function g args = .ok (.ofBool (op.meaning g args)) := by
  rcases h with ⟨hshape, type, hplain, hmakes⟩
  have hboolean : type = .boolean := by
    cases op with
    | map => exact absurd rfl hmap
    | _ => exact hmakes.1
  subst hboolean
  have hholds (call : List Datum) (hcall : call ∈ applications args) :
      g.holds call = .ok (g.affirms call) :=
    (call_eq_affirms hplain hcall (hok call hcall)).2
  have hany := anyItem_eq_any hholds
  have hall := allItems_eq_all hholds
  simp only [applications] at hany hall
  cases op with
  | map => exact absurd rfl hmap
  | anyOf =>
      simp only [apply, eachMember_eq function (bagCount_le_one (.inl rfl) hshape), bind,
        Except.bind, hany]
      rfl
  | allOf =>
      simp only [apply, eachMember_eq function (bagCount_le_one (.inr (.inl rfl)) hshape), bind,
        Except.bind, hall]
      rfl
  | anyOfAny =>
      rcases mapM_asBag_eq (isBag_of_anyOfAny hshape) with ⟨bags, hbags, rfl⟩
      have hmembers : Datum.members ∘ Datum.bag = fun bag => bag.members.map Datum.single := rfl
      rw [List.map_map, hmembers] at hany
      simp only [apply, hbags, bind, Except.bind, hany, meaning, applications, List.map_map,
        hmembers]
      rfl
  | allOfAny | anyOfAll | allOfAll =>
      have hshape : (args.map Datum.type).map ValueType.isBag = [true, true] := by
        cases legacy <;> exact hshape
      rcases eq_bags_of_shape hshape with ⟨xs, ys, rfl⟩
      refine pairwise_eq_meaning function _ (by simp) fun x hx y hy => ?_
      exact hholds _ (pair_mem_choices hx hy)

/-! ## Rearranged bags -/

theorem firstError?_eq_none_of_answers
    (hok : ∀ call ∈ applications args, ∃ d, g.call call = .ok d) :
    firstError? ((applications args).map g.call) = none :=
  firstError?_eq_none_iff.2 (List.forall_mem_map.2 hok)

/-- The images of the same members in two orders are equal bags. -/
theorem mapResults_rearranged {data : DataType} (function : String)
    (hbags : bagCount (args.map Datum.type) ≤ 1)
    (hplain : g.checkPlain (memberTypes (args.map Datum.type)) = .ok (.single data))
    (hok : ∀ call ∈ applications args, ∃ d, g.call call = .ok d)
    (h : List.Forall₂ Datum.Rearranged args args') :
    ∃ bag bag' : Bag, mapResults function g args = .ok (.bag bag) ∧
      mapResults function g args' = .ok (.bag bag') ∧ bag.same bag' = true := by
  -- Both bags list the results of the same applications, which only stand in another order.
  have hperm := applications_perm h
  have htypes := types_of_rearranged h
  have hok' : ∀ call ∈ applications args', ∃ d, g.call call = .ok d := fun call hcall =>
    hok call (hperm.mem_iff.2 hcall)
  rcases mapResults_eq_ok hbags hplain (firstError?_eq_none_of_answers hok) with
    ⟨bag, hbag, htype, hcalls⟩
  rcases mapResults_eq_ok (htypes ▸ hbags) (htypes ▸ hplain)
    (firstError?_eq_none_of_answers hok') with ⟨bag', hbag', htype', hcalls'⟩
  refine ⟨bag, bag', hbag function, hbag' function,
    Bag.same_of_perm (htype.trans htype'.symm) ?_⟩
  rw [← List.map_perm_map_iff outcome_injective, ← hcalls, ← hcalls']
  exact hperm.map g.call

/-! ## Quantifiers that look into an image -/

theorem valueTypesFrom_eq (function : String) (first : Nat) (args : List Datum) :
    valueTypesFrom function first (args.map fun arg => .value arg.type) =
      .ok (args.map Datum.type) := by
  induction args generalizing first with
  | nil => rfl
  | cons arg rest ih =>
      rw [List.map_cons, valueTypesFrom, ih]
      rfl

/-- Where a quantifier over the only bag is accepted, so is `map`, for truth values. -/
theorem checkInputs_map {function : String} {returns : ValueType} (hop : op = anyOf ∨ op = allOf)
    (h : op.checkInputs false function (.function g :: args.map fun arg => .value arg.type) =
      .ok returns) (id : String) :
    map.checkInputs false id (.function g :: args.map fun arg => .value arg.type) =
      .ok (.bag .boolean) := by
  -- The two checks differ only in what they make of the type that the function returns.
  have hshape : op.shape false = .oneBag := by rcases hop with rfl | rfl <;> rfl
  simp only [checkInputs, valueTypesFrom_eq, hshape] at h ⊢
  split at h
  case isTrue => cases h
  case isFalse hplain =>
    rw [if_neg hplain]
    change (if (args.map Datum.type).isEmpty = true then _ else _) = _ at h
    change (if (args.map Datum.type).isEmpty = true then _ else _) = _
    cases hempty : (args.map Datum.type).isEmpty with
    | true =>
        rw [hempty] at h
        cases h
    | false =>
        rw [hempty] at h
        rcases exists_of_bind_eq_ok h with ⟨_, hcheck, h⟩
        rcases exists_of_bind_eq_ok h with ⟨type, htype, hresult⟩
        have hbags := Shape.check_ok hcheck
        have hboolean : type = .boolean := by
          rcases hop with rfl | rfl <;> exact (resultType_ok hresult).1
        simp only [shape, Shape.check, if_neg (Nat.not_lt.2 hbags), htype, hboolean]
        rfl

/-- The image of a function of truth values. -/
theorem members_of_image {bag : Bag}
    (hplain : g.checkPlain (memberTypes (args.map Datum.type)) = .ok .boolean)
    (hok : ∀ call ∈ applications args, ∃ d, g.call call = .ok d)
    (h : (applications args).map g.call = bag.members.map fun v => .ok (.single v)) :
    bag.members = (applications args).map fun call => .boolean (g.affirms call) := by
  refine List.map_injective_iff.2 outcome_injective ?_
  rw [← h, List.map_map]
  exact List.map_congr_left fun call hcall => (call_eq_affirms hplain hcall (hok call hcall)).1

theorem isIn_image {bag : Bag} {calls : List (List Datum)} (htype : bag.type = .boolean)
    (h : bag.members = calls.map fun call => .boolean (g.affirms call)) :
    isIn.call [.ofBool true, .bag bag] = .ok (.ofBool (calls.any g.affirms)) ∧
      isIn.call [.ofBool false, .bag bag] = .ok (.ofBool !calls.all g.affirms) := by
  have hsame (b c : Bool) : (Value.boolean b).same (.boolean c) = (b == c) := by
    cases b <;> cases c <;> rfl
  have hcall (b : Bool) :
      isIn.call [.ofBool b, .bag bag] = .ok (.ofBool (bag.contains (.boolean b))) :=
    Function.call_isIn rfl htype
  rw [hcall, hcall, Bag.contains, Bag.contains, h, List.any_map, List.any_map]
  simp [Function.comp_def, hsame, List.not_all_eq_any_not]

end

/-! ## Images and pairs -/

section

variable {op : HigherOrderOp} {legacy : Bool} {function : String} {g : Function}
  {args args' : List Datum} {returns : ValueType}

/-- The operators on pairs nest the quantifiers that their names tell. -/
theorem meaning_pair_iff (g : Function) (xs ys : Bag) :
    let holds (x y : Value) : Prop := g.holds [.single x, .single y] = .ok true
    (allOfAny.meaning g [.bag xs, .bag ys] = true ↔
        ∀ x ∈ xs.members, ∃ y ∈ ys.members, holds x y) ∧
      (anyOfAll.meaning g [.bag xs, .bag ys] = true ↔
        ∃ x ∈ xs.members, ∀ y ∈ ys.members, holds x y) ∧
      (allOfAll.meaning g [.bag xs, .bag ys] = true ↔
        ∀ x ∈ xs.members, ∀ y ∈ ys.members, holds x y) := by
  simp [meaning, Datum.members, Function.affirms]

/-- Members in another order give the same result, if no application fails. -/
theorem apply_rearranged (h : op.Takes legacy g (args.map Datum.type) returns)
    (hok : ∀ call ∈ applications args, ∃ d, g.call call = .ok d)
    (hargs : List.Forall₂ Datum.Rearranged args args') :
    ∃ d d', op.apply function g args = .ok d ∧ op.apply function g args' = .ok d' ∧
      d.Equal d' := by
  by_cases hmap : op = map
  · subst hmap
    rcases h with ⟨hshape, type, hplain, data, rfl, rfl⟩
    rcases mapResults_rearranged function (bagCount_le_one (.inr (.inr rfl)) hshape) hplain hok
      hargs with ⟨bag, bag', hbag, hbag', hsame⟩
    exact ⟨_, _, hbag, hbag', .bag hsame⟩
  · have hok' : ∀ call ∈ applications args', ∃ d, g.call call = .ok d := fun call hcall =>
      hok call ((applications_perm hargs).mem_iff.2 hcall)
    have htakes' : op.Takes legacy g (args'.map Datum.type) returns :=
      types_of_rearranged hargs ▸ h
    refine ⟨_, _, apply_eq_meaning function hmap h hok, apply_eq_meaning function hmap htakes' hok',
      ?_⟩
    rw [meaning_rearranged hargs]
    exact .single _

/-- A quantifier over one bag looks for a truth value in the image of its members. -/
theorem apply_eq_isIn (hop : op = anyOf ∨ op = allOf)
    (h : op.checkInputs false function (.function g :: args.map fun arg => .value arg.type) =
      .ok returns) (hok : ∀ call ∈ applications args, ∃ d, g.call call = .ok d) :
    ∃ image : Bag, ∀ id,
      map.checkInputs false id (.function g :: args.map fun arg => .value arg.type) =
          .ok (.bag .boolean) ∧
        map.apply id g args = .ok (.bag image) ∧
        (op = anyOf → op.apply function g args = isIn.call [.ofBool true, .bag image]) ∧
        (op = allOf → op.apply function g args =
          (isIn.call [.ofBool false, .bag image]).bind fun found =>
            (Function.ofStrict (.comparison .not)).call [found]) := by
  have hmap : op ≠ map := by rcases hop with rfl | rfl <;> decide
  have hmeaning := apply_eq_meaning function hmap (takes_of_checkInputs h) hok
  have hnot (b : Bool) :
      (Function.ofStrict (.comparison .not)).call [.ofBool b] = .ok (.ofBool !b) := rfl
  rcases takes_of_checkInputs (checkInputs_map hop h function) with
    ⟨hshape, type, hplain, data, rfl, hdata⟩
  cases hdata
  rcases mapResults_eq_ok (bagCount_le_one (.inr (.inr rfl)) hshape) hplain
    (firstError?_eq_none_of_answers hok) with ⟨image, himage, htype, hcalls⟩
  have hfound := isIn_image htype (members_of_image hplain hok hcalls)
  refine ⟨image, fun id => ⟨checkInputs_map hop h id, himage id, ?_, ?_⟩⟩
  · rintro rfl
    rw [hmeaning, hfound.1]
    rfl
  · rintro rfl
    rw [hmeaning, hfound.2, Except.bind, hnot, Bool.not_not]
    rfl

end

end HigherOrderOp

section

open HigherOrderOp (applications)

/-- A function of higher order whose arguments passed the input check.  If it is `map`, its outcome
is the image of the members, under applications for each member of the only bag, wherever that
stands, or for the arguments as they are.  If no application fails, the operators on pairs nest the
quantifiers that their names tell; members in another order give the same result; and a quantifier
over one bag looks for a truth value in the image that `map` gives. -/
theorem apply_images {op : HigherOrderOp} {legacy : Bool} {function : String} {g : Function}
    {args : List Datum} {returns : ValueType}
    (hchecked : op.checkInputs legacy function
      (.function g :: args.map fun arg => .value arg.type) = .ok returns) :
    let outcome := op.apply function g args
    (op = .map → IsImage g args returns outcome ∧
        (∀ before b after, args = before ++ .bag b :: after →
          applications args = b.members.map fun v => before ++ .single v :: after) ∧
        ((∀ arg ∈ args, arg.isBag = false) → applications args = [args])) ∧
      ((∀ call ∈ applications args, ∃ d, g.call call = .ok d) →
        (op ≠ .map → ∃ b, outcome = .ok (.ofBool b)) ∧
        (∀ xs ys : Bag, args = [.bag xs, .bag ys] →
          let holds (x y : Value) : Prop := g.holds [.single x, .single y] = .ok true
          (op = .allOfAny →
            (outcome = .ok (.ofBool true) ↔ ∀ x ∈ xs.members, ∃ y ∈ ys.members, holds x y)) ∧
          (op = .anyOfAll →
            (outcome = .ok (.ofBool true) ↔ ∃ x ∈ xs.members, ∀ y ∈ ys.members, holds x y)) ∧
          (op = .allOfAll →
            (outcome = .ok (.ofBool true) ↔ ∀ x ∈ xs.members, ∀ y ∈ ys.members, holds x y))) ∧
        (∀ args', List.Forall₂ Datum.Rearranged args args' →
          ∃ d d', outcome = .ok d ∧ op.apply function g args' = .ok d' ∧ d.Equal d') ∧
        (legacy = false → op = .anyOf ∨ op = .allOf → ∃ image : Bag, ∀ id,
          HigherOrderOp.map.checkInputs false id
              (.function g :: args.map fun arg => .value arg.type) = .ok (.bag .boolean) ∧
            HigherOrderOp.map.apply id g args = .ok (.bag image) ∧
            (op = .anyOf → outcome = isIn.call [.ofBool true, .bag image]) ∧
            (op = .allOf → outcome = (isIn.call [.ofBool false, .bag image]).bind fun found =>
              (Function.ofStrict (.comparison .not)).call [found]))) := by
  intro outcome
  have htakes := HigherOrderOp.takes_of_checkInputs hchecked
  refine ⟨?_, fun hok => ⟨fun hmap => ?_, ?_, ?_, ?_⟩⟩
  · rintro rfl
    rcases htakes with ⟨hshape, type, hplain, data, rfl, rfl⟩
    have hbags := HigherOrderOp.bagCount_le_one (.inr (.inr rfl)) hshape
    refine ⟨HigherOrderOp.mapResults_isImage function hbags hplain, ?_,
      HigherOrderOp.applications_of_single⟩
    rintro before b after rfl
    exact HigherOrderOp.applications_around hbags
  · exact ⟨_, HigherOrderOp.apply_eq_meaning function hmap htakes hok⟩
  · rintro xs ys rfl holds
    have hpair := HigherOrderOp.meaning_pair_iff g xs ys
    have htrue (hmap : op ≠ .map) :
        outcome = .ok (.ofBool true) ↔ op.meaning g [.bag xs, .bag ys] = true := by
      have houtcome : outcome = .ok (.ofBool (op.meaning g [.bag xs, .bag ys])) :=
        HigherOrderOp.apply_eq_meaning function hmap htakes hok
      simp [houtcome, Datum.ofBool]
    refine ⟨?_, ?_, ?_⟩
    · rintro rfl
      exact (htrue (by decide)).trans hpair.1
    · rintro rfl
      exact (htrue (by decide)).trans hpair.2.1
    · rintro rfl
      exact (htrue (by decide)).trans hpair.2.2
  · intro args' hargs
    exact HigherOrderOp.apply_rearranged htakes hok hargs
  · rintro rfl hop
    exact HigherOrderOp.apply_eq_isIn hop hchecked hok

end

namespace Distances

/-- Integers of which two are as far from zero. -/
def numbers : Bag :=
  ⟨.integer, [.integer (-1), .integer 1, .integer (-2)], by decide⟩

/-- The distance of an integer from zero. -/
def distance : Function := .ofStrict (.integer .abs)

/-- The distances are a bag that holds 1 twice, in whichever order the numbers stand. -/
theorem apply_images_distances :
    HigherOrderOp.map.checkInputs false "map"
        (.function distance :: [Datum.bag numbers].map fun arg => .value arg.type) =
          .ok (.bag .integer) ∧
      ∃ image : Bag, HigherOrderOp.map.apply "map" distance [.bag numbers] = .ok (.bag image) ∧
        image.type = .integer ∧ image.count (.integer 1) = 2 ∧
        ∀ args', List.Forall₂ Datum.Rearranged [.bag numbers] args' →
          ∃ d d', HigherOrderOp.map.apply "map" distance [.bag numbers] = .ok d ∧
            HigherOrderOp.map.apply "map" distance args' = .ok d' ∧ d.Equal d' := by
  have hchecked : HigherOrderOp.map.checkInputs false "map"
      (.function distance :: [Datum.bag numbers].map fun arg => .value arg.type) =
        .ok (.bag .integer) := by decide
  rcases apply_images hchecked with ⟨hmap, hanswers⟩
  rcases hmap rfl with ⟨himage, -, -⟩
  have hnone : firstError? ((HigherOrderOp.applications [.bag numbers]).map distance.call) =
      none := by decide
  rcases himage.image hnone with ⟨image, houtcome, htype, -, hcount⟩
  have hok := List.forall_mem_map.1 (firstError?_eq_none_iff.1 hnone)
  refine ⟨hchecked, image, houtcome, ?_, ?_, (hanswers hok).2.2.1⟩
  · exact (ValueType.bag.inj htype).symm
  · rw [hcount]
    decide

end Distances

end Xacml
