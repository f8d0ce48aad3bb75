import Xacml.Function.HigherOrder
import Xacml.Proofs.Typing.Strict

/-!
# Calls of all functions

What the input check of a function accepts, and what a call then comes to.

* `LogicalOp.fold_ends`: a connective gives a truth value, or fails as one of its arguments does or
  because of their number,
* `Function.Takes` and `HigherOrderOp.Takes` say which types a function takes, and what type its
  result has,
* `Function.call_ends` and `HigherOrderOp.apply_ends`: on values of these types, a function gives a
  value of that type or fails because of the values.
-/

namespace Xacml

/-! ## Connectives -/

section

variable {m : Type → Type} [Monad m] [LawfulMonad m] {fails : EvaluationError → Prop}

theorem Lazy.truth_ends {arg : Lazy m}
    (h : Always (Ends fails fun d => d.type = .boolean) (arg ())) :
    Always (Ends fails fun _ => True) arg.truth := by
  refine h.bind fun result hresult => Always.pure ?_
  exact hresult.bind fun d hd => (Datum.asBool_ends hd).imp fun _ _ => True.intro

namespace LogicalOp

variable {error : Option EvaluationError} {args : List (Lazy m)}

theorem conclude_ends (herror : ∀ e ∈ error, fails e) (b : Bool) :
    Ends fails (fun d => d.type = .boolean) (conclude error b) := by
  cases error with
  | none => exact .ok rfl
  | some e => exact .error (herror e rfl)

theorem fails_of_mem_or {e : EvaluationError} (herror : ∀ e ∈ error, fails e) (he : fails e) :
    ∀ e' ∈ error.or (some e), fails e' := by
  intro e' he'
  cases error with
  | none =>
      obtain rfl : e = e' := Option.some.inj he'
      exact he
  | some first => exact herror e' he'

theorem shortCircuit_ends {deciding : Bool} (herror : ∀ e ∈ error, fails e)
    (hargs : ∀ arg ∈ args, Always (Ends fails fun d => d.type = .boolean) (arg ())) :
    Always (Ends fails fun d => d.type = .boolean) (shortCircuit deciding error args) := by
  induction args generalizing error with
  | nil => exact .pure (conclude_ends herror _)
  | cons arg rest ih =>
      have hrest := fun arg h => hargs arg (List.mem_cons_of_mem _ h)
      refine (Lazy.truth_ends (hargs arg List.mem_cons_self)).bind fun result hresult => ?_
      cases hresult with
      | @ok b _ =>
          by_cases hb : b = deciding
          · simp only [hb, if_true]
            exact .pure (.ok rfl)
          · simp only [hb, if_false]
            exact ih herror hrest
      -- The error is remembered, and the other arguments may still decide.
      | error he => exact ih (fails_of_mem_or herror he) hrest

theorem countTrue_ends {needed trues errors : Nat} (herror : ∀ e ∈ error, fails e)
    (hargs : ∀ arg ∈ args, Always (Ends fails fun d => d.type = .boolean) (arg ())) :
    Always (Ends fails fun d => d.type = .boolean)
      (countTrue needed trues errors error args) := by
  induction args generalizing error trues errors with
  | nil =>
      simp only [countTrue]
      split
      · exact .pure (.ok rfl)
      · exact .pure (conclude_ends herror _)
  | cons arg rest ih =>
      have hrest := fun arg h => hargs arg (List.mem_cons_of_mem _ h)
      simp only [countTrue]
      split
      · exact .pure (.ok rfl)
      · split
        · exact .pure (conclude_ends herror _)
        · refine (Lazy.truth_ends (hargs arg List.mem_cons_self)).bind fun result hresult => ?_
          cases hresult with
          -- The counts decide when the loop stops, not what it may end with.
          | @ok b _ => cases b <;> exact ih herror hrest
          | error he => exact ih (fails_of_mem_or herror he) hrest

/-- A connective gives a truth value, or it fails as an argument may fail, or its count is wrong. -/
theorem fold_ends {op : LogicalOp} {types : List ValueType} (function : String)
    (hdata : ∀ e, e.IsOfData → fails e) (hfits : op.params.Fits types)
    (hargs : List.Forall₂ (fun arg type => Always (Ends fails fun d => d.type = type) (arg ()))
      args types) :
    Always (Ends fails fun d => d.type = .boolean) (op.fold function args) := by
  have hboolean {rest : List (Lazy m)} {more : List ValueType}
      (hmore : ∀ type ∈ more, type = .boolean)
      (hrest : List.Forall₂ (fun arg type => Always (Ends fails fun d => d.type = type) (arg ()))
        rest more) :
      ∀ arg ∈ rest, Always (Ends fails fun d => d.type = .boolean) (arg ()) := by
    intro arg harg
    rcases exists_right_of_forall₂ hrest harg with ⟨type, htype, h⟩
    exact hmore type htype ▸ h
  cases op with
  | and | or =>
      rcases hfits.variadic with ⟨more, rfl, -, hmore⟩
      exact shortCircuit_ends (fun _ h => nomatch h) (hboolean hmore hargs)
  | nOf =>
      rcases hfits.variadic with ⟨more, rfl, -, hmore⟩
      cases hargs with
      | @cons count _ rest _ hcount hrest =>
          -- The first argument tells how many of the others have to be true.
          refine hcount.bind fun result hresult => ?_
          have hn : Ends fails (fun _ => True) (result.bind Datum.asInteger) :=
            hresult.bind fun d hd => (Datum.asInteger_ends hd).imp fun _ _ => True.intro
          cases hinteger : result.bind Datum.asInteger with
          | error e => exact .pure (.error (hn.fails_of_eq hinteger))
          | ok n =>
              dsimp only
              split
              · exact .pure (.error (hdata _ True.intro))
              · split
                · exact .pure (.error (hdata _ True.intro))
                · exact countTrue_ends (fun _ h => nomatch h) (hboolean hmore hrest)

end LogicalOp

end

/-! ## Functions of values -/

namespace Function

/-- Whether a function takes values of the given types, for a result of the given type. -/
def Takes (f : Function) (types : List ValueType) (returns : ValueType) : Prop :=
  match f.operation with
  | .strict op => op.params.Fits types ∧ op.returns = returns
  | .logical op => op.params.Fits types ∧ ValueType.boolean = returns
  | .higherOrder _ _ => False

theorem checkArgsFrom_ok {f : Function} {params : Params} {first : Nat} {args : List ArgType}
    (h : f.checkArgsFrom params first args = .ok ()) :
    ∃ types, args = types.map .value ∧ params.MatchFrom first types := by
  induction args generalizing first with
  | nil => exact ⟨[], rfl, fun _ _ _ htype => nomatch htype⟩
  | cons arg rest ih =>
      rcases exists_of_bind_eq_ok h with ⟨_, harg, hrest⟩
      rcases ih hrest with ⟨types, rfl, htypes⟩
      cases arg with
      | function g => cases harg
      | value type =>
          refine ⟨type :: types, rfl, Params.matchFrom_cons.2 ⟨?_, htypes⟩⟩
          intro expected hexpected
          simp only [checkArg, hexpected] at harg
          split at harg
          case isTrue heq => exact heq
          case isFalse => cases harg

theorem checkArgs_ok {f : Function} {params : Params} {args : List ArgType}
    (h : f.checkArgs params args = .ok ()) :
    ∃ types, args = types.map .value ∧ params.Fits types := by
  simp only [checkArgs] at h
  split at h
  case isTrue hcount =>
    rcases checkArgsFrom_ok h with ⟨types, rfl, htypes⟩
    rw [List.length_map] at hcount
    exact ⟨types, rfl, hcount, htypes⟩
  case isFalse => cases h

theorem checkPlain_ok {f : Function} {args : List ArgType} {returns : ValueType}
    (h : f.checkPlain args = .ok returns) :
    ∃ types, args = types.map .value ∧ f.Takes types returns := by
  simp only [checkPlain] at h
  simp only [Takes]
  cases hf : f.operation with
  | strict op | logical op =>
      rw [hf] at h
      rcases exists_of_bind_eq_ok h with ⟨_, hargs, hreturns⟩
      rcases checkArgs_ok hargs with ⟨types, rfl, hfits⟩
      exact ⟨types, rfl, hfits, Except.ok.inj hreturns⟩
  | higherOrder op legacy =>
      rw [hf] at h
      cases h

/-! ### Calls -/

theorem checkValuesFrom_ok {params : Params} {first : Nat} {args : List Datum}
    (h : params.MatchFrom first (args.map Datum.type)) :
    checkValuesFrom params first args = .ok () := by
  induction args generalizing first with
  | nil => rfl
  | cons arg rest ih =>
      rcases Params.matchFrom_cons.1 h with ⟨harg, hrest⟩
      simp only [checkValuesFrom]
      split
      case h_1 expected hexpected =>
        rw [if_pos (harg expected hexpected)]
        exact ih hrest
      case h_2 => exact ih hrest

theorem checkValues_ok {f : Function} {params : Params} {args : List Datum}
    (h : params.Fits (args.map Datum.type)) : f.checkValues params args = .ok () := by
  have hcount := h.count
  rw [List.length_map] at hcount
  simp only [checkValues]
  rw [if_pos hcount]
  exact checkValuesFrom_ok h.types

/-- On values that fit, a strict function is what it computes, whatever its identifier. -/
theorem call_strict {f : Function} {op : StrictOp} {args : List Datum}
    (hf : f.operation = .strict op) (h : op.params.Fits (args.map Datum.type)) :
    f.call args = op.call args := by
  simp only [call, hf, checkValues_ok h]
  rfl

theorem call_ofStrict {op : StrictOp} {args : List Datum}
    (h : op.params.Fits (args.map Datum.type)) : (ofStrict op).call args = op.call args :=
  call_strict rfl h

/-- A function gives a value of the type that the check promised, or it fails because of the
values. -/
theorem call_ends {f : Function} {args : List Datum} {returns : ValueType}
    (h : f.Takes (args.map Datum.type) returns) :
    Ends EvaluationError.IsOfData (fun d => d.type = returns) (f.call args) := by
  simp only [Takes] at h
  simp only [call]
  cases hf : f.operation with
  | strict op =>
      simp only [hf] at h ⊢
      rcases h with ⟨hfits, rfl⟩
      rw [checkValues_ok hfits]
      exact StrictOp.call_ends hfits
  | logical op =>
      simp only [hf] at h ⊢
      rcases h with ⟨hfits, rfl⟩
      rw [checkValues_ok hfits]
      -- Values are arguments that have been evaluated, to themselves.
      have hknown :
          List.Forall₂
            (fun (arg : Lazy Id) type =>
              Always (Ends EvaluationError.IsOfData fun d => d.type = type) (arg ()))
            (args.map Lazy.known) (args.map Datum.type) := by
        rw [List.forall₂_map_left_iff, List.forall₂_map_right_iff]
        exact List.forall₂_same.2 fun d _ => .pure (.ok rfl)
      exact (LogicalOp.fold_ends f.id (fun _ h => h) hfits hknown).run
  | higherOrder op legacy =>
      rw [hf] at h
      exact h.elim

theorem holds_ends {g : Function} {args : List Datum}
    (h : g.Takes (args.map Datum.type) .boolean) :
    Ends EvaluationError.IsOfData (fun _ => True) (g.holds args) :=
  (call_ends h).bind fun _ hd => (Datum.asBool_ends hd).imp fun _ _ => True.intro

end Function

/-! ## Functions of higher order -/

/-! ### Members -/

theorem Datum.type_of_mem_members {d member : Datum} (h : member ∈ d.members) :
    member.type = .single d.type.data := by
  cases d with
  | single v =>
      obtain rfl := List.mem_singleton.1 h
      rfl
  | bag b =>
      rcases List.mem_map.1 h with ⟨v, hv, rfl⟩
      exact congrArg ValueType.single (b.typed v hv)

theorem Datum.eq_bag_of_isBag {d : Datum} (h : d.type.isBag = true) : ∃ b, d = .bag b := by
  cases d with
  | single v => cases h
  | bag b => exact ⟨b, rfl⟩

/-- The types of one member of each of several arguments. -/
def memberwise (types : List ValueType) : List ValueType :=
  types.map fun type => .single type.data

theorem types_of_mem_choices {args call : List Datum}
    (h : call ∈ choices (args.map Datum.members)) :
    call.map Datum.type = memberwise (args.map Datum.type) := by
  induction args generalizing call with
  | nil =>
      obtain rfl := List.mem_singleton.1 h
      rfl
  | cons arg rest ih =>
      rcases mem_choices_cons.1 h with ⟨member, hmember, others, hothers, rfl⟩
      exact List.cons_eq_cons.2 ⟨Datum.type_of_mem_members hmember, ih hothers⟩

theorem eachMember_eq {args : List Datum} (function : String)
    (h : bagCount (args.map Datum.type) ≤ 1) :
    eachMember function args = .ok (choices (args.map Datum.members)) := by
  have hcount : args.countP Datum.isBag = bagCount (args.map Datum.type) := by
    simp only [bagCount]
    rw [List.countP_map]
    rfl
  simp only [eachMember]
  rw [if_neg (by omega)]

section

variable {α : Type} {fails : EvaluationError → Prop} {items : List α}
variable {p : α → Except EvaluationError Bool}

theorem anyItem_ends (h : ∀ item ∈ items, Ends fails (fun _ => True) (p item)) :
    Ends fails (fun _ => True) (anyItem p items) := by
  induction items with
  | nil => exact .ok True.intro
  | cons item rest ih =>
      refine (h item List.mem_cons_self).bind fun b _ => ?_
      cases b with
      | true => exact .ok True.intro
      | false => exact ih fun item hitem => h item (List.mem_cons_of_mem _ hitem)

theorem allItems_ends (h : ∀ item ∈ items, Ends fails (fun _ => True) (p item)) :
    Ends fails (fun _ => True) (allItems p items) := by
  induction items with
  | nil => exact .ok True.intro
  | cons item rest ih =>
      refine (h item List.mem_cons_self).bind fun b _ => ?_
      cases b with
      | true => exact ih fun item hitem => h item (List.mem_cons_of_mem _ hitem)
      | false => exact .ok True.intro

end

/-! ### Input checks -/

/-- Whether the types of the arguments after the function have a shape. -/
def Shape.Matches : Shape → List ValueType → Prop
  | oneBag, types => bagCount types ≤ 1
  | allBags, types => ∀ type ∈ types, type.isBag = true
  | exactly bags, types => types.map ValueType.isBag = bags

theorem Shape.eq_false_of_strayBag? {bags : List Bool} {types : List ValueType}
    (h : strayBag? bags types = none) :
    ∀ pair ∈ bags.zip types, (!pair.1 && pair.2.isBag) = false := by
  simp only [strayBag?] at h
  split at h
  case h_1 index hindex =>
    -- An index that was found is within the types, so a type would be reported.
    rcases List.findIdx?_eq_some_iff_getElem.1 hindex with ⟨hlt, -⟩
    have hlt : index < types.length := by
      rw [List.length_zip] at hlt
      omega
    simp [List.getElem?_eq_getElem hlt] at h
  case h_2 hnone => exact List.findIdx?_eq_none_iff.1 hnone

theorem Shape.map_isBag_eq {bags : List Bool} {types : List ValueType}
    (hlength : types.length = bags.length) (hmissing : missingBag? bags types = none)
    (hstray : strayBag? bags types = none) : types.map ValueType.isBag = bags := by
  have hbags : List.Forall₂ (fun bag type => bag = ValueType.isBag type) bags types := by
    refine List.forall₂_iff_zip.2 ⟨hlength.symm, fun {bag type} hpair => ?_⟩
    have hmissing := List.findIdx?_eq_none_iff.1 hmissing (bag, type) hpair
    have hstray := eq_false_of_strayBag? hstray (bag, type) hpair
    cases bag <;> simp_all
  rw [← List.forall₂_map_right_iff, List.forall₂_eq_eq_eq] at hbags
  exact hbags.symm

theorem Shape.check_ok {shape : Shape} {function : String} {total : Nat} {types : List ValueType}
    (h : shape.check function total types = .ok ()) : shape.Matches types := by
  cases shape with
  | oneBag =>
      simp only [check] at h
      split at h
      case isTrue => cases h
      case isFalse hcount => exact Nat.not_lt.1 hcount
  | allBags =>
      simp only [check] at h
      split at h
      case h_1 => cases h
      case h_2 hnone =>
        intro type htype
        simpa using List.findIdx?_eq_none_iff.1 hnone type htype
  | exactly bags =>
      simp only [check] at h
      split at h
      case isTrue => cases h
      case isFalse hlength =>
        have hlength : types.length = bags.length := not_not.1 hlength
        split at h
        case isTrue => cases h
        case isFalse =>
          split at h
          case h_1 => cases h
          case h_2 => cases h
          case h_3 hmissing hstray =>
            exact map_isBag_eq hlength hmissing hstray

theorem valueTypesFrom_ok {function : String} {first : Nat} {args : List ArgType}
    {types : List ValueType} (h : valueTypesFrom function first args = .ok types) :
    args = types.map .value := by
  induction args generalizing first types with
  | nil =>
      obtain rfl := Except.ok.inj h
      rfl
  | cons arg rest ih =>
      cases arg with
      | function g => cases h
      | value type =>
          rcases exists_of_bind_eq_ok h with ⟨more, hmore, htypes⟩
          obtain rfl := Except.ok.inj htypes
          exact congrArg _ (ih hmore)

namespace HigherOrderOp

/-- Whether a function makes a result of a type out of results of the function it calls. -/
def Makes : HigherOrderOp → ValueType → ValueType → Prop
  | map, returns, type => ∃ data, returns = .single data ∧ type = .bag data
  | _, returns, type => returns = .boolean ∧ type = .boolean

/-- Whether a function takes the function `g` and values of the given types, for a result of the
given type. -/
structure Takes (op : HigherOrderOp) (legacy : Bool) (g : Function) (types : List ValueType)
    (type : ValueType) : Prop where
  shape : (op.shape legacy).Matches types
  makes : ∃ returns, g.checkPlain (memberTypes types) = .ok returns ∧ op.Makes returns type

theorem resultType_ok {op : HigherOrderOp} {function : String} {g : Function}
    {returns type : ValueType} (h : op.resultType function g returns = .ok type) :
    op.Makes returns type := by
  cases op with
  | map =>
      cases returns with
      | bag data => cases h
      | single data => exact ⟨data, rfl, (Except.ok.inj h).symm⟩
  | _ =>
      simp only [resultType] at h
      split at h
      case isTrue hreturns => exact ⟨hreturns, (Except.ok.inj h).symm⟩
      case isFalse => cases h

theorem checkInputs_ok {op : HigherOrderOp} {legacy : Bool} {function : String}
    {args : List ArgType} {type : ValueType}
    (h : op.checkInputs legacy function args = .ok type) :
    ∃ g types, args = .function g :: types.map .value ∧ op.Takes legacy g types type := by
  simp only [checkInputs] at h
  split at h
  case h_1 => cases h
  case h_2 => cases h
  case h_3 g rest =>
    split at h
    case isTrue => cases h
    case isFalse =>
      rcases exists_of_bind_eq_ok h with ⟨types, htypes, h⟩
      obtain rfl := valueTypesFrom_ok htypes
      cases hempty : types.isEmpty with
      | true =>
          rw [hempty] at h
          cases h
      | false =>
          rw [hempty] at h
          rcases exists_of_bind_eq_ok h with ⟨_, hshape, h⟩
          rcases exists_of_bind_eq_ok h with ⟨returns, hreturns, hresult⟩
          exact ⟨g, types, rfl, Shape.check_ok hshape, returns, hreturns, resultType_ok hresult⟩

/-! ### Application -/

theorem takes_of_checkPlain {g : Function} {types : List ValueType} {returns : ValueType}
    (h : g.checkPlain (memberTypes types) = .ok returns) : g.Takes (memberwise types) returns := by
  rcases Function.checkPlain_ok h with ⟨found, hfound, htakes⟩
  have heq : memberwise types = found := by
    have hinj : Function.Injective (List.map ArgType.value) :=
      List.map_injective_iff.2 fun _ _ => ArgType.value.inj
    refine hinj (Eq.trans ?_ hfound)
    simp [memberwise, memberTypes]
  rwa [heq]

section

variable {g : Function} {args : List Datum}

theorem mapResults_ends {data : DataType} (function : String)
    (hbags : bagCount (args.map Datum.type) ≤ 1)
    (hplain : g.checkPlain (memberTypes (args.map Datum.type)) = .ok (.single data)) :
    Ends EvaluationError.IsOfData (fun d => d.type = .bag data) (mapResults function g args) := by
  have hcalls : ∀ call ∈ choices (args.map Datum.members),
      Ends EvaluationError.IsOfData (fun v => v.type = data)
        ((g.call call).bind Datum.asValue) := by
    intro call hcall
    have htakes : g.Takes (call.map Datum.type) (.single data) := by
      rw [types_of_mem_choices hcall]
      exact takes_of_checkPlain hplain
    exact (Function.call_ends htakes).bind fun d hd => (Datum.asValue_ends hd).imp fun v h => h.2
  simp only [mapResults, hplain, eachMember_eq function hbags]
  refine (Ends.mapM hcalls).bind fun values hvalues => ?_
  have htyped : ∀ v ∈ values, v.type = data := by
    intro v hv
    rcases exists_left_of_forall₂ hvalues hv with ⟨_, -, htype⟩
    exact htype
  rcases Bag.ofList_of_types htyped with ⟨bag, hbag, htype, -⟩
  simp only [ValueType.data, hbag]
  exact .ok (congrArg ValueType.bag htype)

theorem holds_of_mem_choices {call : List Datum}
    (htakes : g.Takes (memberwise (args.map Datum.type)) .boolean)
    (hcall : call ∈ choices (args.map Datum.members)) :
    Ends EvaluationError.IsOfData (fun _ => True) (g.holds call) := by
  refine Function.holds_ends ?_
  rwa [types_of_mem_choices hcall]

/-- Whether a search among values fails only as its condition fails. -/
def IsSearch (search : (Value → Except EvaluationError Bool) → List Value →
    Except EvaluationError Bool) : Prop :=
  ∀ p values, (∀ v ∈ values, Ends EvaluationError.IsOfData (fun _ => True) (p v)) →
    Ends EvaluationError.IsOfData (fun _ => True) (search p values)

theorem isSearch_anyItem : IsSearch anyItem := fun _ _ h => anyItem_ends h

theorem isSearch_allItems : IsSearch allItems := fun _ _ h => allItems_ends h

theorem eq_bags_of_shape (hshape : (args.map Datum.type).map ValueType.isBag = [true, true]) :
    ∃ xs ys, args = [.bag xs, .bag ys] := by
  rw [List.map_map] at hshape
  rcases List.map_eq_cons_iff.1 hshape with ⟨a, _, rfl, ha, hrest⟩
  rcases List.map_eq_singleton_iff.1 hrest with ⟨b, rfl, hb⟩
  rcases Datum.eq_bag_of_isBag ha with ⟨xs, rfl⟩
  rcases Datum.eq_bag_of_isBag hb with ⟨ys, rfl⟩
  exact ⟨xs, ys, rfl⟩

/-- Any two members are a choice from the two bags. -/
theorem pair_mem_choices {xs ys : Bag} {x y : Value} (hx : x ∈ xs.members) (hy : y ∈ ys.members) :
    [.single x, .single y] ∈ choices ([Datum.bag xs, .bag ys].map Datum.members) := by
  simp only [List.map_cons, List.map_nil, mem_choices_cons, choices_nil, List.mem_singleton]
  exact ⟨_, List.mem_map_of_mem hx, _, ⟨_, List.mem_map_of_mem hy, _, rfl, rfl⟩, rfl⟩

theorem pairwise_ends (function : String)
    {outer inner : (Value → Except EvaluationError Bool) → List Value →
      Except EvaluationError Bool}
    (hshape : (args.map Datum.type).map ValueType.isBag = [true, true])
    (htakes : g.Takes (memberwise (args.map Datum.type)) .boolean)
    (houter : IsSearch outer) (hinner : IsSearch inner) :
    Ends EvaluationError.IsOfData (fun _ => True) (pairwise function g args outer inner) := by
  rcases eq_bags_of_shape hshape with ⟨xs, ys, rfl⟩
  exact houter _ _ fun x hx => hinner _ _ fun y hy =>
    holds_of_mem_choices htakes (pair_mem_choices hx hy)

theorem mapM_asBag_eq (hbags : ∀ type ∈ args.map Datum.type, type.isBag = true) :
    ∃ bags, args.mapM Datum.asBag = .ok bags ∧ args = bags.map Datum.bag := by
  induction args with
  | nil => exact ⟨[], rfl, rfl⟩
  | cons a rest ih =>
      rcases List.forall_mem_cons.1 hbags with ⟨ha, hrest⟩
      rcases Datum.eq_bag_of_isBag ha with ⟨b, rfl⟩
      rcases ih hrest with ⟨bags, hbags, rfl⟩
      refine ⟨b :: bags, ?_, rfl⟩
      rw [List.mapM_cons, hbags]
      rfl

end

theorem bagCount_le_one {op : HigherOrderOp} {legacy : Bool} {types : List ValueType}
    (hop : op = anyOf ∨ op = allOf ∨ op = map) (h : (op.shape legacy).Matches types) :
    bagCount types ≤ 1 := by
  cases legacy with
  | false => rcases hop with rfl | rfl | rfl <;> exact h
  | true =>
      have hcount : bagCount types = (types.map ValueType.isBag).countP id := by
        rw [List.countP_map]
        rfl
      rw [hcount]
      rcases hop with rfl | rfl | rfl
      all_goals
        have h : types.map ValueType.isBag = _ := h
        rw [h]
        decide

theorem isBag_of_anyOfAny {legacy : Bool} {types : List ValueType}
    (h : (anyOfAny.shape legacy).Matches types) : ∀ type ∈ types, type.isBag = true := by
  cases legacy with
  | false => exact h
  | true =>
      intro type htype
      have hmem : type.isBag ∈ types.map ValueType.isBag := List.mem_map_of_mem htype
      have h : types.map ValueType.isBag = [true, true] := h
      rw [h] at hmem
      simpa using hmem

/-- A function of higher order gives a value of the type that the check promised, or the function
that it calls fails because of the values. -/
theorem apply_ends {op : HigherOrderOp} {legacy : Bool} {g : Function} {args : List Datum}
    {type : ValueType} (function : String) (h : op.Takes legacy g (args.map Datum.type) type) :
    Ends EvaluationError.IsOfData (fun d => d.type = type) (op.apply function g args) := by
  rcases h with ⟨hshape, returns, hplain, hmakes⟩
  have htakes := takes_of_checkPlain hplain
  cases op with
  | map =>
      rcases hmakes with ⟨data, rfl, rfl⟩
      exact mapResults_ends function (bagCount_le_one (.inr (.inr rfl)) hshape) hplain
  | anyOf =>
      rcases hmakes with ⟨rfl, rfl⟩
      have hcount := bagCount_le_one (.inl rfl) hshape
      simp only [apply, eachMember_eq function hcount]
      exact (anyItem_ends fun _ hcall => holds_of_mem_choices htakes hcall).bind fun _ _ => .ok rfl
  | allOf =>
      rcases hmakes with ⟨rfl, rfl⟩
      have hcount := bagCount_le_one (.inr (.inl rfl)) hshape
      simp only [apply, eachMember_eq function hcount]
      exact (allItems_ends fun _ hcall => holds_of_mem_choices htakes hcall).bind fun _ _ => .ok rfl
  | anyOfAny =>
      rcases hmakes with ⟨rfl, rfl⟩
      rcases mapM_asBag_eq (isBag_of_anyOfAny hshape) with ⟨bags, hbags, rfl⟩
      simp only [apply, hbags]
      refine (anyItem_ends fun call hcall => holds_of_mem_choices htakes ?_).bind fun _ _ => .ok rfl
      rwa [List.map_map]
  | allOfAny | anyOfAll | allOfAll =>
      rcases hmakes with ⟨rfl, rfl⟩
      refine (pairwise_ends function ?_ htakes ?_ ?_).bind fun _ _ => .ok rfl
      · cases legacy <;> exact hshape
      · first | exact isSearch_allItems | exact isSearch_anyItem
      · first | exact isSearch_allItems | exact isSearch_anyItem

end HigherOrderOp

end Xacml
