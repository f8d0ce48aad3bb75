import Xacml.Function.Basic
import Xacml.Proofs.Typing.Ending

/-!
# Calls of strict functions

* `Params.Fits` says that arguments fit parameters in number and type,
* `Datum.asValue_ends` and its like say what arguments of one type are read as,
* `StrictOp.call_ends`: on arguments that fit, a strict function gives a value of its type or fails
  because of the values.
-/

namespace Xacml

/-! ## Parameters -/

namespace Params

/-- Whether types are those of the parameters from an index on. -/
def MatchFrom (params : Params) (first : Nat) (types : List ValueType) : Prop :=
  ∀ i type expected,
    types[i]? = some type → params.type? (first + i) = some expected → type = expected

theorem matchFrom_cons {params : Params} {first : Nat} {type : ValueType}
    {types : List ValueType} :
    params.MatchFrom first (type :: types) ↔
      (∀ expected, params.type? first = some expected → type = expected) ∧
        params.MatchFrom (first + 1) types := by
  constructor
  · intro h
    refine ⟨fun expected => h 0 type expected rfl, fun i type expected htype hexpected => ?_⟩
    exact h (i + 1) type expected htype (by rwa [Nat.add_right_comm, Nat.add_assoc] at hexpected)
  · rintro ⟨hfirst, hrest⟩ i other expected htype hexpected
    cases i with
    | zero =>
        obtain rfl : type = other := Option.some.inj htype
        exact hfirst expected hexpected
    | succ i =>
        exact hrest i other expected htype (by rwa [Nat.add_right_comm, Nat.add_assoc])

/-- Whether arguments of the given types fit, in number and in type. -/
structure Fits (params : Params) (types : List ValueType) : Prop where
  count : params.accepts types.length = true
  types : params.MatchFrom 0 types

/-- Whether every parameter has one type. -/
def IsUniform (type : ValueType) : Params → Prop
  | fixed types => ∀ expected ∈ types, expected = type
  | variadic leading rest _ => (∀ expected ∈ leading, expected = type) ∧ rest = type

namespace Fits

variable {types leading : List ValueType} {rest : ValueType} {least : Nat}

theorem type_eq {params : Params} (h : params.Fits types) {i : Nat} {type expected : ValueType}
    (htype : types[i]? = some type) (hexpected : params.type? i = some expected) :
    type = expected :=
  h.types i type expected htype (by rwa [Nat.zero_add])

theorem fixed {expected : List ValueType} (h : (Params.fixed expected).Fits types) :
    types = expected := by
  have hlength : expected.length = types.length := by simpa [accepts] using h.count
  refine List.ext_getElem hlength.symm fun i hi hi' => ?_
  exact h.type_eq (List.getElem?_eq_getElem hi) (List.getElem?_eq_getElem hi')

theorem of_fixed {types expected : List ValueType} (h : types = expected) :
    (Params.fixed expected).Fits types := by
  subst h
  refine ⟨by simp [accepts], fun i type expected htype hexpected => ?_⟩
  rw [Nat.zero_add, type?, htype] at hexpected
  exact Option.some.inj hexpected

theorem variadic (h : (Params.variadic leading rest least).Fits types) :
    ∃ more, types = leading ++ more ∧ least ≤ more.length ∧ ∀ type ∈ more, type = rest := by
  have hlength : leading.length + least ≤ types.length := by simpa [accepts] using h.count
  refine ⟨types.drop leading.length, ?_, by simp; omega, ?_⟩
  · have htake : types.take leading.length = leading := by
      refine List.ext_getElem (by simp; omega) fun i hi hi' => ?_
      have htypes : i < types.length := by omega
      rw [List.getElem_take]
      refine h.type_eq (List.getElem?_eq_getElem htypes) ?_
      simp [type?, List.getElem?_eq_getElem hi']
    calc
      types = types.take leading.length ++ types.drop leading.length :=
        (List.take_append_drop _ _).symm
      _ = leading ++ types.drop leading.length := by rw [htake]
  · intro type htype
    rcases List.mem_iff_getElem?.1 htype with ⟨i, hi⟩
    rw [List.getElem?_drop] at hi
    exact h.type_eq hi (by simp [type?])

theorem eq_of_isUniform {params : Params} {type : ValueType} (h : params.Fits types)
    (huniform : params.IsUniform type) : ∀ actual ∈ types, actual = type := by
  cases params with
  | fixed expected =>
      have htypes : types = expected := h.fixed
      rw [htypes]
      exact huniform
  | variadic leading rest least =>
      rcases h.variadic with ⟨more, rfl, -, hmore⟩
      rcases huniform with ⟨hleading, rfl⟩
      exact List.forall_mem_append.2 ⟨hleading, hmore⟩

/-- As many values as there are arguments fit in number. -/
theorem count_of_forall₂ {α : Type} {params : Params} {args : List Datum} {R : Datum → α → Prop}
    {values : List α} (h : params.Fits (args.map Datum.type))
    (hvalues : List.Forall₂ R args values) : params.accepts values.length = true := by
  have hlength : (args.map Datum.type).length = values.length := by
    simp [hvalues.length_eq]
  exact hlength ▸ h.count

end Fits

end Params

namespace Datum

variable {args : List Datum} {t t' t'' : ValueType}

theorem eq_one_of_types (h : args.map Datum.type = [t]) : ∃ a, args = [a] ∧ a.type = t := by
  simpa [List.map_eq_cons_iff] using h

theorem eq_two_of_types (h : args.map Datum.type = [t, t']) :
    ∃ a b, args = [a, b] ∧ a.type = t ∧ b.type = t' := by
  rcases List.map_eq_cons_iff.1 h with ⟨a, _, rfl, rfl, htail⟩
  rcases eq_one_of_types htail with ⟨b, rfl, rfl⟩
  exact ⟨a, b, rfl, rfl, rfl⟩

theorem eq_three_of_types (h : args.map Datum.type = [t, t', t'']) :
    ∃ a b c, args = [a, b, c] ∧ a.type = t ∧ b.type = t' ∧ c.type = t'' := by
  rcases List.map_eq_cons_iff.1 h with ⟨a, _, rfl, rfl, htail⟩
  rcases eq_two_of_types htail with ⟨b, c, rfl, rfl, rfl⟩
  exact ⟨a, b, c, rfl, rfl, rfl, rfl⟩

/-! ## Taking arguments apart -/

section

variable {fails : EvaluationError → Prop} {d : Datum} {type : DataType}

theorem asValue_ends (h : d.type = .single type) :
    Ends fails (fun v => d = .single v ∧ v.type = type) d.asValue := by
  cases d with
  | single v => exact .ok ⟨rfl, ValueType.single.inj h⟩
  | bag b => cases h

theorem asBag_ends (h : d.type = .bag type) :
    Ends fails (fun b => d = .bag b ∧ b.type = type) d.asBag := by
  cases d with
  | single v => cases h
  | bag b => exact .ok ⟨rfl, ValueType.bag.inj h⟩

theorem asBool_ends (h : d.type = .boolean) :
    Ends fails (fun b => d = .ofBool b) d.asBool := by
  rcases d with v | b
  · cases v <;> first | exact .ok rfl | cases h
  · cases h

theorem asInteger_ends (h : d.type = .single .integer) :
    Ends fails (fun n => d = .single (.integer n)) d.asInteger := by
  rcases d with v | b
  · cases v <;> first | exact .ok rfl | cases h
  · cases h

theorem asDouble_ends (h : d.type = .single .double) :
    Ends fails (fun x => d = .single (.double x)) d.asDouble := by
  rcases d with v | b
  · cases v <;> first | exact .ok rfl | cases h
  · cases h

theorem asTime_ends (h : d.type = .single .time) :
    Ends fails (fun t => d = .single (.time t)) d.asTime := by
  rcases d with v | b
  · cases v <;> first | exact .ok rfl | cases h
  · cases h

theorem asText_ends (texts : TextType) (h : d.type = .single texts.dataType) :
    Ends fails (fun _ => True) d.asText := by
  rcases d with v | b
  · cases texts <;> cases v <;> first | exact .ok True.intro | cases h
  · cases h

end

/-- Arguments that are all of one type are read one by one. -/
theorem mapM_ends {α : Type} {fails : EvaluationError → Prop} {R : Datum → α → Prop}
    {read : Datum → Except EvaluationError α} (htypes : ∀ type ∈ args.map Datum.type, type = t)
    (hread : ∀ {d : Datum}, d.type = t → Ends fails (R d) (read d)) :
    Ends fails (List.Forall₂ R args) (args.mapM read) :=
  Ends.mapM fun _ ha => hread (htypes _ (List.mem_map_of_mem ha))

end Datum

/-! ## Strict functions -/

section

variable {args : List Datum}

namespace IntegerOp

theorem foldAll_ends (op : Int64 → Int64 → Option Int64) (acc : Int64) (numbers : List Int64) :
    Ends Failure.IsOfValues (fun _ => True) (foldAll op acc numbers) := by
  induction numbers generalizing acc with
  | nil => exact .ok True.intro
  | cons n rest ih =>
      simp only [foldAll]
      split
      · exact ih _
      · exact .error True.intro

theorem within_ends (result : Option Int64) :
    Ends Failure.IsOfValues (fun _ => True) (within result) := by
  cases result with
  | some n => exact .ok True.intro
  | none => exact .error True.intro

/-- As many numbers as a function takes have a result. -/
theorem compute_ends {op : IntegerOp} {numbers : List Int64}
    (h : op.params.accepts numbers.length = true) :
    ∃ r, op.compute numbers = some r ∧ Ends Failure.IsOfValues (fun _ => True) r := by
  cases op with
  | add | multiply =>
      have hpos : 0 < numbers.length := by
        simp only [params, Params.accepts, decide_eq_true_eq] at h
        omega
      rcases List.exists_cons_of_length_pos hpos with ⟨n, rest, rfl⟩
      exact ⟨_, rfl, foldAll_ends _ _ _⟩
  | subtract =>
      rcases List.length_eq_two.1 (beq_iff_eq.1 h).symm with ⟨a, b, rfl⟩
      exact ⟨_, rfl, within_ends _⟩
  | divide | mod =>
      rcases List.length_eq_two.1 (beq_iff_eq.1 h).symm with ⟨a, b, rfl⟩
      refine ⟨_, rfl, ?_⟩
      split
      · exact .error True.intro
      · exact within_ends _
  | abs =>
      rcases List.length_eq_one_iff.1 (beq_iff_eq.1 h).symm with ⟨a, rfl⟩
      exact ⟨_, rfl, within_ends _⟩

theorem isUniform_params (op : IntegerOp) :
    op.params.IsUniform (.single .integer) := by
  cases op <;> simp [params, Params.IsUniform]

theorem call_ends {op : IntegerOp} (h : op.params.Fits (args.map Datum.type)) :
    Ends EvaluationError.IsOfData (fun d => d.type = .single .integer) (op.call args) := by
  simp only [call]
  have htypes := h.eq_of_isUniform op.isUniform_params
  refine (Datum.mapM_ends htypes Datum.asInteger_ends).bind fun numbers hnumbers => ?_
  rcases compute_ends (h.count_of_forall₂ hnumbers) with ⟨r, hr, hends⟩
  rw [hr]
  cases r with
  | ok n => exact .ok rfl
  | error failure => exact .error (hends.fails_of_eq rfl)

end IntegerOp

namespace DoubleOp

/-- As many numbers as a function takes have a result. -/
theorem compute_ends {op : DoubleOp} {numbers : List Double}
    (h : op.params.accepts numbers.length = true) :
    ∃ r, op.compute numbers = some r ∧ Ends Failure.IsOfValues (fun _ => True) r := by
  cases op with
  | add | multiply =>
      have hpos : 0 < numbers.length := by
        simp only [params, Params.accepts, decide_eq_true_eq] at h
        omega
      rcases List.exists_cons_of_length_pos hpos with ⟨x, rest, rfl⟩
      exact ⟨_, rfl, .ok True.intro⟩
  | subtract =>
      rcases List.length_eq_two.1 (beq_iff_eq.1 h).symm with ⟨x, y, rfl⟩
      exact ⟨_, rfl, .ok True.intro⟩
  | divide =>
      rcases List.length_eq_two.1 (beq_iff_eq.1 h).symm with ⟨x, y, rfl⟩
      refine ⟨_, rfl, ?_⟩
      split
      · exact .error True.intro
      · exact .ok True.intro
  | abs | round | floor =>
      rcases List.length_eq_one_iff.1 (beq_iff_eq.1 h).symm with ⟨x, rfl⟩
      exact ⟨_, rfl, .ok True.intro⟩

theorem isUniform_params (op : DoubleOp) :
    op.params.IsUniform (.single .double) := by
  cases op <;> simp [params, Params.IsUniform]

theorem call_ends {op : DoubleOp} (h : op.params.Fits (args.map Datum.type)) :
    Ends EvaluationError.IsOfData (fun d => d.type = .single .double) (op.call args) := by
  simp only [call]
  have htypes := h.eq_of_isUniform op.isUniform_params
  refine (Datum.mapM_ends htypes Datum.asDouble_ends).bind fun numbers hnumbers => ?_
  rcases compute_ends (h.count_of_forall₂ hnumbers) with ⟨r, hr, hends⟩
  rw [hr]
  cases r with
  | ok x => exact .ok rfl
  | error failure => exact .error (hends.fails_of_eq rfl)

end DoubleOp

namespace ShiftOp

theorem type_of_move? {op : ShiftOp} {a b v : Value} (h : op.move? a b = some v) :
    v.type = op.subject := by
  simp only [move?] at h
  split at h
  case h_7 => cases h
  all_goals
    rcases Option.map_eq_some_iff.1 h with ⟨moved, -, rfl⟩
    rfl

theorem call_ends {op : ShiftOp} (h : op.params.Fits (args.map Datum.type)) :
    Ends EvaluationError.IsOfData (fun d => d.type = .single op.subject) (op.call args) := by
  rcases Datum.eq_two_of_types h.fixed with ⟨a, b, rfl, ha, hb⟩
  simp only [call, List.mapM_cons, List.mapM_nil, bind_assoc, pure_bind]
  refine (Datum.asValue_ends ha).bind fun v _ => ?_
  refine (Datum.asValue_ends hb).bind fun w _ => ?_
  cases hmove : op.move? v w with
  | some moved => exact .ok (congrArg ValueType.single (type_of_move? hmove))
  | none => exact .error True.intro

end ShiftOp

namespace TextOp

theorem slice_ends (text : List Char) (first last : Int64) :
    Ends Failure.IsOfValues (fun _ => True) (slice text first last) := by
  simp only [slice]
  split
  · exact .error True.intro
  · split
    · exact .ok True.intro
    · split
      · exact .error True.intro
      · exact .ok True.intro

theorem call_ends {op : TextOp} (h : op.params.Fits (args.map Datum.type)) :
    Ends EvaluationError.IsOfData (fun d => d.type = op.returns) (op.call args) := by
  cases op with
  | normalizeSpace | lowerCase =>
      rcases Datum.eq_one_of_types h.fixed with ⟨a, rfl, ha⟩
      exact (Datum.asText_ends .string ha).bind fun _ _ => .ok rfl
  | concatenate =>
      rcases h.variadic with ⟨more, htypes, -, hmore⟩
      rw [List.nil_append] at htypes
      refine (Datum.mapM_ends (htypes ▸ hmore) (Datum.asText_ends .string)).bind ?_
      exact fun _ _ => .ok rfl
  | equalIgnoringCase =>
      rcases Datum.eq_two_of_types h.fixed with ⟨a, b, rfl, ha, hb⟩
      refine (Datum.asText_ends .string ha).bind fun _ _ => ?_
      exact (Datum.asText_ends .string hb).bind fun _ _ => .ok rfl
  | search way texts =>
      rcases Datum.eq_two_of_types h.fixed with ⟨a, b, rfl, ha, hb⟩
      refine (Datum.asText_ends .string ha).bind fun _ _ => ?_
      exact (Datum.asText_ends texts hb).bind fun _ _ => .ok rfl
  | substring texts =>
      rcases Datum.eq_three_of_types h.fixed with ⟨a, b, c, rfl, ha, hb, hc⟩
      refine (Datum.asText_ends texts ha).bind fun text _ => ?_
      refine (Datum.asInteger_ends hb).bind fun first _ => ?_
      refine (Datum.asInteger_ends hc).bind fun last _ => ?_
      cases hslice : slice text.toList first last with
      | ok text => exact .ok rfl
      | error failure => exact .error ((slice_ends _ _ _).fails_of_eq hslice)

end TextOp

theorem Value.type_of_readForm {type : DataType} {text : List Char} {v : Value}
    (h : readForm type text = .ok v) : v.type = type := by
  cases type with
  | string | xpathExpression =>
      cases h
      rfl
  | anyUri =>
      simp only [readForm] at h
      split at h
      · cases h
      · cases h
        rfl
  | rfc822Name =>
      simp only [readForm] at h
      split at h
      · cases h
        rfl
      · cases h
  -- The other forms are read by a reader of their own, whose result is put under the type.
  | _ =>
      rcases exists_of_map_eq_ok h with ⟨_, -, rfl⟩
      rfl

theorem Value.type_of_read {type : DataType} {text : String} {v : Value}
    (h : read type text = .ok v) : v.type = type := by
  simp only [read] at h
  cases hform : readForm type text.toList with
  | ok w =>
      rw [hform] at h
      cases h
      exact type_of_readForm hform
  | error fault =>
      rw [hform] at h
      cases h

namespace ConversionOp

theorem truncate_ends (x : Double) :
    Ends Failure.IsOfValues (fun _ => True) (truncate x) := by
  simp only [truncate]
  split
  · exact .ok True.intro
  · exact .error True.intro

theorem convert_ends {op : ConversionOp} {d : Datum} (h : d.type = .single op.source) :
    Ends EvaluationError.IsOfData (fun v => v.type = op.target) (op.convert d) := by
  cases op with
  | doubleToInteger =>
      refine (Datum.asDouble_ends h).bind fun x _ => ?_
      cases htruncate : truncate x with
      | ok n => exact .ok rfl
      | error failure => exact .error ((truncate_ends x).fails_of_eq htruncate)
  | integerToDouble => exact (Datum.asInteger_ends h).bind fun _ _ => .ok rfl
  | fromString type =>
      refine (Datum.asText_ends .string h).bind fun text _ => ?_
      cases hread : Value.read type text with
      | ok v => exact .ok (Value.type_of_read hread)
      | error error => exact .error True.intro
  | stringFrom type => exact (Datum.asValue_ends h).bind fun _ _ => .ok rfl

theorem call_ends {op : ConversionOp} (h : args.map Datum.type = [.single op.source]) :
    Ends EvaluationError.IsOfData (fun d => d.type = .single op.target) (op.call args) := by
  rcases Datum.eq_one_of_types h with ⟨a, rfl, ha⟩
  exact (convert_ends ha).map fun v hv => congrArg ValueType.single hv

end ConversionOp

theorem ComparisonOp.call_ends {op : ComparisonOp} (h : op.params.Fits (args.map Datum.type)) :
    Ends EvaluationError.IsOfData (fun d => d.type = .boolean) (op.call args) := by
  cases op with
  | equal type | ordered relation type =>
      rcases Datum.eq_two_of_types h.fixed with ⟨a, b, rfl, ha, hb⟩
      refine (Datum.asValue_ends ha).bind fun _ _ => ?_
      exact (Datum.asValue_ends hb).bind fun _ _ => .ok rfl
  | timeInRange =>
      rcases Datum.eq_three_of_types h.fixed with ⟨a, b, c, rfl, ha, hb, hc⟩
      refine (Datum.asTime_ends ha).bind fun _ _ => ?_
      refine (Datum.asTime_ends hb).bind fun _ _ => ?_
      exact (Datum.asTime_ends hc).bind fun _ _ => .ok rfl
  | not =>
      rcases Datum.eq_one_of_types h.fixed with ⟨a, rfl, ha⟩
      exact (Datum.asBool_ends ha).bind fun _ _ => .ok rfl

/-! ## Bags -/

theorem Bag.ofList_of_types {type : DataType} {members : List Value}
    (h : ∀ v ∈ members, v.type = type) :
    ∃ bag, Bag.ofList type members = .ok bag ∧ bag.type = type ∧ bag.members = members := by
  simp only [Bag.ofList]
  split
  case h_1 v hfind =>
    have hv := List.find?_some hfind
    simp [h v (List.mem_of_find?_eq_some hfind)] at hv
  case h_2 => exact ⟨_, rfl, rfl, rfl⟩

namespace BagOp

theorem call_ends {op : BagOp} {type : DataType}
    (h : (op.params type).Fits (args.map Datum.type)) :
    Ends EvaluationError.IsOfData (fun d => d.type = op.returns type) (op.call type args) := by
  cases op with
  | oneAndOnly =>
      rcases Datum.eq_one_of_types h.fixed with ⟨a, rfl, ha⟩
      refine (Datum.asBag_ends ha).bind fun bag hbag => ?_
      cases hsingle : bag.single? with
      | none => exact .error True.intro
      | some v =>
          have hv : v ∈ bag.members := by
            simp only [Bag.single?] at hsingle
            split at hsingle
            · simp_all
            · cases hsingle
          exact .ok (congrArg ValueType.single ((bag.typed v hv).trans hbag.2))
  | size =>
      rcases Datum.eq_one_of_types h.fixed with ⟨a, rfl, ha⟩
      exact (Datum.asBag_ends ha).bind fun _ _ => .ok rfl
  | isIn =>
      rcases Datum.eq_two_of_types h.fixed with ⟨a, b, rfl, ha, hb⟩
      refine (Datum.asValue_ends ha).bind fun _ _ => ?_
      exact (Datum.asBag_ends hb).bind fun _ _ => .ok rfl
  | collect =>
      rcases h.variadic with ⟨more, htypes, -, hmore⟩
      rw [List.nil_append] at htypes
      refine (Datum.mapM_ends (htypes ▸ hmore) Datum.asValue_ends).bind fun members hmembers => ?_
      have htyped : ∀ v ∈ members, v.type = type := by
        intro v hv
        rcases exists_left_of_forall₂ hmembers hv with ⟨_, -, -, htype⟩
        exact htype
      rcases Bag.ofList_of_types htyped with ⟨bag, hbag, htype, -⟩
      simp only [hbag]
      exact .ok (congrArg ValueType.bag htype)

end BagOp

theorem Bag.typed_common {type : DataType} {a : Bag} (ha : a.type = type) (b : Bag) :
    ∀ v ∈ a.common b, v.type = type := by
  intro v hv
  have hv := Bag.mem_of_mem_distinctOf (List.mem_filter.1 hv).1
  exact (a.typed v hv).trans ha

theorem Bag.typed_distinctAll {type : DataType} {bags : List Bag}
    (hbags : ∀ bag ∈ bags, bag.type = type) : ∀ v ∈ Bag.distinctAll bags, v.type = type := by
  intro v hv
  rcases List.mem_flatMap.1 (Bag.mem_of_mem_distinctOf hv) with ⟨bag, hbag, hv⟩
  exact (bag.typed v hv).trans (hbags bag hbag)

namespace SetOp

theorem isUniform_params (op : SetOp) (type : DataType) :
    (op.params type).IsUniform (.bag type) := by
  cases op <;> simp [params, Params.IsUniform]

theorem call_ends {op : SetOp} {type : DataType}
    (h : (op.params type).Fits (args.map Datum.type)) :
    Ends EvaluationError.IsOfData (fun d => d.type = op.returns type) (op.call type args) := by
  simp only [call]
  have hargs := h.eq_of_isUniform (op.isUniform_params type)
  refine (Datum.mapM_ends hargs Datum.asBag_ends).bind fun bags hbags => ?_
  have htypes : ∀ bag ∈ bags, bag.type = type := by
    intro bag hbag
    rcases exists_left_of_forall₂ hbags hbag with ⟨_, -, -, htype⟩
    exact htype
  -- All functions but the union take two bags.
  have hpair (hop : op ≠ .union) : ∃ a b, bags = [a, b] := by
    have hlength : args.length = 2 := by
      cases op with
      | union => exact absurd rfl hop
      | _ => simpa using congrArg List.length h.fixed
    exact List.length_eq_two.1 (hbags.length_eq ▸ hlength)
  cases op with
  | union =>
      rcases Bag.ofList_of_types (Bag.typed_distinctAll htypes) with ⟨bag, hbag, htype, -⟩
      simp only [hbag]
      exact .ok (congrArg ValueType.bag htype)
  | intersection =>
      rcases hpair (by decide) with ⟨a, b, rfl⟩
      have ha := htypes a List.mem_cons_self
      rcases Bag.ofList_of_types (Bag.typed_common ha b) with ⟨bag, hbag, htype, -⟩
      simp only [hbag]
      exact .ok (congrArg ValueType.bag htype)
  | overlaps | subset | equals =>
      rcases hpair (by decide) with ⟨a, b, rfl⟩
      exact .ok rfl

end SetOp

/-! ## Matching -/

namespace MatchOp

theorem holds_ends {op : MatchOp} {pattern value : Value}
    (h : op.params.Fits [.single pattern.type, .single value.type]) :
    Ends EvaluationError.IsOfData (fun _ => True) (op.holds pattern value) := by
  cases op with
  | regexp type =>
      have htypes := h.fixed
      cases pattern <;> try cases htypes
      simp only [holds]
      split
      · exact .ok True.intro
      · exact .error True.intro
  | distinguishedName | mailName =>
      have htypes := h.fixed
      cases pattern <;> try cases htypes
      cases value <;> try cases htypes
      exact .ok True.intro

theorem call_ends {op : MatchOp} (h : op.params.Fits (args.map Datum.type)) :
    Ends EvaluationError.IsOfData (fun d => d.type = .boolean) (op.call args) := by
  have hfixed : ∃ type type', op.params = .fixed [.single type, .single type'] := by
    cases op <;> exact ⟨_, _, rfl⟩
  rcases hfixed with ⟨type, type', hfixed⟩
  rcases Datum.eq_two_of_types (hfixed ▸ h).fixed with ⟨a, b, rfl, ha, hb⟩
  simp only [call, List.mapM_cons, List.mapM_nil, bind_assoc, pure_bind]
  refine (Datum.asValue_ends ha).bind fun pattern hpattern => ?_
  refine (Datum.asValue_ends hb).bind fun value hvalue => ?_
  rcases hpattern with ⟨rfl, -⟩
  rcases hvalue with ⟨rfl, -⟩
  exact (holds_ends h).bind fun _ _ => .ok rfl

end MatchOp

/-! ## All strict functions -/

/-- A strict function gives a value of its type on arguments that fit, or it fails because of
them. -/
theorem StrictOp.call_ends {op : StrictOp} (h : op.params.Fits (args.map Datum.type)) :
    Ends EvaluationError.IsOfData (fun d => d.type = op.returns) (op.call args) := by
  cases op with
  | integer op => exact IntegerOp.call_ends h
  | double op => exact DoubleOp.call_ends h
  | shift op => exact ShiftOp.call_ends h
  | text op => exact TextOp.call_ends h
  | conversion op => exact ConversionOp.call_ends h.fixed
  | comparison op => exact ComparisonOp.call_ends h
  | bag op type => exact BagOp.call_ends h
  | set op type => exact SetOp.call_ends h
  | matching op => exact MatchOp.call_ends h

end

end Xacml
