import Xacml.Proofs.Evaluation.Room
import Xacml.Proofs.Typing.Accepted
import Xacml.Proofs.Typing.Call

/-!
# Type safety of expressions

The check of an application looks through variables: it takes a variable for the function that it
stands for.  Evaluation does not.  A function of higher order whose function stands behind a
variable is therefore accepted, but its evaluation fails; this is the only gap between the two.

* `Facade.designate_ends` and `Facade.choose_ends`: attributes are bags of the type asked for,
* `Expr.misapplied?` finds the gap, and `Expr.MayFail` lists the errors of an expression,
* `Expr.evaluate_ends`: an accepted expression gives a value of its type or one of these errors,
* `evaluate_fails_only` and `evaluate_preserves_type` are the two halves of it.
-/

namespace Xacml

/-! ## Attributes -/

theorem settle?_ends {expected : DataType} {answer result : Except EvaluationError Bag}
    (h : settle? expected answer = some result) :
    Ends EvaluationError.IsOfData (fun bag => bag.type = expected) result := by
  cases answer with
  | error error =>
      obtain rfl := Option.some.inj h
      exact .error True.intro
  | ok bag =>
      simp only [settle?] at h
      split at h
      case isTrue =>
        obtain rfl := Option.some.inj h
        exact .error True.intro
      case isFalse htype =>
        split at h
        case isTrue => cases h
        case isFalse =>
          obtain rfl := Option.some.inj h
          exact .ok (not_not.1 htype)

theorem requirePresent_ends {mustBePresent : Bool} {missing : MissingAttribute}
    {answer : Except EvaluationError Bag} {type : DataType}
    (h : Ends EvaluationError.IsOfData (fun bag => bag.type = type) answer) :
    Ends EvaluationError.IsOfData (fun bag => bag.type = type)
      (requirePresent mustBePresent missing answer) := by
  cases h with
  | ok htype =>
      simp only [requirePresent]
      split
      · exact .error True.intro
      · exact .ok htype
  | error herror => exact .error herror

theorem Clock.type_of_value? {clock : Clock} {query : AttributeQuery} {v : Value}
    (h : clock.value? query = some v) : v.type = query.dataType := by
  simp only [Clock.value?] at h
  split at h
  case isTrue => exact of_decide_eq_true (Option.filter_eq_some_iff.1 h).2
  case isFalse => cases h

section

variable {m : Type → Type} [Monad m] [LawfulMonad m]

/-- Whatever resolvers answer, a bag of the expected type or an error comes of it. -/
theorem askEach_ends (expected : DataType) (ask : Resolver m → m (Except EvaluationError Bag))
    (resolvers : List (Resolver m)) :
    Always (Ends EvaluationError.IsOfData fun bag => bag.type = expected)
      (askEach expected ask resolvers) := by
  induction resolvers with
  | nil => exact .pure (.ok rfl)
  | cons resolver rest ih =>
      -- Nothing is known of the answer of a resolver; what settles the lookup has been checked.
      have hany : Always (fun _ => True) (ask resolver) := .of_forall fun _ => True.intro
      refine hany.bind fun answer _ => ?_
      cases hsettle : settle? expected answer with
      | some result => exact .pure (settle?_ends hsettle)
      | none => exact ih

namespace Facade

variable (facade : Facade m)

theorem find_ends (query : AttributeQuery) :
    Always (Ends EvaluationError.IsOfData fun bag => bag.type = query.dataType)
      (facade.find query) := by
  unfold find
  dsimp only
  split
  case isTrue =>
    cases hclock : facade.clock.value? query with
    | some v => exact .pure (.ok (Clock.type_of_value? hclock))
    | none => exact askEach_ends _ _ _
  case isFalse => exact .pure (.ok rfl)

theorem designate_ends (d : Designator) :
    Always (Ends EvaluationError.IsOfData fun bag => bag.type = d.query.dataType)
      (facade.designate d) :=
  (facade.find_ends d.query).bind fun _ h => .pure (requirePresent_ends h)

theorem choose_ends (s : Selector) :
    Always (Ends EvaluationError.IsOfData fun bag => bag.type = s.query.dataType)
      (facade.choose s) :=
  (askEach_ends _ _ _).bind fun _ h => .pure (requirePresent_ends h)

end Facade

/-! ## Arguments -/

theorem evaluateAll_ends {fails : EvaluationError → Prop} {args : List (Lazy m)}
    {types : List ValueType}
    (h : List.Forall₂ (fun arg type => Always (Ends fails fun d => d.type = type) (arg ()))
      args types) :
    Always (Ends fails fun values => values.map Datum.type = types) (evaluateAll args) := by
  induction h with
  | nil => exact .pure (.ok rfl)
  | @cons arg type rest types harg _ ih =>
      refine harg.bind fun result hresult => ?_
      cases hresult with
      | error he => exact .pure (.error he)
      | ok hd =>
          refine ih.bind fun results hresults => ?_
          cases hresults with
          | error he => exact .pure (.error he)
          | ok hds => exact .pure (.ok (List.cons_eq_cons.2 ⟨hd, hds⟩))

end

/-! ## Errors of expressions -/

namespace Expr

/-- Whether an expression occurs in another one, or in a definition that it refers to. -/
inductive Occurs (sub : Expr) : Expr → Prop
  | self : Occurs sub sub
  | arg {f : Function} {args : List Expr} {returns : ValueType} {a : Expr} (mem : a ∈ args)
      (inner : Occurs sub a) : Occurs sub (.apply f args returns)
  | definition {name : String} {definition : Expr} (inner : Occurs sub definition) :
      Occurs sub (.reference name definition)

/-- The function of higher order that an expression applies to what stands behind a variable. -/
def misapplied? : Expr → Option Function
  | apply f (reference _ _ :: _) _ => if f.isHigherOrder then some f else none
  | _ => none

/-- The errors that an expression may fail with: those of the data, those of functions that find no
function in their first argument, and the one of a stack without room for what is evaluated. -/
inductive MayFail (stack : Stack) (e : Expr) : EvaluationError → Prop
  | data {error : EvaluationError} (h : error.IsOfData) : MayFail stack e error
  | misapplied {sub : Expr} {f : Function} (hsub : sub.Occurs e)
      (hf : sub.misapplied? = some f) : MayFail stack e (.failed f.id .firstNotFunction)
  | noRoom (h : ¬stack.Holds (e.depths stack.frame)) : MayFail stack e .recursionLimit

theorem MayFail.arg {stack : Stack} {f : Function} {args : List Expr} {returns : ValueType}
    {a : Expr} (mem : a ∈ args) {error : EvaluationError}
    (h : a.MayFail (stack.enter .argument) error) : (apply f args returns).MayFail stack error := by
  cases h with
  | data h => exact .data h
  | misapplied hsub hf => exact .misapplied (.arg mem hsub) hf
  | noRoom h =>
      refine .noRoom fun hroom => h ?_
      rw [depths] at hroom
      exact (hroom.mono (List.subset_cons_self _ _)).enter.mono (depths_subset_depthsAll _ mem)

theorem MayFail.definition {stack : Stack} {name : String} {definition : Expr}
    {error : EvaluationError} (h : definition.MayFail (stack.enter .definition) error) :
    (reference name definition).MayFail stack error := by
  cases h with
  | data h => exact .data h
  | misapplied hsub hf => exact .misapplied (.definition hsub) hf
  | noRoom h =>
      refine .noRoom fun hroom => h ?_
      rw [depths] at hroom
      exact (hroom.mono (List.subset_cons_self _ _)).enter

/-! ## Evaluation -/

section

variable {m : Type → Type} [Monad m] [LawfulMonad m] (facade : Facade m) {stack : Stack}

omit [LawfulMonad m] in
theorem evaluations_ends {fails : EvaluationError → Prop} {args : List Expr}
    {types : List ValueType} (htypes : args.map argType = types.map .value)
    (hargs : ∀ a ∈ args, ∀ type, a.argType = .value type →
      Always (Ends fails fun d => d.type = type) (a.evaluate facade stack)) :
    List.Forall₂ (fun arg type => Always (Ends fails fun d => d.type = type) (arg ()))
      (evaluations facade stack args) types := by
  rw [evaluations_eq_map, List.forall₂_map_left_iff]
  induction args generalizing types with
  | nil =>
      obtain rfl := List.map_eq_nil_iff.1 htypes.symm
      exact .nil
  | cons a rest ih =>
      rcases List.map_eq_cons_iff.1 htypes.symm with ⟨type, types, rfl, htype, hrest⟩
      refine .cons (hargs a List.mem_cons_self type htype.symm) (ih hrest.symm ?_)
      exact fun a ha => hargs a (List.mem_cons_of_mem _ ha)

/-- The application of a function ends as the check promised if its arguments do, or the function
is of higher order and finds no function. -/
theorem applyTo_ends {f : Function} {args : List Expr} {returns : ValueType}
    (hcheck : f.checkInputs (args.map argType) = .ok returns)
    (hargs : ∀ a ∈ args, ∀ type, a.argType = .value type →
      Always (Ends ((apply f args returns).MayFail stack) fun d => d.type = type)
        (a.evaluate facade (stack.enter .argument))) :
    Always (Ends ((apply f args returns).MayFail stack) fun d => d.type = returns)
      (f.applyTo (args.head?.bind function?)
        (evaluations facade (stack.enter .argument) args)) := by
  simp only [Function.checkInputs] at hcheck
  simp only [Function.applyTo]
  cases hf : f.operation with
  | strict op =>
      simp only [hf] at hcheck ⊢
      rcases Function.checkPlain_ok hcheck with ⟨types, hmap, htakes⟩
      refine (evaluateAll_ends (evaluations_ends facade hmap hargs)).bind fun result hresult => ?_
      refine .pure (hresult.bind fun values hvalues => ?_)
      subst hvalues
      exact (Function.call_ends htakes).widen fun _ => .data
  | logical op =>
      simp only [hf] at hcheck ⊢
      rcases Function.checkPlain_ok hcheck with ⟨types, hmap, htakes⟩
      simp only [Function.Takes, hf] at htakes
      rcases htakes with ⟨hfits, rfl⟩
      exact LogicalOp.fold_ends f.id (fun _ => .data) hfits (evaluations_ends facade hmap hargs)
  | higherOrder op legacy =>
      simp only [hf] at hcheck
      rcases HigherOrderOp.checkInputs_ok hcheck with ⟨g, types, hmap, htakes⟩
      rcases List.map_eq_cons_iff.1 hmap with ⟨first, rest, rfl, hfirst, hrest⟩
      cases first with
      | function g' =>
          -- The other arguments are evaluated before the function is called on their members.
          obtain rfl := ArgType.function.inj hfirst
          have hrest : List.Forall₂
              (fun arg type => Always
                (Ends ((apply f (function g' :: rest) returns).MayFail stack)
                  fun d => d.type = type)
                (arg ()))
              (evaluations facade (stack.enter .argument) rest) types :=
            evaluations_ends facade hrest fun a ha => hargs a (List.mem_cons_of_mem _ ha)
          refine (evaluateAll_ends hrest).bind fun result hresult => ?_
          refine .pure (hresult.bind fun values hvalues => ?_)
          subst hvalues
          exact (HigherOrderOp.apply_ends f.id htakes).widen fun _ => .data
      | reference name definition =>
          -- The check has looked through the variable, but the application does not.
          refine .pure (.error (.misapplied .self ?_))
          simp [misapplied?, Function.isHigherOrder, hf]
      | _ => cases hfirst

theorem guarded_ends {e : Expr} {type : ValueType} {x : m (Except EvaluationError Datum)}
    (h : Always (Ends (e.MayFail stack) fun d => d.type = type) x) :
    Always (Ends (e.MayFail stack) fun d => d.type = type)
      (if stack.isLow then pure (.error .recursionLimit) else x) := by
  split
  case isTrue hlow =>
    exact .pure (.error (.noRoom fun hroom =>
      Bool.eq_false_iff.1 (hroom.isLow (zero_mem_depths _ e)) hlow))
  case isFalse => exact h

/-- An accepted expression gives a value of its static type, or fails as it may fail. -/
theorem evaluate_ends {e : Expr} {type : ValueType} (h : e.Checked)
    (htype : e.argType = .value type) :
    Always (Ends (e.MayFail stack) fun d => d.type = type) (e.evaluate facade stack) := by
  induction h generalizing type stack with
  | value v =>
      obtain rfl := ArgType.value.inj htype
      rw [evaluate]
      exact guarded_ends (.pure (.ok rfl))
  | designator d =>
      obtain rfl := ArgType.value.inj htype
      rw [evaluate]
      refine guarded_ends ((facade.designate_ends d).bind fun result hresult => .pure ?_)
      exact (hresult.widen fun _ => .data).map fun _ h => congrArg ValueType.bag h
  | selector s =>
      obtain rfl := ArgType.value.inj htype
      rw [evaluate]
      refine guarded_ends ((facade.choose_ends s).bind fun result hresult => .pure ?_)
      exact (hresult.widen fun _ => .data).map fun _ h => congrArg ValueType.bag h
  | function f => cases htype
  | reference name h ih =>
      rw [evaluate]
      exact guarded_ends <|
        (ih htype).mono fun _ hresult => hresult.widen fun _ => MayFail.definition
  | @application f args e hchecked h ih =>
      rcases exists_of_map_eq_ok h with ⟨returns, hcheck, rfl⟩
      obtain rfl := ArgType.value.inj htype
      -- An error of an argument is an error of the application.
      have hargs : ∀ a ∈ args, ∀ type, a.argType = .value type →
          Always (Ends ((apply f args returns).MayFail stack) fun d => d.type = type)
            (a.evaluate facade (stack.enter .argument)) := by
        intro a ha type htype
        exact (ih a ha htype).mono fun _ hresult =>
          hresult.widen fun _ => MayFail.arg ha
      rw [evaluate]
      exact guarded_ends (applyTo_ends facade hcheck hargs)

omit [LawfulMonad m] in
theorem evaluate_of_function {e : Expr} {g : Function} (h : e.Checked)
    (hg : e.argType = .function g) : ∃ error, e.evaluate facade stack = pure (.error error) := by
  induction h generalizing stack with
  | value | designator | selector => cases hg
  | function f =>
      rw [evaluate]
      split <;> exact ⟨_, rfl⟩
  | reference name h ih =>
      rw [evaluate]
      split
      · exact ⟨_, rfl⟩
      · exact ih hg
  | application hchecked h =>
      rcases exists_of_map_eq_ok h with ⟨returns, -, rfl⟩
      cases hg

/-! ## Misapplied functions -/

omit [LawfulMonad m] in
theorem evaluate_of_misapplied {e : Expr} {f : Function} (h : e.misapplied? = some f)
    (hroom : stack.isLow = false) :
    e.evaluate facade stack = pure (.error (.failed f.id .firstNotFunction)) := by
  simp only [misapplied?] at h
  split at h
  case h_1 f' name definition rest returns =>
    split at h
    case isTrue hf =>
      obtain rfl := Option.some.inj h
      simp only [Function.isHigherOrder] at hf
      rw [evaluate_apply facade hroom]
      unfold Function.applyTo
      split at hf
      case h_1 op legacy hop =>
        rw [hop]
        rfl
      case h_2 => cases hf
    case isFalse => cases h
  case h_2 => cases h

end

theorem type?_of_misapplied {e : Expr} {f : Function} (h : e.misapplied? = some f) :
    e.type?.isSome = true := by
  simp only [misapplied?] at h
  split at h
  · rfl
  · cases h

theorem Occurs.checked {sub e : Expr} (h : sub.Occurs e) (he : e.Checked) : sub.Checked := by
  induction h with
  | self => exact he
  | arg mem _ ih =>
      cases he with
      | application hargs happlication =>
          rcases exists_of_map_eq_ok happlication with ⟨_, -, heq⟩
          cases heq
          exact ih (hargs _ mem)
  | definition _ ih =>
      cases he with
      | reference _ h => exact ih h
      | application _ happlication =>
          rcases exists_of_map_eq_ok happlication with ⟨_, -, heq⟩
          cases heq

/-- Whatever can be applied to a function is as well accepted behind a variable, and then it is
misapplied. -/
theorem application?_reference {f g : Function} {op : HigherOrderOp} {legacy : Bool}
    {rest : List Expr} {e : Expr} (name : String) (hf : f.operation = .higherOrder op legacy)
    (h : application? f (function g :: rest) = .ok e) :
    ∃ e', application? f (reference name (function g) :: rest) = .ok e' ∧ e'.type? = e.type? ∧
      e'.misapplied? = some f := by
  rcases exists_of_map_eq_ok h with ⟨returns, hcheck, rfl⟩
  refine ⟨apply f (reference name (function g) :: rest) returns, ?_, rfl, ?_⟩
  · have hsame : f.checkInputs ((reference name (function g) :: rest).map argType) = .ok returns :=
      hcheck
    simp only [application?]
    rw [hsame]
    rfl
  · simp [misapplied?, Function.isHigherOrder, hf]

end Expr

/-! ## Progress and preservation -/

namespace EqualStrings

/-- The function that asks a function about each member of a bag. -/
def anyOf : Function :=
  ⟨"urn:oasis:names:tc:xacml:3.0:function:any-of", .higherOrder .anyOf false⟩

/-- The equality of strings. -/
def equal : Expr := .function (.ofStrict (.comparison (.equal .string)))

/-- Arguments that ask a function about two equal strings. -/
def args (function : Expr) : List Expr :=
  [function, .value (.string "a"), .value (.string "a")]

/-- The application to the function itself. -/
def direct : Expr := .apply anyOf (args equal) .boolean

/-- The application to a variable that stands for the function. -/
def byName : Expr := .apply anyOf (args (.reference "same" equal)) .boolean

/-- The empty request without resolvers. -/
def facade : Facade Id := ⟨.empty, ⟨⟨⟨0, 0⟩, none⟩⟩, []⟩

theorem checked_of_mem_args {function e : Expr} (h : function.Checked) (he : e ∈ args function) :
    e.Checked := by
  rcases List.mem_cons.1 he with rfl | he
  · exact h
  · rcases List.mem_pair.1 he with rfl | rfl
    · exact .value _
    · exact .value _

theorem direct_accepted : direct.Accepted := by
  have happlication : Expr.application? anyOf (args equal) = .ok direct := rfl
  exact .inl (.application (fun _ => checked_of_mem_args (.function _)) happlication)

theorem byName_accepted : byName.Accepted := by
  have happlication : Expr.application? anyOf (args (.reference "same" equal)) = .ok byName := rfl
  have hfunction : (Expr.reference "same" equal).Checked := .reference "same" (.function _)
  exact .inl (.application (fun _ => checked_of_mem_args hfunction) happlication)

end EqualStrings

section

open EqualStrings (direct byName anyOf direct_accepted byName_accepted)

variable {m : Type → Type} [Monad m] [LawfulMonad m] (facade : Facade m) (stack : Stack)

/-- An accepted expression with a static type fails because of the data, unless a function in it is
misapplied, or there is no room on the stack for all that it leads to.  Misapplied functions pass
the check, and they always fail. -/
theorem evaluate_fails_only {e : Expr} {type : ValueType} (h : e.Accepted)
    (htype : e.type? = some type) :
    ((∀ sub : Expr, sub.Occurs e → sub.misapplied? = none) →
        Always (fun result => ∀ error, result = .error error →
          error.IsOfData ∨ error = .recursionLimit ∧ ¬stack.Holds (e.depths stack.frame))
          (e.evaluate facade stack)) ∧
      Always (fun result => ∀ error, result = .error error → e.MayFail stack error)
        (e.evaluate facade stack) ∧
      ∀ (sub : Expr) (f : Function), sub.Occurs e → sub.misapplied? = some f →
        sub.Accepted ∧ sub.type?.isSome = true ∧
          ∀ stack : Stack, stack.isLow = false →
            sub.evaluate facade stack = pure (.error (.failed f.id .firstNotFunction)) := by
  have hargType : e.argType = .value type := by
    simp only [Expr.type?] at htype
    split at htype
    case h_1 found hfound => exact Option.some.inj htype ▸ hfound
    case h_2 => cases htype
  -- Both statements on errors come from the one on how the evaluation ends.
  have hfails : Always (fun result => ∀ error, result = .error error → e.MayFail stack error)
      (e.evaluate facade stack) :=
    (Expr.evaluate_ends facade h.checked hargType).mono fun result hresult error herror =>
      hresult.fails_of_eq herror
  refine ⟨fun hnone => hfails.mono fun result hresult error herror => ?_, hfails, ?_⟩
  · cases hresult error herror with
    | data hdata => exact .inl hdata
    | misapplied hsub hf =>
        rw [hnone _ hsub] at hf
        cases hf
    | noRoom hroom => exact .inr ⟨rfl, hroom⟩
  · intro sub f hsub hf
    exact ⟨.inl (hsub.checked h.checked), Expr.type?_of_misapplied hf,
      fun _ hroom => Expr.evaluate_of_misapplied facade hf hroom⟩

/-- Equal strings are not found to be equal if the function is given by a variable. -/
theorem evaluate_fails_only_byName :
    byName.Accepted ∧ byName.type? = some .boolean ∧
      Id.run (byName.evaluate EqualStrings.facade .main) =
        .error (.failed anyOf.id .firstNotFunction) ∧
      ∀ error, Id.run (byName.evaluate EqualStrings.facade .main) = .error error →
        byName.MayFail .main error := by
  have htype : byName.type? = some .boolean := rfl
  rcases evaluate_fails_only EqualStrings.facade .main byName_accepted htype with
    ⟨-, hfails, hmisapplied⟩
  rcases hmisapplied byName anyOf .self rfl with ⟨-, -, hevaluate⟩
  exact ⟨byName_accepted, htype, congrArg Id.run (hevaluate .main rfl), hfails.run⟩

/-- The value of an accepted expression has the static type of the expression, and a bag holds only
values of its type. -/
theorem evaluate_preserves_type {e : Expr} (h : e.Accepted) :
    Always
      (fun result => ∀ d, result = .ok d →
        e.type? = some d.type ∧ ∀ bag, d = .bag bag → ∀ v ∈ bag.members, v.type = bag.type)
      (e.evaluate facade stack) := by
  simp only [Expr.type?]
  cases hargType : e.argType with
  | value type =>
      refine (Expr.evaluate_ends facade h.checked hargType).mono fun result hresult d hd => ?_
      exact ⟨congrArg some (hresult.holds_of_eq hd).symm, fun bag _ => bag.typed⟩
  | function g =>
      rcases Expr.evaluate_of_function facade h.checked hargType with ⟨error, herror⟩
      rw [herror]
      exact .pure fun d hd => nomatch hd

/-- Equal strings are found to be equal, by a truth value. -/
theorem evaluate_preserves_type_direct :
    direct.Accepted ∧ Id.run (direct.evaluate EqualStrings.facade .main) = .ok (.ofBool true) ∧
      direct.type? = some (Datum.ofBool true).type := by
  have hevaluate : Id.run (direct.evaluate EqualStrings.facade .main) = .ok (.ofBool true) := rfl
  have htyped := (evaluate_preserves_type EqualStrings.facade .main direct_accepted).run
  exact ⟨direct_accepted, hevaluate, (htyped _ hevaluate).1⟩

end

end Xacml
