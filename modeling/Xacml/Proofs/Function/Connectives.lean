import Mathlib.Data.List.Count
import Xacml.Expr.Evaluation
import Xacml.Proofs.Typing.Call

/-!
# Connectives

`and`, `or` and `n-of` remember the first argument that fails, and report it unless another argument
decides.

* `firstError?` is the first error among outcomes,
* `shortCircuit_eq` says what `and` and `or` come to,
* `countTrue_of_enough`, `countTrue_of_error`, `countTrue_of_noError` and `countTrue_of_firstError`
  say what the loop of `n-of` comes to from any counts: what the arguments still to come and the
  counts so far add up to is all that matters,
* `evaluate_nOf_countsTo`: `n-of` is true if enough arguments are, and fails with the first error if
  the arguments that fail could have been enough; where they could not, the first error is still
  reported, unless it is too late to be met.
-/

namespace Xacml

/-! ## Errors among outcomes -/

section

variable {ε α : Type} {outcomes : List (Except ε α)}

/-- The error that an outcome is. -/
def errorOf? : Except ε α → Option ε
  | .ok _ => none
  | .error error => some error

/-- The first error among outcomes. -/
def firstError? (outcomes : List (Except ε α)) : Option ε :=
  outcomes.findSome? errorOf?

theorem firstError?_eq_none_iff :
    firstError? outcomes = none ↔ ∀ outcome ∈ outcomes, ∃ a, outcome = .ok a := by
  have hone (outcome : Except ε α) : errorOf? outcome = none ↔ ∃ a, outcome = .ok a := by
    cases outcome <;> simp [errorOf?]
  simp only [firstError?, List.findSome?_eq_none_iff, hone]

theorem exists_of_firstError?_eq_some {error : ε} (h : firstError? outcomes = some error) :
    ∃ before after, outcomes = before ++ .error error :: after ∧ firstError? before = none := by
  rcases List.findSome?_eq_some_iff.1 h with ⟨before, outcome, after, rfl, herror, hbefore⟩
  cases outcome with
  | ok a => cases herror
  | error first =>
      cases herror
      exact ⟨before, after, rfl, List.findSome?_eq_none_iff.2 hbefore⟩

theorem countP_errorOf?_of_firstError? (h : firstError? outcomes = none) :
    outcomes.countP (fun outcome => (errorOf? outcome).isSome) = 0 := by
  rw [firstError?, List.findSome?_eq_none_iff] at h
  rw [List.countP_eq_zero]
  intro outcome houtcome
  rw [h outcome houtcome]
  exact Bool.false_ne_true

theorem firstError?_append {before after : List (Except ε α)} {error : ε}
    (h : firstError? before = none) :
    firstError? (before ++ .error error :: after) = some error := by
  rw [firstError?] at h ⊢
  rw [List.findSome?_append, h]
  rfl

end

/-! ## Loops -/

namespace LogicalOp

/-- What arguments evaluate to. -/
def truths (args : List (Lazy Id)) : List (Except EvaluationError Bool) :=
  args.map fun arg => Id.run arg.truth

@[simp] theorem truths_cons (arg : Lazy Id) (rest : List (Lazy Id)) :
    truths (arg :: rest) = Id.run arg.truth :: truths rest := rfl

@[simp] theorem length_truths (args : List (Lazy Id)) : (truths args).length = args.length :=
  List.length_map _

variable {args : List (Lazy Id)} {error : Option EvaluationError}

/-- One deciding argument is enough, whatever fails. -/
theorem shortCircuit_eq (deciding : Bool) (error : Option EvaluationError)
    (args : List (Lazy Id)) :
    Id.run (shortCircuit deciding error args) =
      if .ok deciding ∈ truths args then .ok (.ofBool deciding)
      else conclude (error.or (firstError? (truths args))) !deciding := by
  induction args generalizing error with
  | nil => simp [shortCircuit, truths, firstError?]
  | cons arg rest ih =>
      simp only [shortCircuit, Id.run_bind, truths_cons, List.mem_cons]
      generalize Id.run arg.truth = truth
      cases truth with
      | ok b =>
          by_cases hb : b = deciding
          · simp [hb]
          · have hne : deciding ≠ b := fun h => hb h.symm
            simp only [hb, if_false, ih, Except.ok.injEq, hne, false_or]
            rfl
      | error e =>
          simp only [ih, reduceCtorEq, false_or, Option.or_assoc]
          rfl

section

variable {needed trues errors : Nat}

/-- One round of the loop of `n-of`. -/
theorem run_countTrue_cons (arg : Lazy Id) (rest : List (Lazy Id)) :
    Id.run (countTrue needed trues errors error (arg :: rest)) =
      if trues = needed then .ok (.ofBool true)
      else if trues + errors + (rest.length + 1) < needed then conclude error false
      else
        match Id.run arg.truth with
        | .ok true => Id.run (countTrue needed (trues + 1) errors error rest)
        | .ok false => Id.run (countTrue needed trues errors error rest)
        | .error e => Id.run (countTrue needed trues (errors + 1) (error.or (some e)) rest) := by
  rw [countTrue]
  split
  · rfl
  · split
    · rfl
    · rw [Id.run_bind]
      rcases Id.run arg.truth with e | _ | _ <;> rfl

theorem count_truths_le (b : Bool) (args : List (Lazy Id)) :
    (truths args).count (.ok b) ≤ args.length :=
  length_truths args ▸ List.count_le_length

/-- The loop does not stop before it has met enough arguments that are true. -/
theorem countTrue_of_enough (hbound : trues ≤ needed)
    (h : needed ≤ trues + (truths args).count (.ok true)) :
    Id.run (countTrue needed trues errors error args) = .ok (.ofBool true) := by
  induction args generalizing trues errors error with
  | nil =>
      have h : needed ≤ trues := by simpa [truths] using h
      simp [countTrue, h]
  | cons arg rest ih =>
      rw [run_countTrue_cons]
      have hrest := count_truths_le true rest
      rw [truths_cons, List.count_cons] at h
      generalize Id.run arg.truth = truth at h ⊢
      by_cases hmet : trues = needed
      · rw [if_pos hmet]
      · rw [if_neg hmet]
        -- Those still to come that are true keep the number within reach, so this is not the end.
        rcases truth with e | _ | _
        · have h : needed ≤ trues + (truths rest).count (.ok true) := by simpa using h
          rw [if_neg (by omega)]
          exact ih hbound h
        · have h : needed ≤ trues + (truths rest).count (.ok true) := by simpa using h
          rw [if_neg (by omega)]
          exact ih hbound h
        · have h : needed ≤ trues + ((truths rest).count (.ok true) + 1) := by simpa using h
          rw [if_neg (by omega)]
          exact ih (by omega) (by omega)

/-- Once an argument has failed, its error is reported unless enough of the others are true. -/
theorem countTrue_of_error (e : EvaluationError)
    (h : trues + (truths args).count (.ok true) < needed) :
    Id.run (countTrue needed trues errors (some e) args) = .error e := by
  induction args generalizing trues errors with
  | nil =>
      have h : ¬needed ≤ trues := by simpa [truths] using h
      simp [countTrue, h, conclude]
  | cons arg rest ih =>
      rw [run_countTrue_cons, if_neg (by omega)]
      rw [truths_cons, List.count_cons] at h
      generalize Id.run arg.truth = truth at h ⊢
      -- An early end reports the error too.
      split
      · rfl
      · rcases truth with e' | _ | _
        · exact ih (by simpa using h)
        · exact ih (by simpa using h)
        · have h : trues + ((truths rest).count (.ok true) + 1) < needed := by simpa using h
          exact ih (by omega)

/-- If no argument fails and too few are true, the outcome is false. -/
theorem countTrue_of_noError (hno : firstError? (truths args) = none)
    (h : trues + (truths args).count (.ok true) < needed) :
    Id.run (countTrue needed trues errors none args) = .ok (.ofBool false) := by
  induction args generalizing trues with
  | nil =>
      have h : ¬needed ≤ trues := by simpa [truths] using h
      simp [countTrue, h, conclude]
  | cons arg rest ih =>
      rw [run_countTrue_cons, if_neg (by omega)]
      rw [truths_cons, List.count_cons] at h
      rw [truths_cons, firstError?_eq_none_iff, List.forall_mem_cons,
        ← firstError?_eq_none_iff] at hno
      rcases hno with ⟨⟨b, hb⟩, hno⟩
      rw [hb] at h ⊢
      split
      · rfl
      · cases b with
        | false => exact ih hno (by simpa using h)
        | true =>
            have h : trues + ((truths rest).count (.ok true) + 1) < needed := by simpa using h
            exact ih hno (by omega)

/-- The first error is met if not too many arguments before it are false: each of them leaves one
argument less to be true, and the loop stops when too few are left. -/
theorem countTrue_of_firstError {before after : List (Except EvaluationError Bool)}
    {e : EvaluationError} (hargs : truths args = before ++ .error e :: after)
    (hbefore : firstError? before = none)
    (h : trues + (truths args).count (.ok true) < needed) :
    Id.run (countTrue needed trues errors none args) =
      if before.count (.ok false) + needed ≤ trues + errors + args.length then .error e
      else .ok (.ofBool false) := by
  induction before generalizing args trues with
  | nil =>
      cases args with
      | nil => cases hargs
      | cons arg rest =>
          -- The error is next: it is met unless the loop has just given up.
          rw [truths_cons, List.nil_append, List.cons.injEq] at hargs
          rw [run_countTrue_cons, if_neg (by omega)]
          rw [truths_cons, List.count_cons, hargs.1] at h
          have h : trues + (truths rest).count (.ok true) < needed := by simpa using h
          rw [hargs.1, List.count_nil, List.length_cons]
          split
          case isTrue hfew => rw [if_neg (by omega), conclude]
          case isFalse =>
            rw [if_pos (by omega)]
            exact countTrue_of_error e h
  | cons truth before ih =>
      cases args with
      | nil => cases hargs
      | cons arg rest =>
          rw [truths_cons, List.cons_append, List.cons.injEq] at hargs
          rw [firstError?_eq_none_iff, List.forall_mem_cons, ← firstError?_eq_none_iff] at hbefore
          rcases hbefore with ⟨⟨b, rfl⟩, hbefore⟩
          rw [run_countTrue_cons, if_neg (by omega)]
          rw [truths_cons, List.count_cons, hargs.1] at h
          rw [hargs.1, List.length_cons, List.count_cons]
          split
          case isTrue hfew => rw [if_neg (by omega), conclude]
          case isFalse =>
            cases b with
            | false =>
                -- One argument less is left, and one false argument less stands before the error.
                dsimp only
                rw [ih hargs.2 hbefore (by simpa using h)]
                refine if_congr ?_ rfl rfl
                simp only [BEq.rfl, if_true]
                omega
            | true =>
                have h : trues + ((truths rest).count (.ok true) + 1) < needed := by simpa using h
                dsimp only
                rw [ih hargs.2 hbefore (by omega)]
                refine if_congr ?_ rfl rfl
                simp only [beq_iff_eq, Except.ok.injEq, Bool.true_eq_false, if_false]
                omega

end

/-! ## Enough arguments -/

/-- What a connective comes to that needs a number of its arguments to be true, given what all of
them evaluate to. -/
structure CountsTo (needed : Nat) (truths : List (Except EvaluationError Bool))
    (outcome : Except EvaluationError Datum) : Prop where
  enough : needed ≤ truths.count (.ok true) → outcome = .ok (.ofBool true)
  undecided : truths.count (.ok true) < needed →
    needed ≤ truths.count (.ok true) + truths.countP (fun truth => (errorOf? truth).isSome) →
      ∃ error, firstError? truths = some error ∧ outcome = .error error
  tooFew : truths.count (.ok true) < needed → firstError? truths = none →
    outcome = .ok (.ofBool false)
  outOfReach : ∀ before error after, truths = before ++ .error error :: after →
    firstError? before = none →
    truths.count (.ok true) + truths.countP (fun truth => (errorOf? truth).isSome) < needed →
      outcome = if before.count (.ok false) + needed ≤ truths.length then .error error
        else .ok (.ofBool false)

/-- Every argument is true, false or failing. -/
theorem count_add_count_add_countP (truths : List (Except EvaluationError Bool)) :
    truths.count (.ok true) + truths.count (.ok false) +
      truths.countP (fun truth => (errorOf? truth).isSome) = truths.length := by
  induction truths with
  | nil => rfl
  | cons truth rest ih =>
      rw [List.count_cons, List.count_cons, List.countP_cons, List.length_cons, ← ih]
      rcases truth with e | _ | _ <;> simp [errorOf?] <;> omega

theorem countTrue_countsTo (needed : Nat) (args : List (Lazy Id)) :
    CountsTo needed (truths args) (Id.run (countTrue needed 0 0 none args)) := by
  have hsum := count_add_count_add_countP (truths args)
  have hmet {before after : List (Except EvaluationError Bool)} {e : EvaluationError}
      (hargs : truths args = before ++ .error e :: after) (hbefore : firstError? before = none)
      (hfew : (truths args).count (.ok true) < needed) :
      Id.run (countTrue needed 0 0 none args) =
        if before.count (.ok false) + needed ≤ (truths args).length then .error e
        else .ok (.ofBool false) := by
    rw [countTrue_of_firstError hargs hbefore (by omega), length_truths]
    simp only [Nat.zero_add]
  refine ⟨fun h => countTrue_of_enough (Nat.zero_le _) (by omega), fun hfew hneeded => ?_,
    fun hfew hno => countTrue_of_noError hno (by omega), ?_⟩
  · -- Some argument fails, and what is false before it does not put the number out of reach.
    cases hfirst : firstError? (truths args) with
    | none =>
        have hzero := countP_errorOf?_of_firstError? hfirst
        omega
    | some e =>
        rcases exists_of_firstError?_eq_some hfirst with ⟨before, after, hargs, hbefore⟩
        have hfalse : before.count (.ok false) ≤ (truths args).count (.ok false) := by
          rw [hargs, List.count_append]
          exact Nat.le_add_right _ _
        refine ⟨e, rfl, ?_⟩
        rw [hmet hargs hbefore hfew, if_pos (by omega)]
  · intro before e after hargs hbefore hfew
    exact hmet hargs hbefore (by omega)

/-- One argument that has to be true is a disjunction. -/
theorem countTrue_one (args : List (Lazy Id)) :
    Id.run (countTrue 1 0 0 none args) = Id.run (shortCircuit true none args) := by
  have hcounts := countTrue_countsTo 1 args
  rw [shortCircuit_eq, Option.none_or]
  by_cases htrue : .ok true ∈ truths args
  · rw [if_pos htrue]
    exact hcounts.enough (List.count_pos_iff.2 htrue)
  · have hnone : (truths args).count (.ok true) = 0 := List.count_eq_zero.2 htrue
    rw [if_neg htrue]
    cases hfirst : firstError? (truths args) with
    | none => exact hcounts.tooFew (by omega) hfirst
    | some e =>
        rcases exists_of_firstError?_eq_some hfirst with ⟨before, after, hargs, hbefore⟩
        have hlength : before.count (.ok false) ≤ before.length := List.count_le_length
        rw [countTrue_of_firstError hargs hbefore (by omega), if_pos, conclude]
        rw [← length_truths, hargs, List.length_append, List.length_cons]
        omega

/-- Whether an argument fails before the first one that is false. -/
def FailsBeforeFalse (truths : List (Except EvaluationError Bool)) : Prop :=
  ∃ before error after, truths = before ++ .error error :: after ∧
    (∀ truth ∈ before, truth = .ok true) ∧ .ok false ∈ after

/-- Arguments that all have to be true are a conjunction, but for errors before the first false
argument: these stay although that argument decides. -/
theorem countTrue_length (args : List (Lazy Id)) :
    (¬FailsBeforeFalse (truths args) →
        Id.run (countTrue args.length 0 0 none args) = Id.run (shortCircuit false none args)) ∧
      (FailsBeforeFalse (truths args) →
        ∃ e, firstError? (truths args) = some e ∧
          Id.run (countTrue args.length 0 0 none args) = .error e ∧
          Id.run (shortCircuit false none args) = .ok (.ofBool false)) := by
  have hcounts := countTrue_countsTo args.length args
  have hsum := count_add_count_add_countP (truths args)
  have hmet {before after : List (Except EvaluationError Bool)} {e : EvaluationError}
      (hargs : truths args = before ++ .error e :: after) (hbefore : firstError? before = none) :
      Id.run (countTrue args.length 0 0 none args) =
        if before.count (.ok false) = 0 then .error e else .ok (.ofBool false) := by
    have hfew : (truths args).count (.ok true) < args.length := by
      have hmem : .error e ∈ truths args := by simp [hargs]
      have hpos : 0 < (truths args).countP (fun truth => (errorOf? truth).isSome) :=
        List.countP_pos_iff.2 ⟨_, hmem, rfl⟩
      rw [length_truths] at hsum
      omega
    rw [countTrue_of_firstError hargs hbefore (by omega)]
    refine if_congr ?_ rfl rfl
    omega
  rw [shortCircuit_eq, Option.none_or]
  refine ⟨fun hno => ?_, fun ⟨before, e, after, hargs, htrue, hfalse⟩ => ?_⟩
  · cases hfirst : firstError? (truths args) with
    | none =>
        by_cases hfalse : .ok false ∈ truths args
        · rw [if_pos hfalse]
          have hpos := List.count_pos_iff.2 hfalse
          rw [length_truths] at hsum
          exact hcounts.tooFew (by omega) hfirst
        · rw [if_neg hfalse, conclude]
          refine hcounts.enough ?_
          have hzero := countP_errorOf?_of_firstError? hfirst
          have hnone := List.count_eq_zero.2 hfalse
          rw [length_truths] at hsum
          omega
    | some e =>
        rcases exists_of_firstError?_eq_some hfirst with ⟨before, after, hargs, hbefore⟩
        rw [hmet hargs hbefore]
        -- What stands before the error is true throughout, or has put all arguments out of reach.
        by_cases hfalse : .ok false ∈ before
        · have hpos := List.count_pos_iff.2 hfalse
          rw [if_neg (by omega), if_pos (by simp [hargs, hfalse])]
        · have htrue : ∀ truth ∈ before, truth = .ok true := by
            intro truth htruth
            rcases firstError?_eq_none_iff.1 hbefore truth htruth with ⟨b, rfl⟩
            cases b with
            | false => exact absurd htruth hfalse
            | true => rfl
          have hafter : .ok false ∉ after := fun h => hno ⟨before, e, after, hargs, htrue, h⟩
          rw [if_pos (List.count_eq_zero.2 hfalse), if_neg (by simp [hargs, hfalse, hafter]),
            conclude]
  · have hbefore : firstError? before = none :=
      firstError?_eq_none_iff.2 fun truth htruth => ⟨true, htrue truth htruth⟩
    have hnone : .ok false ∉ before := fun h => by cases htrue _ h
    refine ⟨e, hargs ▸ firstError?_append hbefore, ?_, if_pos (by simp [hargs, hfalse])⟩
    rw [hmet hargs hbefore, if_pos (List.count_eq_zero.2 hnone)]

/-- `n-of` looks for as many arguments that are true as its first argument says. -/
theorem run_fold_nOf {function : String} {count : Lazy Id} {n : Int64}
    (hcount : (Id.run (count ())).bind Datum.asInteger = .ok n) (hn : 0 ≤ n.toInt)
    (hlength : n.toInt.toNat ≤ args.length) :
    Id.run (fold nOf function (count :: args)) =
      Id.run (countTrue n.toInt.toNat 0 0 none args) := by
  simp only [fold, Id.run_bind, hcount]
  rw [if_neg (Int.not_lt.2 hn), if_neg (Nat.not_lt.2 hlength)]

end LogicalOp

/-! ## Arguments -/

/-- The truth value that an expression evaluates to. -/
def Expr.truth (facade : Facade Id) (stack : Stack) (e : Expr) : Except EvaluationError Bool :=
  (Id.run (e.evaluate facade stack)).bind Datum.asBool

theorem Expr.truths_evaluations (facade : Facade Id) (stack : Stack) (list : List Expr) :
    LogicalOp.truths (evaluations facade stack list) = list.map (truth facade stack) := by
  rw [evaluations_eq_map, LogicalOp.truths, List.map_map]
  rfl

/-- The truth values of arguments that have been evaluated. -/
theorem LogicalOp.truths_known (bools : List Bool) :
    truths ((bools.map Datum.ofBool).map Lazy.known) = bools.map .ok := by
  rw [truths, List.map_map, List.map_map]
  rfl

theorem Params.Fits.of_variadic {leading more : List ValueType} {rest : ValueType} {least : Nat}
    (hleast : least ≤ more.length) (hmore : ∀ type ∈ more, type = rest) :
    (Params.variadic leading rest least).Fits (leading ++ more) := by
  refine ⟨by simpa [accepts] using hleast, fun i type expected htype hexpected => ?_⟩
  rw [Nat.zero_add, type?, Option.some.injEq] at hexpected
  subst hexpected
  rcases Nat.lt_or_ge i leading.length with hlt | hge
  · rw [List.getElem?_append_left hlt] at htype
    rw [htype]
    rfl
  · rw [List.getElem?_append_right hge] at htype
    rw [List.getElem?_eq_none hge]
    exact hmore type (List.mem_of_getElem? htype)

/-! ## Applications -/

theorem Expr.evaluate_logical {m : Type → Type} [Monad m] {facade : Facade m} {stack : Stack}
    {f : Function} {op : LogicalOp} (hf : f.operation = .logical op)
    (hroom : stack.isLow = false) (args : List Expr) (returns : ValueType) :
    (Expr.apply f args returns).evaluate facade stack =
      op.fold f.id (evaluations facade (stack.enter .argument) args) := by
  simp only [evaluate_apply facade hroom, Function.applyTo, hf]

/-- An expression that has a value has found room on the stack. -/
theorem Expr.isLow_of_run_eq_ok {facade : Facade Id} {stack : Stack} {e : Expr} {value : Datum}
    (h : Id.run (e.evaluate facade stack) = .ok value) : stack.isLow = false :=
  Bool.eq_false_iff.2 fun hlow => by
    rw [evaluate_of_isLow facade hlow] at h
    cases h

/-- A call of `n-of` on values counts those that are true. -/
theorem Function.call_nOf {f : Function} (hf : f.operation = .logical .nOf) {n : Int64}
    (hn : 0 ≤ n.toInt) {bools : List Bool} (hlength : n.toInt.toNat ≤ bools.length) :
    f.call (.single (.integer n) :: bools.map Datum.ofBool) =
      .ok (.ofBool (decide (n.toInt.toNat ≤ bools.count true))) := by
  have hfits : LogicalOp.nOf.params.Fits
      ((Datum.single (.integer n) :: bools.map Datum.ofBool).map Datum.type) := by
    have hbools : ∀ type ∈ (bools.map Datum.ofBool).map Datum.type, type = .boolean := by
      simp [Datum.ofBool, Datum.type, Value.type, ValueType.boolean]
    exact Params.Fits.of_variadic (Nat.zero_le _) hbools
  have hlength' : n.toInt.toNat ≤ ((bools.map Datum.ofBool).map (Lazy.known (m := Id))).length := by
    simpa using hlength
  have hcounts := LogicalOp.countTrue_countsTo n.toInt.toNat
    ((bools.map Datum.ofBool).map Lazy.known)
  have hcount : (bools.map Except.ok : List (Except EvaluationError Bool)).count (.ok true) =
      bools.count true :=
    List.count_map_of_injective bools _ (fun _ _ => Except.ok.inj) true
  rw [LogicalOp.truths_known] at hcounts
  simp only [call, hf, checkValues_ok hfits]
  have hrun : Id.run (LogicalOp.nOf.fold f.id
      (Lazy.known (.single (.integer n)) :: (bools.map Datum.ofBool).map Lazy.known)) =
      Id.run (LogicalOp.countTrue n.toInt.toNat 0 0 none
        ((bools.map Datum.ofBool).map Lazy.known)) :=
    LogicalOp.run_fold_nOf rfl hn hlength'
  refine hrun.trans ?_
  by_cases henough : n.toInt.toNat ≤ bools.count true
  · rw [decide_eq_true henough]
    exact hcounts.enough (by omega)
  · rw [decide_eq_false henough]
    -- A value that has been evaluated is no error.
    refine hcounts.tooFew (by omega) (firstError?_eq_none_iff.2 fun truth htruth => ?_)
    rcases List.mem_map.1 htruth with ⟨b, -, rfl⟩
    exact ⟨b, rfl⟩

/-! ## Counting arguments -/

/-- Where `n-of` asks for a number of arguments of which there are enough, it comes to what
`CountsTo` says of the arguments, evaluated one by one or before.  It is true if enough of them are,
and fails with the first error if the failing ones could have been enough.  If they could not, it is
false only if no argument fails, or if what comes before the first that does already puts the number
out of reach.  So it is a disjunction if one argument has to be true, but a conjunction if all have
to be only as long as none fails before the first that is false. -/
theorem evaluate_nOf_countsTo {facade : Facade Id} {stack : Stack} {f : Function} {count : Expr}
    {n : Int64} {args : List Expr} (hf : f.operation = .logical .nOf)
    (hcount : Id.run (count.evaluate facade (stack.enter .argument)) = .ok (.single (.integer n)))
    (hn : 0 ≤ n.toInt) (hlength : n.toInt.toNat ≤ args.length) (returns : ValueType) :
    let needed := n.toInt.toNat
    let truths := args.map (Expr.truth facade (stack.enter .argument))
    let outcome := Id.run ((Expr.apply f (count :: args) returns).evaluate facade stack)
    LogicalOp.CountsTo needed truths outcome ∧
      (needed = 1 → ∀ g returns', g.operation = .logical .or →
        outcome = Id.run ((Expr.apply g args returns').evaluate facade stack)) ∧
      (needed = args.length → ∀ g returns', g.operation = .logical .and →
        let conjunction := Id.run ((Expr.apply g args returns').evaluate facade stack)
        (¬LogicalOp.FailsBeforeFalse truths → outcome = conjunction) ∧
          (LogicalOp.FailsBeforeFalse truths → ∃ error, firstError? truths = some error ∧
            outcome = .error error ∧ conjunction = .ok (.ofBool false))) ∧
      ∀ bools : List Bool, needed ≤ bools.length →
        f.call (.single (.integer n) :: bools.map Datum.ofBool) =
          .ok (.ofBool (decide (needed ≤ bools.count true))) := by
  intro needed truths outcome
  have hroom := Stack.isLow_of_enter (Expr.isLow_of_run_eq_ok hcount)
  let lazies := Expr.evaluations facade (stack.enter .argument) args
  have hlazy : lazies.length = args.length := by
    simp only [lazies, Expr.evaluations_eq_map, List.length_map]
  have htruths : LogicalOp.truths lazies = truths := Expr.truths_evaluations facade _ args
  have houtcome : outcome = Id.run (LogicalOp.countTrue needed 0 0 none lazies) := by
    simp only [outcome, Expr.evaluate_logical hf hroom, Expr.evaluations]
    exact LogicalOp.run_fold_nOf (by rw [hcount]; rfl) hn (hlazy ▸ hlength)
  rw [houtcome]
  refine ⟨?_, fun hone g returns' hg => ?_, fun hall g returns' hg => ?_,
    fun bools hbools => Function.call_nOf hf hn hbools⟩
  · have hcounts := LogicalOp.countTrue_countsTo needed lazies
    rwa [htruths] at hcounts
  · rw [hone, LogicalOp.countTrue_one, Expr.evaluate_logical hg hroom]
    rfl
  · have hconjunction := LogicalOp.countTrue_length lazies
    rw [hlazy, htruths, ← hall] at hconjunction
    rw [Expr.evaluate_logical hg hroom]
    exact hconjunction

namespace TwoApprovals

/-- Whether someone approved, if exactly one answer is known. -/
def approval : Expr :=
  .apply (.ofStrict (.bag .oneAndOnly .boolean))
    [.designator ⟨⟨"subject", "approved", .boolean, none⟩, false⟩] .boolean

/-- A request that tells nothing. -/
def facade : Facade Id :=
  ⟨⟨[], false, false⟩, ⟨⟨⟨0, 0⟩, none⟩⟩, []⟩

/-- Two approvals are asked for, of which one is not known and the other is refused. -/
def arguments : List Expr := [approval, .value (.boolean false)]

/-- What the first argument fails with. -/
def unknown : EvaluationError :=
  .of (.notSingleton (StrictOp.bag .oneAndOnly .boolean).id 0)

/-- The refusal alone puts two approvals out of reach, and makes the conjunction false, but the
error before it is reported. -/
theorem evaluate_nOf_countsTo_refused :
    let f := Function.ofLogical .nOf
    let count : Expr := .value (.integer 2)
    let inside := Stack.main.enter .argument
    let outcome := Id.run ((Expr.apply f (count :: arguments) .boolean).evaluate facade .main)
    f.operation = .logical .nOf ∧
      Id.run (count.evaluate facade inside) = .ok (.single (.integer 2)) ∧
      0 ≤ (2 : Int64).toInt ∧ (2 : Int64).toInt.toNat ≤ arguments.length ∧
      arguments.map (Expr.truth facade inside) = [.error unknown, .ok false] ∧
      outcome = .error unknown ∧
      Id.run ((Expr.apply (.ofLogical .and) arguments .boolean).evaluate facade .main) =
        .ok (.ofBool false) := by
  intro f count inside outcome
  have hcount : Id.run (count.evaluate facade inside) = .ok (.single (.integer 2)) := rfl
  have htruths : arguments.map (Expr.truth facade inside) = [.error unknown, .ok false] := by
    decide
  have hfails : LogicalOp.FailsBeforeFalse (arguments.map (Expr.truth facade inside)) := by
    rw [htruths]
    exact ⟨[], unknown, [.ok false], rfl, by decide, by decide⟩
  have hlength : (2 : Int64).toInt.toNat ≤ arguments.length := by decide
  have hf : f.operation = .logical .nOf := rfl
  rcases evaluate_nOf_countsTo hf hcount (by decide) hlength .boolean with ⟨-, -, hall, -⟩
  rcases (hall rfl (.ofLogical .and) .boolean rfl).2 hfails with ⟨e, hfirst, houtcome, hand⟩
  rw [htruths] at hfirst
  cases hfirst
  exact ⟨hf, hcount, by decide, hlength, htruths, houtcome, hand⟩

end TwoApprovals

end Xacml
