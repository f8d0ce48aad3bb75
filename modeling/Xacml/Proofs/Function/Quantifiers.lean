import Xacml.Proofs.Choices
import Xacml.Proofs.Kleene
import Xacml.Proofs.Typing.Call

/-!
# Quantifiers over members

`any-of`, `all-of` and `any-of-any` apply a function to one member of each argument, and stop at the
first application that decides or fails.

* `HigherOrderOp.deciding?` is the truth value that decides,
* `firstSettled` is the outcome of a search that stops at the first application that decides or
  fails; `anyItem_eq` and `allItems_eq` say so of the loops, and `HigherOrderOp.apply_eq` of the
  functions,
* `Quantifies` says what such a search owes to the applications,
* `Datum.Rearranged` puts the members of a bag into another order,
* `apply_quantifies`: a quantifier may be rearranged unless one application decides and another one
  fails; then either may be the first, and the outcome follows it.
-/

namespace Xacml

/-! ## Searches -/

section

variable {ε α : Type} [DecidableEq ε]

/-- The first outcome that does not leave the matter open, where the truth value `b` decides. -/
def firstSettled (b : Bool) (outcomes : List (Except ε Bool)) : Except ε Bool :=
  (outcomes.find? fun outcome => outcome ≠ .ok !b).getD (.ok !b)

theorem firstSettled_cons (b : Bool) (outcome : Except ε Bool) (rest : List (Except ε Bool)) :
    firstSettled b (outcome :: rest) =
      if outcome = .ok !b then firstSettled b rest else outcome := by
  by_cases h : outcome = .ok !b <;> simp [firstSettled, h]

theorem anyItem_eq (p : α → Except EvaluationError Bool) (items : List α) :
    anyItem p items = firstSettled true (items.map p) := by
  induction items with
  | nil => rfl
  | cons item rest ih =>
      rw [anyItem, List.map_cons, firstSettled_cons, ← ih]
      rcases p item with e | _ | _ <;> rfl

theorem allItems_eq (p : α → Except EvaluationError Bool) (items : List α) :
    allItems p items = firstSettled false (items.map p) := by
  induction items with
  | nil => rfl
  | cons item rest ih =>
      rw [allItems, List.map_cons, firstSettled_cons, ← ih]
      rcases p item with e | _ | _ <;> rfl

variable {b : Bool} {outcomes : List (Except ε Bool)}

theorem firstSettled_eq_open_iff :
    firstSettled b outcomes = .ok !b ↔ ∀ outcome ∈ outcomes, outcome = .ok !b := by
  induction outcomes with
  | nil => simp [firstSettled]
  | cons outcome rest ih =>
      rw [firstSettled_cons, List.forall_mem_cons, ← ih]
      by_cases h : outcome = .ok !b <;> simp [h]

/-- What a search ends with, it has met. -/
theorem mem_of_firstSettled {outcome : Except ε Bool} (h : firstSettled b outcomes = outcome)
    (hsettled : outcome ≠ .ok !b) : outcome ∈ outcomes := by
  subst h
  unfold firstSettled at hsettled ⊢
  cases hfind : outcomes.find? fun outcome => outcome ≠ .ok !b with
  | none => exact absurd (by rw [hfind]; rfl) hsettled
  | some outcome => exact List.mem_of_find?_eq_some hfind

/-- The order of outcomes does not matter unless one of them decides and another one fails. -/
theorem firstSettled_truth_perm {outcomes' : List (Except ε Bool)} (h : outcomes.Perm outcomes')
    (hone : ¬(.ok b ∈ outcomes ∧ ∃ error, .error error ∈ outcomes)) :
    Kleene.ofExcept (firstSettled b outcomes') = .ofExcept (firstSettled b outcomes) := by
  by_cases hopen : firstSettled b outcomes = .ok !b
  · have hopen' : firstSettled b outcomes' = .ok !b :=
      firstSettled_eq_open_iff.2 fun outcome houtcome =>
        firstSettled_eq_open_iff.1 hopen outcome (h.mem_iff.2 houtcome)
    rw [hopen, hopen']
  · have hopen' : firstSettled b outcomes' ≠ .ok !b := fun heq =>
      hopen <| firstSettled_eq_open_iff.2 fun outcome houtcome =>
        firstSettled_eq_open_iff.1 heq outcome (h.mem_iff.1 houtcome)
    have hmem := mem_of_firstSettled rfl hopen
    have hmem' := h.mem_iff.2 (mem_of_firstSettled rfl hopen')
    generalize firstSettled b outcomes = outcome at hopen hmem ⊢
    generalize firstSettled b outcomes' = outcome' at hopen' hmem' ⊢
    -- Each of the two decides or fails, and not one the one and one the other.
    cases outcome with
    | error e =>
        cases outcome' with
        | error e' => rfl
        | ok c =>
            have hc : c = b := by simpa using hopen'
            exact absurd ⟨hc ▸ hmem', e, hmem⟩ hone
    | ok c =>
        have hc : c = b := by simpa using hopen
        cases outcome' with
        | error e' => exact absurd ⟨hc ▸ hmem, e', hmem'⟩ hone
        | ok c' =>
            have hc' : c' = b := by simpa using hopen'
            rw [hc, hc']

theorem firstSettled_append {before after : List (Except ε Bool)} {outcome : Except ε Bool}
    (hbefore : ∀ outcome ∈ before, outcome = .ok !b) (h : outcome ≠ .ok !b) :
    firstSettled b (before ++ outcome :: after) = outcome := by
  induction before with
  | nil => rw [List.nil_append, firstSettled_cons, if_neg h]
  | cons first before ih =>
      rw [List.forall_mem_cons] at hbefore
      rw [List.cons_append, firstSettled_cons, if_pos hbefore.1, ih hbefore.2]

end

/-! ## Applications -/

namespace HigherOrderOp

/-- The truth value of one application that settles the outcome of a quantifier. -/
def deciding? : HigherOrderOp → Option Bool
  | anyOf | anyOfAny => some true
  | allOf => some false
  | _ => none

/-- The arguments that a quantifier applies its function to, in this order: a member of each of its
own arguments. -/
def applications (args : List Datum) : List (List Datum) :=
  choices (args.map Datum.members)

theorem mem_applications {args call : List Datum} :
    call ∈ applications args ↔ List.Forall₂ (fun member arg => member ∈ arg.members) call args := by
  rw [applications, mem_choices, List.forall₂_map_right_iff]

theorem takes_of_checkInputs {op : HigherOrderOp} {legacy : Bool} {function : String}
    {g : Function} {args : List Datum} {returns : ValueType}
    (h : op.checkInputs legacy function
      (.function g :: args.map fun arg => .value arg.type) = .ok returns) :
    op.Takes legacy g (args.map Datum.type) returns := by
  rcases checkInputs_ok h with ⟨g', types, heq, htakes⟩
  rw [List.cons.injEq, ArgType.function.injEq] at heq
  have hinj : Function.Injective (List.map ArgType.value) :=
    List.map_injective_iff.2 fun _ _ => ArgType.value.inj
  have htypes : args.map Datum.type = types := hinj (by rw [List.map_map]; exact heq.2)
  rwa [heq.1, htypes]

/-- A quantifier is a search among its applications. -/
theorem apply_eq {op : HigherOrderOp} {legacy : Bool} {g : Function} {args : List Datum}
    {returns : ValueType} {b : Bool} (function : String) (hop : op.deciding? = some b)
    (h : op.Takes legacy g (args.map Datum.type) returns) :
    op.apply function g args =
      (firstSettled b ((applications args).map g.holds)).map .ofBool := by
  cases op with
  | anyOf =>
      cases hop
      simp only [apply, eachMember_eq function (bagCount_le_one (.inl rfl) h.shape), anyItem_eq]
      rfl
  | allOf =>
      cases hop
      simp only [apply, eachMember_eq function (bagCount_le_one (.inr (.inl rfl)) h.shape),
        allItems_eq]
      rfl
  | anyOfAny =>
      cases hop
      rcases mapM_asBag_eq (isBag_of_anyOfAny h.shape) with ⟨bags, hbags, rfl⟩
      simp only [apply, hbags, anyItem_eq, applications, List.map_map]
      rfl
  | _ => cases hop

end HigherOrderOp

/-! ## Rearranged arguments -/

namespace Datum

/-- Whether two arguments are one value, or bags of the same members in whichever order. -/
inductive Rearranged : Datum → Datum → Prop
  | single (value : Value) : Rearranged (.single value) (.single value)
  | bag {bag bag' : Bag} (type : bag.type = bag'.type) (perm : bag.members.Perm bag'.members) :
      Rearranged (.bag bag) (.bag bag')

theorem Rearranged.type_eq {d d' : Datum} (h : d.Rearranged d') : d.type = d'.type := by
  cases h with
  | single value => rfl
  | bag type _ => exact congrArg ValueType.bag type

theorem Rearranged.members_perm {d d' : Datum} (h : d.Rearranged d') :
    d.members.Perm d'.members := by
  cases h with
  | single value => exact .refl _
  | bag _ perm => exact perm.map _

/-- Any member can be put first. -/
theorem exists_rearranged {d member : Datum} (h : member ∈ d.members) :
    ∃ d', d.Rearranged d' ∧ d'.members.head? = some member := by
  cases d with
  | single value =>
      obtain rfl := List.mem_singleton.1 h
      exact ⟨_, .single value, rfl⟩
  | bag b =>
      rcases List.mem_map.1 h with ⟨value, hvalue, rfl⟩
      have hperm := List.perm_cons_erase hvalue
      have htyped := fun v hv => b.typed v (hperm.mem_iff.2 hv)
      exact ⟨.bag ⟨b.type, value :: b.members.erase value, htyped⟩, .bag rfl hperm, rfl⟩

end Datum

section

variable {args args' : List Datum}

theorem types_of_rearranged (h : List.Forall₂ Datum.Rearranged args args') :
    args.map Datum.type = args'.map Datum.type := by
  induction h with
  | nil => rfl
  | cons hd _ ih => rw [List.map_cons, List.map_cons, hd.type_eq, ih]

theorem applications_perm (h : List.Forall₂ Datum.Rearranged args args') :
    (HigherOrderOp.applications args).Perm (HigherOrderOp.applications args') := by
  refine choices_perm ?_
  rw [List.forall₂_map_left_iff, List.forall₂_map_right_iff]
  exact h.imp fun _ _ hd => hd.members_perm

/-- Any application can be made the first. -/
theorem exists_applications_eq_cons {call : List Datum}
    (h : call ∈ HigherOrderOp.applications args) :
    ∃ args', List.Forall₂ Datum.Rearranged args args' ∧
      ∃ rest, HigherOrderOp.applications args' = call :: rest := by
  rw [HigherOrderOp.mem_applications] at h
  -- Each argument on its own can be rearranged so that its part of the call stands first.
  have hfront : ∃ args', List.Forall₂ Datum.Rearranged args args' ∧
      List.Forall₂ (fun member arg => arg.members.head? = some member) call args' := by
    induction h with
    | nil => exact ⟨[], .nil, .nil⟩
    | cons hmember _ ih =>
        rcases Datum.exists_rearranged hmember with ⟨d', hd', hhead⟩
        rcases ih with ⟨args', hargs', hheads⟩
        exact ⟨d' :: args', .cons hd' hargs', .cons hhead hheads⟩
  rcases hfront with ⟨args', hargs', hheads⟩
  exact ⟨args', hargs', choices_eq_cons (List.forall₂_map_right_iff.2 hheads)⟩

end

/-! ## Quantifiers -/

/-- What the outcome of a quantifier owes to the applications of its function, where the truth value
`b` decides. -/
structure Quantifies (b : Bool) (g : Function) (args : List Datum)
    (outcome : Except EvaluationError Datum) : Prop where
  open_iff : outcome = .ok (.ofBool !b) ↔
    ∀ call ∈ HigherOrderOp.applications args, g.holds call = .ok !b
  decided : outcome = .ok (.ofBool b) →
    ∃ call ∈ HigherOrderOp.applications args, g.holds call = .ok b
  failed : ∀ error, outcome = .error error →
    ∃ call ∈ HigherOrderOp.applications args, g.holds call = .error error
  settled : ∀ before call after, HigherOrderOp.applications args = before ++ call :: after →
    (∀ earlier ∈ before, g.holds earlier = .ok !b) → g.holds call ≠ .ok !b →
      outcome = (g.holds call).map .ofBool

section

variable {x : Except EvaluationError Bool}

theorem map_ofBool_eq_ok_iff {b : Bool} : x.map Datum.ofBool = .ok (.ofBool b) ↔ x = .ok b := by
  cases x <;> simp [Except.map, Datum.ofBool]

theorem map_ofBool_eq_error_iff {error : EvaluationError} :
    x.map Datum.ofBool = .error error ↔ x = .error error := by
  cases x <;> simp [Except.map]

theorem asBool_map_ofBool (x : Except EvaluationError Bool) :
    (x.map Datum.ofBool).bind Datum.asBool = x := by
  cases x <;> rfl

end

theorem quantifies_firstSettled (b : Bool) (g : Function) (args : List Datum) :
    Quantifies b g args
      ((firstSettled b ((HigherOrderOp.applications args).map g.holds)).map .ofBool) := by
  generalize hcalls : HigherOrderOp.applications args = calls
  refine ⟨?_, fun h => ?_, fun error h => ?_, fun before call after heq hbefore hcall => ?_⟩
  · rw [map_ofBool_eq_ok_iff, firstSettled_eq_open_iff, List.forall_mem_map, hcalls]
  · rw [map_ofBool_eq_ok_iff] at h
    exact hcalls ▸ List.mem_map.1 (mem_of_firstSettled h (by simp))
  · rw [map_ofBool_eq_error_iff] at h
    exact hcalls ▸ List.mem_map.1 (mem_of_firstSettled h (by simp))
  · rw [← hcalls, heq, List.map_append, List.map_cons,
      firstSettled_append (List.forall_mem_map.2 hbefore) hcall]

/-- A quantifier whose arguments passed the input check comes to what `Quantifies` says of its
applications: it stops at the first one that decides or fails.  If none fails, it has the deciding
truth value exactly if some application has it, and if none decides, it fails exactly if some
application does; then the order of the members does not matter.  If one application decides and
another one fails, the members can be put in an order in which the quantifier decides, and in one in
which it fails. -/
theorem apply_quantifies {op : HigherOrderOp} {legacy : Bool} {function : String} {g : Function}
    {args : List Datum} {returns : ValueType} {b : Bool} (hop : op.deciding? = some b)
    (hchecked : op.checkInputs legacy function
      (.function g :: args.map fun arg => .value arg.type) = .ok returns) :
    let outcome := op.apply function g args
    let decides := ∃ call ∈ HigherOrderOp.applications args, g.holds call = .ok b
    let fails := ∃ call ∈ HigherOrderOp.applications args, ∃ error, g.holds call = .error error
    Quantifies b g args outcome ∧
      (¬(decides ∧ fails) →
        (outcome = .ok (.ofBool b) ↔ decides) ∧ ((∃ error, outcome = .error error) ↔ fails) ∧
          ∀ args', List.Forall₂ Datum.Rearranged args args' →
            Kleene.ofExcept ((op.apply function g args').bind Datum.asBool) =
              .ofExcept (outcome.bind Datum.asBool)) ∧
      (decides ∧ fails →
        (∃ args', List.Forall₂ Datum.Rearranged args args' ∧
            op.apply function g args' = .ok (.ofBool b)) ∧
          ∃ args' error, List.Forall₂ Datum.Rearranged args args' ∧
            op.apply function g args' = .error error) := by
  intro outcome decides fails
  have htakes := HigherOrderOp.takes_of_checkInputs hchecked
  have happly {args' : List Datum} (h : List.Forall₂ Datum.Rearranged args args') :
      op.apply function g args' =
        (firstSettled b ((HigherOrderOp.applications args').map g.holds)).map .ofBool :=
    HigherOrderOp.apply_eq function hop (types_of_rearranged h ▸ htakes)
  have houtcome : outcome =
      (firstSettled b ((HigherOrderOp.applications args).map g.holds)).map .ofBool :=
    HigherOrderOp.apply_eq function hop htakes
  have hquantifies : Quantifies b g args outcome := houtcome ▸ quantifies_firstSettled b g args
  -- What can be put first settles the outcome.
  have hfirst {call : List Datum} (hcall : call ∈ HigherOrderOp.applications args)
      (hsettled : g.holds call ≠ .ok !b) :
      ∃ args', List.Forall₂ Datum.Rearranged args args' ∧
        op.apply function g args' = (g.holds call).map .ofBool := by
    rcases exists_applications_eq_cons hcall with ⟨args', hargs', rest, hrest⟩
    refine ⟨args', hargs', ?_⟩
    rw [happly hargs', hrest, List.map_cons, firstSettled_cons, if_neg hsettled]
  have hthree : outcome = .ok (.ofBool b) ∨ outcome = .ok (.ofBool !b) ∨
      ∃ error, outcome = .error error := by
    rw [houtcome]
    rcases firstSettled b ((HigherOrderOp.applications args).map g.holds) with error | c
    · exact .inr (.inr ⟨error, rfl⟩)
    · by_cases hc : c = b
      · exact .inl (hc ▸ rfl)
      · exact .inr (.inl (Bool.eq_not.2 hc ▸ rfl))
  have hopen {call : List Datum} (hcall : call ∈ HigherOrderOp.applications args)
      (hsettled : g.holds call ≠ .ok !b) : outcome ≠ .ok (.ofBool !b) :=
    fun h => hsettled (hquantifies.open_iff.1 h call hcall)
  have hfailed : (∃ error, outcome = .error error) → fails := fun ⟨error, h⟩ =>
    let ⟨call, hcall, herror⟩ := hquantifies.failed error h
    ⟨call, hcall, error, herror⟩
  refine ⟨hquantifies, fun hone => ⟨⟨hquantifies.decided, fun hdecides => ?_⟩,
    ⟨hfailed, fun hfails => ?_⟩, fun args' hargs' => ?_⟩, ?_⟩
  · rcases hdecides with ⟨call, hcall, hb⟩
    rcases hthree with h | h | h
    · exact h
    · exact absurd h (hopen hcall (by simp [hb]))
    · exact absurd ⟨⟨call, hcall, hb⟩, hfailed h⟩ hone
  · rcases hfails with ⟨call, hcall, error, herror⟩
    rcases hthree with h | h | h
    · exact absurd ⟨hquantifies.decided h, call, hcall, error, herror⟩ hone
    · exact absurd h (hopen hcall (by simp [herror]))
    · exact h
  · rw [happly hargs', houtcome, asBool_map_ofBool, asBool_map_ofBool]
    refine firstSettled_truth_perm ((applications_perm hargs').map g.holds) ?_
    rintro ⟨hdecides, error, hfails⟩
    rcases List.mem_map.1 hfails with ⟨call, hcall, herror⟩
    exact hone ⟨List.mem_map.1 hdecides, call, hcall, error, herror⟩
  · rintro ⟨⟨call, hcall, hb⟩, call', hcall', error, herror⟩
    rcases hfirst hcall (by simp [hb]) with ⟨args', hargs', happlied⟩
    rcases hfirst hcall' (by simp [herror]) with ⟨args'', hargs'', happlied'⟩
    rw [hb] at happlied
    rw [herror] at happlied'
    exact ⟨⟨args', hargs', happlied⟩, args'', error, hargs'', happlied'⟩

namespace BrokenPattern

/-- A pattern that cannot be read and one that can. -/
def patterns : Bag :=
  ⟨.string, [.string "[", .string "a"], by decide⟩

/-- The patterns, and the text they are compared with. -/
def arguments : List Datum := [.bag patterns, .single (.string "a")]

/-- Whether a text matches a pattern. -/
def matching : Function := .ofStrict (.matching (.regexp .string))

/-- What reading the first pattern fails with. -/
def unreadable : EvaluationError :=
  .failed matching.id (.pattern "[")

/-- The text matches the second pattern, but the first one fails before.  In another order of the
patterns the quantifier holds. -/
theorem apply_quantifies_patterns :
    HigherOrderOp.anyOf.deciding? = some true ∧
      HigherOrderOp.anyOf.checkInputs false "any-of"
        (.function matching :: arguments.map fun arg => .value arg.type) = .ok .boolean ∧
      matching.holds [.single (.string "a"), .single (.string "a")] = .ok true ∧
      HigherOrderOp.anyOf.apply "any-of" matching arguments = .error unreadable ∧
      ∃ args', List.Forall₂ Datum.Rearranged arguments args' ∧
        HigherOrderOp.anyOf.apply "any-of" matching args' = .ok (.ofBool true) := by
  have hop : HigherOrderOp.anyOf.deciding? = some true := rfl
  have hchecked : HigherOrderOp.anyOf.checkInputs false "any-of"
      (.function matching :: arguments.map fun arg => .value arg.type) = .ok .boolean := by decide
  have hbroken : matching.holds [.single (.string "["), .single (.string "a")] =
      .error unreadable := by decide
  have hmatch : matching.holds [.single (.string "a"), .single (.string "a")] = .ok true := by
    decide
  rcases apply_quantifies hop hchecked with ⟨hquantifies, -, hboth⟩
  have hfirst := hquantifies.settled [] _ _ rfl (by simp) (by rw [hbroken]; simp)
  rw [hbroken] at hfirst
  have hdecides : ∃ call ∈ HigherOrderOp.applications arguments,
      matching.holds call = .ok true :=
    ⟨_, .tail _ (.head _), hmatch⟩
  have hfails : ∃ call ∈ HigherOrderOp.applications arguments,
      ∃ error, matching.holds call = .error error :=
    ⟨_, .head _, _, hbroken⟩
  exact ⟨hop, hchecked, hmatch, hfirst, (hboth ⟨hdecides, hfails⟩).1⟩

end BrokenPattern

end Xacml
