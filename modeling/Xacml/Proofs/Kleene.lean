import Xacml.Proofs.Related

/-!
# Three-valued logic

What fails has no truth value, but may still leave no doubt about what it is a part of.

* `Kleene` are the truth values of the strong three-valued logic, with `Kleene.and` and `Kleene.or`,
* `Kleene.all` and `Kleene.any` are the conjunction and the disjunction of a list,
* `Rearranged` relates the items of two lists in any order; neither `Kleene.all` nor `Kleene.any`
  depends on it.
-/

namespace Xacml

/-! ## Truth values -/

/-- A truth value that may be unknown. -/
inductive Kleene
  | no
  | unknown
  | yes
  deriving DecidableEq, Repr

namespace Kleene

/-- The truth value of an outcome; that of an error is unknown. -/
def ofExcept {ε : Type} : Except ε Bool → Kleene
  | .ok true => yes
  | .ok false => no
  | .error _ => unknown

/-- The conjunction: one `no` is enough for `no`. -/
def and : Kleene → Kleene → Kleene
  | no, _ => no
  | _, no => no
  | yes, yes => yes
  | _, _ => unknown

/-- The disjunction: one `yes` is enough for `yes`. -/
def or : Kleene → Kleene → Kleene
  | yes, _ => yes
  | _, yes => yes
  | no, no => no
  | _, _ => unknown

/-- The conjunction of a list. -/
def all (truths : List Kleene) : Kleene :=
  truths.foldr and yes

/-- The disjunction of a list. -/
def any (truths : List Kleene) : Kleene :=
  truths.foldr or no

@[simp] theorem all_nil : all [] = yes := rfl

@[simp] theorem all_cons (t : Kleene) (ts : List Kleene) : all (t :: ts) = t.and (all ts) := rfl

@[simp] theorem any_nil : any [] = no := rfl

@[simp] theorem any_cons (t : Kleene) (ts : List Kleene) : any (t :: ts) = t.or (any ts) := rfl

@[simp] theorem yes_and (t : Kleene) : yes.and t = t := by
  cases t <;> rfl

@[simp] theorem no_or (t : Kleene) : no.or t = t := by
  cases t <;> rfl

theorem and_assoc (s t u : Kleene) : (s.and t).and u = s.and (t.and u) := by
  cases s <;> cases t <;> cases u <;> rfl

theorem or_assoc (s t u : Kleene) : (s.or t).or u = s.or (t.or u) := by
  cases s <;> cases t <;> cases u <;> rfl

theorem and_left_comm (s t u : Kleene) : s.and (t.and u) = t.and (s.and u) := by
  cases s <;> cases t <;> cases u <;> rfl

theorem or_left_comm (s t u : Kleene) : s.or (t.or u) = t.or (s.or u) := by
  cases s <;> cases t <;> cases u <;> rfl

theorem and_eq_yes_iff {s t : Kleene} : s.and t = yes ↔ s = yes ∧ t = yes := by
  cases s <;> cases t <;> decide

theorem all_eq_yes_iff {ts : List Kleene} : all ts = yes ↔ ∀ t ∈ ts, t = yes := by
  induction ts with
  | nil => simp
  | cons t ts ih => rw [all_cons, and_eq_yes_iff, ih, List.forall_mem_cons]

theorem all_perm {ts us : List Kleene} (h : ts.Perm us) : all ts = all us := by
  induction h with
  | nil => rfl
  | cons t _ ih => rw [all_cons, all_cons, ih]
  | swap s t us => simp only [all_cons, and_left_comm]
  | trans _ _ ih ih' => exact ih.trans ih'

theorem any_perm {ts us : List Kleene} (h : ts.Perm us) : any ts = any us := by
  induction h with
  | nil => rfl
  | cons t _ ih => rw [any_cons, any_cons, ih]
  | swap s t us => simp only [any_cons, or_left_comm]
  | trans _ _ ih ih' => exact ih.trans ih'

end Kleene

/-! ## Rearranged lists -/

/-- Whether the items of two lists are related, in whichever order they are. -/
def Rearranged {α β : Type} (R : α → β → Prop) (xs : List α) (ys : List β) : Prop :=
  ∃ zs, List.Forall₂ R xs zs ∧ zs.Perm ys

section

variable {α β : Type} {R : α → β → Prop} {f : α → Kleene} {g : β → Kleene} {xs : List α}
  {ys : List β}

theorem Rearranged.map_perm (h : Rearranged R xs ys) (hfg : ∀ x y, R x y → f x = g y) :
    (xs.map f).Perm (ys.map g) := by
  rcases h with ⟨zs, hzs, hperm⟩
  have heq : xs.map f = zs.map g := by
    induction hzs generalizing ys with
    | nil => rfl
    | cons h _ ih => rw [List.map_cons, List.map_cons, hfg _ _ h, ih (.refl _)]
  exact heq ▸ hperm.map g

theorem Kleene.all_rearranged (h : Rearranged R xs ys) (hfg : ∀ x y, R x y → f x = g y) :
    Kleene.all (xs.map f) = Kleene.all (ys.map g) :=
  Kleene.all_perm (h.map_perm hfg)

theorem Kleene.any_rearranged (h : Rearranged R xs ys) (hfg : ∀ x y, R x y → f x = g y) :
    Kleene.any (xs.map f) = Kleene.any (ys.map g) :=
  Kleene.any_perm (h.map_perm hfg)

end

end Xacml
