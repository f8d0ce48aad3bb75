import Mathlib.Tactic.Choose
import Xacml.Evaluation.Error
import Xacml.Proofs.Related

/-!
# How evaluations end

* `Ends` says how an evaluation may fail and what holds of its value,
* `Always` says what holds of every result of a computation with effects; what the effects are does
  not matter,
* `EvaluationError.IsOfData` are the errors that lie in the data of an evaluation: in attributes
  that are missing, or in values that a function cannot deal with.
-/

namespace Xacml

/-! ## Values and errors -/

theorem exists_of_bind_eq_ok {ε α β : Type} {x : Except ε α} {f : α → Except ε β} {b : β}
    (h : x >>= f = .ok b) : ∃ a, x = .ok a ∧ f a = .ok b := by
  cases x with
  | ok a => exact ⟨a, rfl, h⟩
  | error error => cases h

theorem map_eq_ok_iff {ε α β : Type} {x : Except ε α} {f : α → β} {b : β} :
    x.map f = .ok b ↔ ∃ a, x = .ok a ∧ f a = b := by
  cases x <;> simp [Except.map]

theorem exists_of_map_eq_ok {ε α β : Type} {x : Except ε α} {f : α → β} {b : β}
    (h : x.map f = .ok b) : ∃ a, x = .ok a ∧ f a = b :=
  map_eq_ok_iff.1 h

theorem mapError_eq_ok_iff {ε ε' α : Type} {x : Except ε α} {f : ε → ε'} {a : α} :
    x.mapError f = .ok a ↔ x = .ok a := by
  cases x <;> simp [Except.mapError]

theorem eq_ok_of_mapError {ε ε' α : Type} {x : Except ε α} {f : ε → ε'} {a : α}
    (h : x.mapError f = .ok a) : x = .ok a :=
  mapError_eq_ok_iff.1 h

theorem forall₂_of_mapM {ε α β : Type} {read : α → Except ε β} {items : List α} {results : List β}
    (h : items.mapM read = .ok results) :
    List.Forall₂ (fun item result => read item = .ok result) items results := by
  induction items generalizing results with
  | nil =>
      cases h
      exact .nil
  | cons item rest ih =>
      rw [List.mapM_cons] at h
      rcases exists_of_bind_eq_ok h with ⟨first, hfirst, h⟩
      rcases exists_of_bind_eq_ok h with ⟨more, hmore, h⟩
      cases h
      exact .cons hfirst (ih hmore)

/-- A list is read if each of its items is. -/
theorem mapM_of_forall₂ {ε α β : Type} {read : α → Except ε β} {items : List α}
    {results : List β}
    (h : List.Forall₂ (fun item result => read item = .ok result) items results) :
    items.mapM read = .ok results := by
  induction h with
  | nil => rfl
  | cons hfirst _ ih =>
      rw [List.mapM_cons, hfirst, ih]
      rfl

/-- Whether a result is an error or a value of the given kinds. -/
inductive Ends {ε α : Type} (fails : ε → Prop) (holds : α → Prop) : Except ε α → Prop
  | ok {a : α} (h : holds a) : Ends fails holds (.ok a)
  | error {error : ε} (h : fails error) : Ends fails holds (.error error)

namespace Ends

variable {ε α β : Type} {fails : ε → Prop} {holds : α → Prop} {holds' : β → Prop}

theorem holds_of_eq {x : Except ε α} {a : α} (h : Ends fails holds x) (hx : x = .ok a) :
    holds a := by
  subst hx
  cases h with
  | ok h => exact h

theorem fails_of_eq {x : Except ε α} {error : ε} (h : Ends fails holds x) (hx : x = .error error) :
    fails error := by
  subst hx
  cases h with
  | error h => exact h

theorem mono {x : Except ε α} {fails' : ε → Prop} {more : α → Prop} (h : Ends fails holds x)
    (hfails : ∀ error, fails error → fails' error) (hholds : ∀ a, holds a → more a) :
    Ends fails' more x := by
  cases h with
  | ok h => exact .ok (hholds _ h)
  | error h => exact .error (hfails _ h)

theorem imp {x : Except ε α} {more : α → Prop} (h : Ends fails holds x)
    (hholds : ∀ a, holds a → more a) : Ends fails more x :=
  h.mono (fun _ herror => herror) hholds

theorem widen {x : Except ε α} {fails' : ε → Prop} (h : Ends fails holds x)
    (hfails : ∀ error, fails error → fails' error) : Ends fails' holds x :=
  h.mono hfails fun _ ha => ha

theorem bind {x : Except ε α} {f : α → Except ε β} (h : Ends fails holds x)
    (hf : ∀ a, holds a → Ends fails holds' (f a)) : Ends fails holds' (x >>= f) := by
  cases h with
  | ok h => exact hf _ h
  | error h => exact .error h

theorem map {x : Except ε α} {f : α → β} (h : Ends fails holds x)
    (hf : ∀ a, holds a → holds' (f a)) : Ends fails holds' (x.map f) := by
  cases h with
  | ok h => exact .ok (hf _ h)
  | error h => exact .error h

/-- What relates each item to its result relates all items to their results. -/
theorem mapM {R : α → β → Prop} {f : α → Except ε β} {items : List α}
    (h : ∀ a ∈ items, Ends fails (R a) (f a)) :
    Ends fails (List.Forall₂ R items) (items.mapM f) := by
  induction items with
  | nil => exact .ok .nil
  | cons a rest ih =>
      rw [List.mapM_cons]
      refine (h a List.mem_cons_self).bind fun b hb => ?_
      refine (ih fun a ha => h a (List.mem_cons_of_mem _ ha)).bind fun results hresults => ?_
      exact .ok (.cons hb hresults)

end Ends

/-! ## Computations with effects -/

/-- Whether something holds of every result that a computation may give. -/
def Always {m : Type → Type} [Monad m] {α : Type} (holds : α → Prop) (x : m α) : Prop :=
  ∃ y : m {a // holds a}, Subtype.val <$> y = x

namespace Always

variable {m : Type → Type} [Monad m] [LawfulMonad m] {α β : Type}
variable {holds : α → Prop} {holds' : β → Prop}

theorem pure {a : α} (h : holds a) : Always holds (pure a : m α) :=
  ⟨Pure.pure ⟨a, h⟩, by rw [map_pure]⟩

theorem of_forall {x : m α} (h : ∀ a, holds a) : Always holds x :=
  ⟨(fun a => ⟨a, h a⟩) <$> x, by rw [← comp_map]; exact id_map x⟩

theorem mono {x : m α} {more : α → Prop} (h : Always holds x) (hmore : ∀ a, holds a → more a) :
    Always more x := by
  rcases h with ⟨y, rfl⟩
  refine ⟨(fun a => ⟨a.1, hmore a.1 a.2⟩) <$> y, ?_⟩
  rw [← comp_map]
  rfl

theorem bind {x : m α} {f : α → m β} (h : Always holds x)
    (hf : ∀ a, holds a → Always holds' (f a)) : Always holds' (x >>= f) := by
  rcases h with ⟨y, rfl⟩
  choose z hz using hf
  refine ⟨y >>= fun a => z a.1 a.2, ?_⟩
  rw [map_bind, bind_map_left]
  exact bind_congr fun a => hz a.1 a.2

/-- Without effects there is one result. -/
theorem run {x : Id α} (h : Always holds x) : holds (Id.run x) := by
  rcases h with ⟨y, rfl⟩
  exact (Id.run y).2

end Always

/-! ## Errors of data -/

/-- Whether a failure may happen to a function on arguments of the declared types. -/
def Failure.IsOfValues : Failure → Prop
  | .firstNotFunction | .tooManyBags _ | .inputs _ | .member _ => False
  | _ => True

/-- Whether an error lies in the data of an evaluation, not in how its expressions are put
together. -/
def EvaluationError.IsOfData (error : EvaluationError) : Prop :=
  match error.cause with
  | .missing _ | .resolution _ | .value _ | .notSingleton _ _ => True
  | .failed _ failure => failure.IsOfValues
  | _ => False

end Xacml
