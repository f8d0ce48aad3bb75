import Mathlib.Data.List.Forall2

/-!
# Lists related item by item

Facts about `List.Forall₂`, which relates the items of one list to those of another one in turn.
-/

namespace Xacml

variable {α β : Type} {R : α → β → Prop} {xs : List α} {ys : List β}

theorem exists_left_of_forall₂ (h : List.Forall₂ R xs ys) {y : β} (hy : y ∈ ys) :
    ∃ x ∈ xs, R x y := by
  induction h with
  | nil => cases hy
  | @cons x first xs ys hx _ ih =>
      rcases List.mem_cons.1 hy with rfl | hy
      · exact ⟨x, List.mem_cons_self, hx⟩
      · rcases ih hy with ⟨x, hx, hxy⟩
        exact ⟨x, List.mem_cons_of_mem _ hx, hxy⟩

theorem exists_right_of_forall₂ (h : List.Forall₂ R xs ys) {x : α} (hx : x ∈ xs) :
    ∃ y ∈ ys, R x y := by
  rcases exists_left_of_forall₂ (R := fun y x => R x y) h.flip hx with ⟨y, hy, hxy⟩
  exact ⟨y, hy, hxy⟩

theorem exists_forall₂ (h : ∀ x ∈ xs, ∃ y, R x y) : ∃ ys, List.Forall₂ R xs ys := by
  induction xs with
  | nil => exact ⟨[], .nil⟩
  | cons x xs ih =>
      rcases h x List.mem_cons_self with ⟨y, hy⟩
      rcases ih fun x hx => h x (List.mem_cons_of_mem _ hx) with ⟨ys, hys⟩
      exact ⟨y :: ys, .cons hy hys⟩

theorem exists_of_getElem?_forall₂ (h : List.Forall₂ R xs ys) {index : Nat} {y : β}
    (hy : ys[index]? = some y) : ∃ x, xs[index]? = some x ∧ R x y := by
  induction h generalizing index with
  | nil => cases hy
  | cons hxy _ ih =>
      cases index with
      | zero =>
          cases hy
          exact ⟨_, rfl, hxy⟩
      | succ index => exact ih hy

end Xacml
