import Mathlib.Data.List.Perm.Basic
import Xacml.Choices

/-!
# Choices from several lists

* `mem_choices`: a choice takes an item of each list,
* `choices_perm`: the choices from rearranged lists are the same ones, rearranged,
* `choices_eq_cons`: the first choice takes the first items,
* `choices_around`: if only one list has not one item, there is a choice for each of its items.
-/

namespace Xacml

variable {α : Type} {lists : List (List α)}

theorem mem_choices {chosen : List α} :
    chosen ∈ choices lists ↔ List.Forall₂ (fun x items => x ∈ items) chosen lists := by
  induction lists generalizing chosen with
  | nil => simp
  | cons items rest ih =>
      rw [mem_choices_cons]
      constructor
      · rintro ⟨x, hx, others, hothers, rfl⟩
        exact .cons hx (ih.1 hothers)
      · rintro (_ | ⟨hx, hothers⟩)
        exact ⟨_, hx, _, ih.2 hothers, rfl⟩

theorem choices_perm {lists' : List (List α)} (h : List.Forall₂ List.Perm lists lists') :
    (choices lists).Perm (choices lists') := by
  induction h with
  | nil => exact .refl _
  | cons hitems _ ih => exact hitems.flatMap fun x _ => ih.map _

theorem choices_eq_cons {chosen : List α}
    (h : List.Forall₂ (fun x items => items.head? = some x) chosen lists) :
    ∃ rest, choices lists = chosen :: rest := by
  induction h with
  | nil => exact ⟨[], rfl⟩
  | @cons x items chosen lists hx _ ih =>
      rcases ih with ⟨rest, hrest⟩
      rcases List.head?_eq_some_iff.1 hx with ⟨others, rfl⟩
      rw [choices, List.flatMap_cons, hrest, List.map_cons, List.cons_append]
      exact ⟨_, rfl⟩

theorem choices_singletons (items : List α) : choices (items.map fun x => [x]) = [items] := by
  induction items with
  | nil => rfl
  | cons x rest ih => simp [choices, ih]

theorem choices_around (before after items : List α) :
    choices ((before.map fun x => [x]) ++ items :: after.map fun x => [x]) =
      items.map fun x => before ++ x :: after := by
  induction before with
  | nil =>
      simp only [List.map_nil, List.nil_append, choices, choices_singletons, List.map_cons]
      exact List.map_eq_flatMap.symm
  | cons x rest ih => simp [choices, ih]

end Xacml
