/-!
# Choices

`choices` lists the ways to take one item from each of several lists.
-/

namespace Xacml

/-- The lists that take one item from each of the given lists, later ones varying faster. -/
def choices {α : Type} : List (List α) → List (List α)
  | [] => [[]]
  | items :: rest => items.flatMap fun item => (choices rest).map fun chosen => item :: chosen

@[simp] theorem choices_nil {α : Type} : choices ([] : List (List α)) = [[]] := rfl

/-- A choice takes one item of the first list and makes a choice from the others. -/
theorem mem_choices_cons {α : Type} {items chosen : List α} {rest : List (List α)} :
    chosen ∈ choices (items :: rest) ↔
      ∃ item ∈ items, ∃ others ∈ choices rest, item :: others = chosen := by
  simp [choices]

/-- There are as many choices as the product of the lengths. -/
theorem length_choices {α : Type} (lists : List (List α)) :
    (choices lists).length = (lists.map List.length).foldr (· * ·) 1 := by
  induction lists with
  | nil => rfl
  | cons items rest ih =>
      simp [choices, List.length_flatMap, ih, List.map_const']

end Xacml
