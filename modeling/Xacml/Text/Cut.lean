/-!
# Cutting texts

* `cut?` cuts a text at the first occurrence of a character,
* `isInfix` tells whether a text occurs in another,
* `join` puts a separator between texts.
-/

namespace Xacml
namespace Text

/-- What stands before and after the first occurrence of `mark`. -/
def cut? (mark : Char) : List Char → Option (List Char × List Char)
  | [] => none
  | c :: rest =>
      if c = mark then some ([], rest)
      else (cut? mark rest).map fun parts => (c :: parts.1, parts.2)

/-- Cutting loses the mark only. -/
theorem eq_append_of_cut? {mark : Char} {text before after : List Char}
    (h : cut? mark text = some (before, after)) : text = before ++ mark :: after := by
  induction text generalizing before with
  | nil => simp [cut?] at h
  | cons c rest ih =>
      rw [cut?] at h
      split at h
      · -- The mark comes first.
        rename_i hc
        simp only [Option.some.injEq, Prod.mk.injEq] at h
        obtain ⟨rfl, rfl⟩ := h
        simp [hc]
      · obtain ⟨parts, hparts, heq⟩ := Option.map_eq_some_iff.1 h
        obtain ⟨left, right⟩ := parts
        simp only [Prod.mk.injEq] at heq
        obtain ⟨rfl, rfl⟩ := heq
        simp [ih hparts]

/-- The first part holds no mark. -/
theorem not_mem_of_cut? {mark : Char} {text before after : List Char}
    (h : cut? mark text = some (before, after)) : mark ∉ before := by
  induction text generalizing before with
  | nil => simp [cut?] at h
  | cons c rest ih =>
      rw [cut?] at h
      split at h
      · simp only [Option.some.injEq, Prod.mk.injEq] at h
        obtain ⟨rfl, rfl⟩ := h
        exact List.not_mem_nil
      · rename_i hc
        obtain ⟨parts, hparts, heq⟩ := Option.map_eq_some_iff.1 h
        obtain ⟨left, right⟩ := parts
        simp only [Prod.mk.injEq] at heq
        obtain ⟨rfl, rfl⟩ := heq
        intro hmem
        rcases List.mem_cons.1 hmem with heq | hmem
        · exact hc heq.symm
        · exact ih hparts hmem

def isInfix (part : List Char) : List Char → Bool
  | [] => part.isEmpty
  | c :: rest => part.isPrefixOf (c :: rest) || isInfix part rest

/-- The texts in order, with the separator between any two of them. -/
def join (separator : List Char) (texts : List (List Char)) : List Char :=
  (texts.intersperse separator).flatten

end Text
end Xacml
