import Xacml.Regex.Basic

/-!
# Nesting

A pattern is refused if it has too many levels.  Repetitions, groups and classes in brackets are
levels, and so are alternatives, parts that follow one another, and the operators and the items of a
class.

* `Regex.Nested` is a part of a pattern with the number of its levels,
* `maxNesting` is the limit.

A pattern may also be refused because its automaton would take too much memory.  This depends on how
the automaton is built, and is left out here.
-/

namespace Xacml
namespace Regex

/-- A part of a pattern, with the number of levels in it. -/
structure Nested (α : Type) where
  value : α
  levels : Nat

/-- The levels of several parts together; a single part is no level of its own. -/
def levelsOf : List Nat → Nat
  | [] => 0
  | [levels] => levels
  | all => all.foldr max 0 + 1

namespace Nested

variable {α β : Type}

def flat (value : α) : Nested α := ⟨value, 0⟩

def within (f : α → β) (part : Nested α) : Nested β := ⟨f part.value, part.levels + 1⟩

end Nested

def maxNesting : Nat := 250

end Regex
end Xacml
