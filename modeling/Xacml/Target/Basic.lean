import Xacml.Attribute.Query
import Xacml.Function.HigherOrder

/-!
# Targets

A target tells which requests a rule, a policy or a policy set is about.  It has one of two
layouts.

* `Match` compares a literal with the values of a lookup,
* `AllOf` and `AnyOf` are conjunctions and disjunctions,
* `Target` is either a conjunction of disjunctions or four sections of alternatives.
-/

namespace Xacml

/-! ## Matches -/

/-- A comparison of a literal with every value of a lookup. -/
structure Match where
  function : Function
  value : Value
  lookup : Lookup
  deriving Repr

/-- The match with the given parts, if the function takes the types of the literal and of the
lookup and gives a truth value. -/
def Match.make? (f : Function) (value : Value) (lookup : Lookup) : Except InputError Match := do
  let returns ←
    f.checkInputs [.value (.single value.type), .value (.single lookup.dataType)]
  if returns = .boolean then return ⟨f, value, lookup⟩
  else throw (.notBoolean "Match" f.id returns)

/-! ## Conjunctions and disjunctions -/

/-- Matches that all have to hold. -/
structure AllOf where
  conjuncts : List Match
  deriving Repr

/-- Alternatives of which one has to hold. -/
structure AnyOf where
  disjuncts : List AllOf
  deriving Repr

/-! ## Targets -/

/-- The four sections of the earlier layout.  A section without alternatives holds for every
request. -/
structure LegacyTarget where
  subjects : List AllOf
  resources : List AllOf
  actions : List AllOf
  environments : List AllOf
  deriving Repr

/-- The sections in the order of their evaluation. -/
def LegacyTarget.sections (target : LegacyTarget) : List (List AllOf) :=
  [target.subjects, target.resources, target.actions, target.environments]

/-- Which requests something is about. -/
inductive Target
  | legacy (sections : LegacyTarget)
  | anyOf (conjuncts : List AnyOf)
  deriving Repr

namespace Target

/-- The target that holds for every request. -/
def any : Target := anyOf []

/-- Whether the target holds for every request without a look at it. -/
def matchesAny : Target → Bool
  | legacy target => target.sections.all List.isEmpty
  | anyOf conjuncts => conjuncts.isEmpty

/-- Every match of the target, in the order of evaluation. -/
def allMatches : Target → List Match
  | legacy target => target.sections.flatten.flatMap AllOf.conjuncts
  | anyOf conjuncts => (conjuncts.flatMap AnyOf.disjuncts).flatMap AllOf.conjuncts

end Target

end Xacml
