import Xacml.Document.Target
import Xacml.Normal.Expr
import Xacml.Target.Basic

/-!
# Normal forms of targets

A target that holds for every request is not written.
-/

namespace Xacml

def Lookup.written : Lookup → Document.Lookup
  | designator d => .designator d.written
  | selector s => .selector s.written

def Match.written (mt : Match) : Document.Match :=
  ⟨mt.function.id, .ofValue mt.value, mt.lookup.written⟩

def AllOf.written (group : AllOf) : Document.AllOf :=
  ⟨group.conjuncts.map Match.written⟩

def AnyOf.written (group : AnyOf) : Document.AnyOf :=
  ⟨group.disjuncts.map AllOf.written⟩

/-- The written form of the sections of the earlier layout. -/
def LegacyTarget.written (target : LegacyTarget) : Document.LegacyTarget where
  subjects := target.subjects.map AllOf.written
  resources := target.resources.map AllOf.written
  actions := target.actions.map AllOf.written
  environments := target.environments.map AllOf.written

/-- The written form of a target, unless it holds for every request. -/
def Target.written? (target : Target) : Option Document.Target :=
  if target.matchesAny then none
  else
    match target with
    | .legacy sections => some (.legacy sections.written)
    | .anyOf conjuncts => some (.anyOf (conjuncts.map AnyOf.written))

end Xacml
