import Xacml.Document.Target
import Xacml.Load.Expr
import Xacml.Target.Basic

/-!
# Loading targets

The layout of a target has to be the one of its edition of the policy language.
-/

namespace Xacml
namespace Document

def Lookup.load : Lookup → Except LoadError Xacml.Lookup
  | designator d => d.load.map .designator
  | selector s => s.load.map .selector

def Match.load (functions : FunctionRegistry) (mt : Match) : Except LoadError Xacml.Match := do
  let lookup ← mt.lookup.load
  let f ← loadFunction functions mt.matchId
  let value ← loadValue mt.value
  (Xacml.Match.make? f value lookup).mapError .input

def AllOf.load (functions : FunctionRegistry) (group : AllOf) : Except LoadError Xacml.AllOf := do
  return ⟨← group.conjuncts.mapM (Match.load functions)⟩

def AnyOf.load (functions : FunctionRegistry) (group : AnyOf) : Except LoadError Xacml.AnyOf := do
  return ⟨← group.disjuncts.mapM (AllOf.load functions)⟩

def LegacyTarget.load (functions : FunctionRegistry) (target : LegacyTarget) :
    Except LoadError Xacml.LegacyTarget := do
  let subjects ← target.subjects.mapM (AllOf.load functions)
  let resources ← target.resources.mapM (AllOf.load functions)
  let actions ← target.actions.mapM (AllOf.load functions)
  let environments ← target.environments.mapM (AllOf.load functions)
  return ⟨subjects, resources, actions, environments⟩

/-- The target that is written in a policy of an edition. -/
def Target.load (functions : FunctionRegistry) (schema : SchemaVersion) :
    Target → Except LoadError Xacml.Target
  | anyOf conjuncts =>
      if schema.isLegacy then .error (.badLayout schema .anyOf)
      else do return .anyOf (← conjuncts.mapM (AnyOf.load functions))
  | legacy sections =>
      if schema.isLegacy then do return .legacy (← sections.load functions)
      else .error (.badLayout schema .legacy)

def loadTarget? (functions : FunctionRegistry) (schema : SchemaVersion) :
    Option Target → Except LoadError (Option Xacml.Target)
  | none => .ok none
  | some target => (target.load functions schema).map some

end Document
end Xacml
