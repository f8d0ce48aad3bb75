import Xacml.Document.Expr
import Xacml.Expr.Basic
import Xacml.Function.Catalog
import Xacml.Load.Error

/-!
# Loading expressions

Loading an expression finds the functions and variables that it names, and checks every
application.  A variable is loaded when it is first named, so definitions may stand in any order.

* `Loading` is a computation that may fail and that keeps the variables loaded so far,
* `Document.Expr.load` loads an expression, given how variables are found,
* `Scope.resolve` finds a variable.
-/

namespace Xacml

/-- A computation that keeps the variables loaded so far. -/
abbrev Loading (α : Type) : Type :=
  StateT (List VariableDefinition) (Except LoadError) α

def Loading.fail {α : Type} (error : LoadError) : Loading α :=
  fun _ => .error error

/-- A computation that looks at no variables. -/
def Loading.ofExcept {α : Type} : Except LoadError α → Loading α
  | .ok a => pure a
  | .error error => Loading.fail error

/-! ## Names -/

def loadDataType (uri : String) : Except LoadError DataType :=
  match DataType.ofUri? uri with
  | some type => .ok type
  | none => .error (.value (.unknownType uri))

def loadFunction (functions : FunctionRegistry) (id : String) : Except LoadError Function :=
  match functions.find? id with
  | some f => .ok f
  | none => .error (.unknownFunction id)

def loadValue (typed : TypedValue) : Except LoadError Value :=
  typed.toValue.mapError .value

namespace Document

def Designator.load (d : Designator) : Except LoadError Xacml.Designator := do
  let dataType ← loadDataType d.dataType
  return ⟨⟨d.category, d.attributeId, dataType, d.issuer⟩, d.mustBePresent⟩

def Selector.load (s : Selector) : Except LoadError Xacml.Selector := do
  let dataType ← loadDataType s.dataType
  return ⟨⟨s.category, dataType, s.contextSelectorId, s.path, s.xpathVersion⟩, s.mustBePresent⟩

/-! ## Expressions -/

namespace Expr

mutual

/-- The expression that is written; `resolve` finds the definition of a variable. -/
def load (functions : FunctionRegistry) (resolve : String → Loading Xacml.Expr) :
    Expr → Loading Xacml.Expr
  | value v => Loading.ofExcept ((loadValue v).map .value)
  | designator d => Loading.ofExcept (d.load.map .designator)
  | selector s => Loading.ofExcept (s.load.map .selector)
  | function id => Loading.ofExcept ((loadFunction functions id).map .function)
  | variableReference id => do return .reference id (← resolve id)
  | apply functionId args => do
      let f ← Loading.ofExcept (loadFunction functions functionId)
      let args ← loadAll functions resolve args
      Loading.ofExcept ((Xacml.Expr.application? f args).mapError .input)

/-- The expressions that are written, from left to right. -/
def loadAll (functions : FunctionRegistry) (resolve : String → Loading Xacml.Expr) :
    List Expr → Loading (List Xacml.Expr)
  | [] => pure []
  | e :: rest => do
      let e ← load functions resolve e
      let rest ← loadAll functions resolve rest
      return e :: rest

end

end Expr

end Document

/-! ## Variables -/

/-- What the names in the expressions of a policy stand for. -/
structure Scope where
  functions : FunctionRegistry
  definitions : List Document.VariableDefinition

namespace Scope

def definition? (scope : Scope) (id : String) : Option Document.VariableDefinition :=
  scope.definitions.find? fun definition => definition.variableId = id

/-- The definition of a variable, when as many definitions as given may still be opened and the
listed ones are open.  Every open definition is another one, so the number of definitions
suffices. -/
def resolveWithin (scope : Scope) : Nat → List String → String → Loading Expr
  | left, opened, id => do
      match (← get).find? fun loaded => loaded.id = id with
      | some loaded => return loaded.expr
      | none =>
          -- An open definition that is met again has led to itself.
          if opened.contains id then Loading.fail (.cyclicVariable id)
          else
            match scope.definition? id, left with
            | none, _ => Loading.fail (.undefinedVariable id)
            -- Not reached from `resolve`: then every definition is open, and `id` among them.
            | some _, 0 => Loading.fail (.cyclicVariable id)
            | some written, left + 1 => do
                let expr ←
                  written.expr.load scope.functions (scope.resolveWithin left (id :: opened))
                modify fun loaded => loaded ++ [⟨id, expr⟩]
                return expr

def resolve (scope : Scope) (id : String) : Loading Expr :=
  scope.resolveWithin scope.definitions.length [] id

def loadExpr (scope : Scope) (e : Document.Expr) : Loading Expr :=
  e.load scope.functions scope.resolve

/-- The first name that two definitions share. -/
def duplicate? : List String → List Document.VariableDefinition → Option String
  | _, [] => none
  | seen, definition :: rest =>
      if seen.contains definition.variableId then some definition.variableId
      else duplicate? (definition.variableId :: seen) rest

/-- The variables of a policy, in the order of their definitions. -/
def loadVariables (scope : Scope) :
    List Document.VariableDefinition → Loading (List VariableDefinition)
  | [] => pure []
  | definition :: rest => do
      let expr ← scope.resolve definition.variableId
      let rest ← loadVariables scope rest
      return ⟨definition.variableId, expr⟩ :: rest

end Scope

end Xacml
