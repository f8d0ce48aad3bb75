import Xacml.Attribute.Query
import Xacml.Function.HigherOrder

/-!
# Expressions

* `Expr` is the type of expressions; an application carries the type of its result, and a
  reference to a variable carries the definition,
* `Expr.type?` is the static type of an expression,
* `Expr.application?` builds an application whose arguments fit.
-/

namespace Xacml

inductive Expr
  | value (v : Value)
  | designator (d : Designator)
  | selector (s : Selector)
  | apply (f : Function) (args : List Expr) (returns : ValueType)
  | function (f : Function)
  | reference (name : String) (definition : Expr)
  deriving Repr

namespace Expr

/-- How an expression looks to the input check of a function. -/
def argType : Expr → ArgType
  | value v => .value (.single v.type)
  | designator d => .value (.bag d.query.dataType)
  | selector s => .value (.bag s.query.dataType)
  | apply _ _ returns => .value returns
  | function f => .function f
  | reference _ definition => definition.argType

/-- The static type of an expression; a function has none. -/
def type? (e : Expr) : Option ValueType :=
  match e.argType with
  | .value type => some type
  | .function _ => none

/-- The application of a function, if the function takes the arguments. -/
def application? (f : Function) (args : List Expr) : Except InputError Expr :=
  (f.checkInputs (args.map argType)).map (apply f args)

def function? : Expr → Option Function
  | function f => some f
  | _ => none

/-- An application has the type that its function gives for the arguments. -/
theorem argType_of_application? {f : Function} {args : List Expr} {e : Expr}
    (h : application? f args = .ok e) :
    ∃ type, f.checkInputs (args.map argType) = .ok type ∧ e.argType = .value type := by
  unfold application? at h
  cases hc : f.checkInputs (args.map argType) with
  | error error =>
      rw [hc] at h
      cases h
  | ok type =>
      rw [hc] at h
      cases h
      exact ⟨type, rfl, rfl⟩

end Expr

structure VariableDefinition where
  id : String
  expr : Expr
  deriving Repr

end Xacml
