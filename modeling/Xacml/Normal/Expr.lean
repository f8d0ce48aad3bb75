import Xacml.Document.Expr
import Xacml.Expr.Basic

/-!
# Normal forms of expressions

An expression is written with the canonical forms of its literals and the main URIs of its data
types.
-/

namespace Xacml

def Designator.written (d : Designator) : Document.Designator :=
  let query := d.query
  ⟨query.category, query.attributeId, query.dataType.uri, query.issuer, d.mustBePresent⟩

def Selector.written (s : Selector) : Document.Selector :=
  let query := s.query
  ⟨query.category, query.dataType.uri, query.path, query.contextSelectorId, s.mustBePresent,
    query.xpathVersion⟩

namespace Expr

mutual

def written : Expr → Document.Expr
  | value v => .value (.ofValue v)
  | designator d => .designator d.written
  | selector s => .selector s.written
  | apply f args _ => .apply f.id (writtenAll args)
  | function f => .function f.id
  | reference name _ => .variableReference name

def writtenAll : List Expr → List Document.Expr
  | [] => []
  | e :: rest => written e :: writtenAll rest

end

end Expr

def VariableDefinition.written (definition : VariableDefinition) : Document.VariableDefinition :=
  ⟨definition.id, definition.expr.written⟩

end Xacml
