import Xacml.Decision

/-!
# Attribute queries

* `AttributeQuery` asks for the values of an attribute, `PathQuery` for what a path selects,
* `Designator` and `Selector` are the expressions that make such queries; they may require that
  something is found,
* `Lookup` is either of the two.
-/

namespace Xacml

/-! ## Queries -/

/-- A query for the values of an attribute of one data type; an issuer restricts it. -/
structure AttributeQuery where
  category : String
  attributeId : String
  dataType : DataType
  issuer : Option String
  deriving DecidableEq, Repr

/-- A query for the values of one data type that a path selects from the content of a category. -/
structure PathQuery where
  category : String
  dataType : DataType
  contextSelectorId : Option String
  path : String
  xpathVersion : Option String
  deriving DecidableEq, Repr

/-! ## Expressions that make queries -/

/-- An expression for the values of an attribute. -/
structure Designator where
  query : AttributeQuery
  mustBePresent : Bool
  deriving DecidableEq, Repr

/-- An expression for what a path selects. -/
structure Selector where
  query : PathQuery
  mustBePresent : Bool
  deriving DecidableEq, Repr

def Designator.missing (designator : Designator) : MissingAttribute :=
  let query := designator.query
  ⟨query.category, query.attributeId, query.dataType, query.issuer⟩

/-- What is missing if nothing is selected; the path stands for the attribute. -/
def Selector.missing (selector : Selector) : MissingAttribute :=
  let query := selector.query
  ⟨query.category, query.path, query.dataType, none⟩

/-- Where a match finds the values that it compares. -/
inductive Lookup
  | designator (d : Designator)
  | selector (s : Selector)
  deriving DecidableEq, Repr

namespace Lookup

def dataType : Lookup → DataType
  | designator d => d.query.dataType
  | selector s => s.query.dataType

def mustBePresent : Lookup → Bool
  | designator d => d.mustBePresent
  | selector s => s.mustBePresent

def missing : Lookup → MissingAttribute
  | designator d => d.missing
  | selector s => s.missing

end Lookup

end Xacml
