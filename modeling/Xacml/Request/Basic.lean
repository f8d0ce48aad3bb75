import Xacml.Attribute.Query
import Xacml.Choices
import Xacml.Value.Bag

/-!
# Requests

A request describes an access by attributes, which are grouped in categories.

* `Request.find` gives the values that a query asks for,
* `Request.individual` splits a request in which categories repeat into one request for each
  choice of one occurrence of every category,
* `Request.echoed` gives the attributes to be returned.
-/

namespace Xacml

/-! ## Types -/

/-- An attribute with its values, which may be of several types. -/
structure Request.Attribute where
  id : String
  issuer : Option String
  values : List Value
  includeInResult : Bool
  deriving DecidableEq, Repr

/-- The attributes of one category. -/
structure Request.Category where
  uri : String
  attributes : List Request.Attribute
  deriving DecidableEq, Repr

structure Request where
  categories : List Request.Category
  returnPolicyIdList : Bool
  combinedDecision : Bool
  deriving DecidableEq, Repr

namespace Request

/-! ## Building -/

def empty : Request := ⟨[], false, false⟩

/-- Adds an attribute to the last category with a URI; `none` if there is no such category. -/
def addToLast? (uri : String) (added : Attribute) : List Category → Option (List Category)
  | [] => none
  | category :: rest =>
      match addToLast? uri added rest with
      | some rest => some (category :: rest)
      | none =>
          if category.uri = uri then
            some ({ category with attributes := category.attributes ++ [added] } :: rest)
          else none

/-- Adds an attribute to the last category with a URI, or in a new category. -/
def addAttribute (request : Request) (uri : String) (added : Attribute) : Request :=
  let categories := match addToLast? uri added request.categories with
    | some categories => categories
    | none => request.categories ++ [⟨uri, [added]⟩]
  { request with categories }

/-- Adds a category, even if there is one with its URI. -/
def addCategory (request : Request) (category : Category) : Request :=
  { request with categories := request.categories ++ [category] }

/-! ## Finding values -/

/-- Whether a query asks for an attribute of its category. -/
def Attribute.answers (candidate : Attribute) (query : AttributeQuery) : Bool :=
  candidate.id == query.attributeId &&
    query.issuer.all fun issuer => candidate.issuer == some issuer

/-- The values of the attributes that a query asks for, whatever their types. -/
def valuesFor (request : Request) (query : AttributeQuery) : List Value :=
  let categories := request.categories.filter fun category => category.uri == query.category
  let attributes := (categories.flatMap Category.attributes).filter (·.answers query)
  attributes.flatMap Attribute.values

/-- The bag of the values that a query asks for. -/
def find (request : Request) (query : AttributeQuery) : Bag where
  type := query.dataType
  members := (request.valuesFor query).filter fun value => value.type = query.dataType
  typed := fun value h => by simpa using (List.mem_filter.1 h).2

/-! ## Individual requests -/

def uris (request : Request) : List String :=
  (request.categories.map Category.uri).eraseDups

/-- Whether some category occurs more than once. -/
def hasRepeatedCategories (request : Request) : Bool :=
  request.uris.length < request.categories.length

def occurrences (request : Request) (uri : String) : List Category :=
  request.categories.filter fun category => category.uri = uri

/-- One request for each choice of one occurrence of every category; a request in which no
category repeats is left as it is. -/
def individual (request : Request) : List Request :=
  if request.hasRepeatedCategories then
    (choices (request.uris.map request.occurrences)).map fun categories =>
      { request with categories, combinedDecision := false }
  else [request]

/-! ## Echo -/

/-- The attributes of a category that are to be returned, if there are any. -/
def Category.echoed? (category : Category) : Option Category :=
  let attributes := category.attributes.filter Attribute.includeInResult
  if attributes.isEmpty then none else some { category with attributes }

def echoed (request : Request) : List Category :=
  request.categories.filterMap Category.echoed?

end Request

end Xacml
