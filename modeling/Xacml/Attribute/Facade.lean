import Xacml.Request.Basic
import Xacml.Evaluation.Error

/-!
# Finding attributes

Attributes are looked for in the request, then with the clock, and then with resolvers.

* `Clock` is the time of an evaluation, and `Clock.value?` the attributes that tell it,
* `Resolver` is a source of attributes outside the request; asking it may have effects of a monad,
* `Facade.find` and `Facade.select` look for the answer of a query,
* `Facade.designate`, `Facade.choose` and `Facade.look` also check that something is found if it
  has to be.
-/

namespace Xacml

/-! ## The clock -/

/-- The time at which a request is evaluated. -/
structure Clock where
  now : DateTime
  deriving DecidableEq, Repr

namespace Clock

/-- The category of the attributes of the environment. -/
def environment : String := "urn:oasis:names:tc:xacml:3.0:attribute-category:environment"

def valueOf? (clock : Clock) : String → Option Value
  | "urn:oasis:names:tc:xacml:1.0:environment:current-time" => some (.time clock.now.time)
  | "urn:oasis:names:tc:xacml:1.0:environment:current-date" => some (.date clock.now.date)
  | "urn:oasis:names:tc:xacml:1.0:environment:current-dateTime" => some (.dateTime clock.now)
  | _ => none

/-- The value that answers a query, if it asks for a time attribute by its type and by no
issuer. -/
def value? (clock : Clock) (query : AttributeQuery) : Option Value :=
  if query.category = environment ∧ query.issuer = none then
    (clock.valueOf? query.attributeId).filter fun value => value.type = query.dataType
  else none

end Clock

/-! ## Resolvers -/

/-- A source of attributes outside the request.  An empty bag says that it knows nothing. -/
structure Resolver (m : Type → Type) where
  find : AttributeQuery → Request → m (Except EvaluationError Bag)
  select : PathQuery → Request → m (Except EvaluationError Bag)

def Resolver.withoutPaths {m : Type → Type} [Monad m]
    (find : AttributeQuery → Request → m (Except EvaluationError Bag)) : Resolver m where
  find := find
  select := fun query _ => pure (.ok (.empty query.dataType))

/-- Everything that may be consulted while a request is evaluated. -/
structure Facade (m : Type → Type) where
  request : Request
  clock : Clock
  resolvers : List (Resolver m)

/-! ## Looking for attributes -/

/-- What the answer of a resolver means: it settles the lookup if it is an error or if it is not
empty. -/
def settle? (expected : DataType) :
    Except EvaluationError Bag → Option (Except EvaluationError Bag)
  | .error error => some (.error (.of (.resolution error.message)))
  | .ok bag =>
      if bag.type ≠ expected then
        let actual := bag.type.name
        let wanted := expected.name
        let reason := s!"resolver returned a bag of {actual} where {wanted} was requested"
        some (.error (.of (.resolution reason)))
      else if bag.isEmpty then none
      else some (.ok bag)

section

variable {m : Type → Type} [Monad m]

/-- Asks one resolver after the other until the lookup is settled. -/
def askEach (expected : DataType) (ask : Resolver m → m (Except EvaluationError Bag)) :
    List (Resolver m) → m (Except EvaluationError Bag)
  | [] => pure (.ok (.empty expected))
  | resolver :: rest => do
      match settle? expected (← ask resolver) with
      | some answer => pure answer
      | none => askEach expected ask rest

namespace Facade

/-- The values of an attribute: those in the request, else that of the clock, else those that a
resolver knows. -/
def find (facade : Facade m) (query : AttributeQuery) : m (Except EvaluationError Bag) :=
  let bag := facade.request.find query
  if bag.isEmpty then
    match facade.clock.value? query with
    | some value => pure (.ok (.singleton value))
    | none =>
        askEach query.dataType (fun resolver => resolver.find query facade.request)
          facade.resolvers
  else pure (.ok bag)

/-- The values that a path selects, according to the resolvers. -/
def select (facade : Facade m) (query : PathQuery) : m (Except EvaluationError Bag) :=
  askEach query.dataType (fun resolver => resolver.select query facade.request) facade.resolvers

end Facade

/-- Turns an empty answer into an error if something has to be found. -/
def requirePresent (mustBePresent : Bool) (missing : MissingAttribute) :
    Except EvaluationError Bag → Except EvaluationError Bag
  | .error error => .error error
  | .ok bag =>
      if bag.isEmpty && mustBePresent then .error (.of (.missing missing)) else .ok bag

namespace Facade

def designate (facade : Facade m) (d : Designator) : m (Except EvaluationError Bag) := do
  return requirePresent d.mustBePresent d.missing (← facade.find d.query)

def choose (facade : Facade m) (s : Selector) : m (Except EvaluationError Bag) := do
  return requirePresent s.mustBePresent s.missing (← facade.select s.query)

def look (facade : Facade m) : Lookup → m (Except EvaluationError Bag)
  | .designator d => facade.designate d
  | .selector s => facade.choose s

end Facade

end

end Xacml
