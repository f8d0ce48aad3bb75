import Xacml.Value.Lexical

/-!
# Bags

A bag is a multiset of values of one data type.  Its members keep the order in which they were put
in, but bags are compared by how often each value occurs.

* `Bag` is the type; every member has its data type,
* `Bag.count` tells how often a value occurs, and `Bag.same` compares bags by it,
* `Bag.ofList` checks the members, `Bag.union?` is the union of multisets,
* `Datum` is one value or a bag: what an expression evaluates to.
-/

namespace Xacml

/-! ## Bags -/

/-- A multiset of values of one data type. -/
structure Bag where
  type : DataType
  members : List Value
  typed : ∀ v ∈ members, v.type = type

/-- A value that cannot be a member of a bag, because the bag has another data type. -/
structure BagError where
  expected : DataType
  value : Value
  deriving DecidableEq, Repr

def BagError.message (error : BagError) : String :=
  let expected := error.expected.name
  let text := error.value.text
  let actual := error.value.type.name
  s!"bag of {expected} cannot hold `{text}`, which is a {actual}"

namespace Bag

def empty (type : DataType) : Bag :=
  ⟨type, [], fun _ h => by cases h⟩

def singleton (value : Value) : Bag :=
  ⟨value.type, [value], fun _ h => by rw [List.mem_singleton.1 h]⟩

/-- The bag of the given members, unless one of them has another data type; the first such member
is reported. -/
def ofList (type : DataType) (members : List Value) : Except BagError Bag :=
  match h : members.find? (fun v => v.type ≠ type) with
  | some value => .error ⟨type, value⟩
  | none => .ok ⟨type, members, fun v hv => by simpa using List.find?_eq_none.1 h v hv⟩

def filter (keep : Value → Bool) (bag : Bag) : Bag :=
  ⟨bag.type, bag.members.filter keep, fun v hv => bag.typed v (List.mem_filter.1 hv).1⟩

def isEmpty (bag : Bag) : Bool :=
  bag.members.isEmpty

/-- The number of members, repeated ones counted. -/
def size (bag : Bag) : Nat :=
  bag.members.length

def single? (bag : Bag) : Option Value :=
  match bag.members with
  | [value] => some value
  | _ => none

def countIn (members : List Value) (value : Value) : Nat :=
  members.countP value.same

def count (bag : Bag) (value : Value) : Nat :=
  countIn bag.members value

def contains (bag : Bag) (value : Value) : Bool :=
  bag.members.any value.same

/-- The values of a list without repetitions, each where it occurs first. -/
def distinctOf : List Value → List Value
  | [] => []
  | value :: rest => value :: (distinctOf rest).filter fun other => !value.same other

def distinct (bag : Bag) : List Value :=
  distinctOf bag.members

/-- Whether two bags have one data type and each value occurs as often in one as in the other. -/
def same (a b : Bag) : Bool :=
  decide (a.type = b.type) && decide (a.size = b.size) &&
    a.members.all fun value => a.count value == b.count value

/-- The copies of a value of `other` that `bag` lacks. -/
def missing (bag other : Bag) (value : Value) : List Value :=
  List.replicate (other.count value - bag.count value) value

/-- The values that occur in a list without repetitions occur in the list. -/
theorem mem_of_mem_distinctOf {members : List Value} {value : Value}
    (h : value ∈ distinctOf members) : value ∈ members := by
  induction members with
  | nil => simp [distinctOf] at h
  | cons first rest ih =>
      rcases List.mem_cons.1 h with rfl | h
      · exact List.mem_cons_self
      · exact List.mem_cons_of_mem _ (ih (List.mem_filter.1 h).1)

/-- The union of two bags of one data type: a value occurs as often as in the bag that holds more
copies of it. -/
def union? (a b : Bag) : Option Bag :=
  if h : a.type = b.type then
    some
      { type := a.type
        members := a.members ++ b.distinct.flatMap (a.missing b)
        typed := by
          intro v hv
          rcases List.mem_append.1 hv with hv | hv
          · exact a.typed v hv
          · -- A copy that is added is a copy of a member of the other bag.
            obtain ⟨w, hw, hvw⟩ := List.mem_flatMap.1 hv
            rw [List.eq_of_mem_replicate hvw, h]
            exact b.typed w (mem_of_mem_distinctOf hw) }
  else none

def text (bag : Bag) : String :=
  let members := String.intercalate ", " (bag.members.map Value.text)
  (ValueType.bag bag.type).text ++ "\x7b" ++ members ++ "\x7d"

end Bag

/-! ## Results of expressions -/

inductive Datum
  | single (value : Value)
  | bag (members : Bag)

namespace Datum

def type : Datum → ValueType
  | single value => .single value.type
  | bag members => .bag members.type

def ofBool (b : Bool) : Datum :=
  .single (.boolean b)

def text : Datum → String
  | single value => value.text
  | bag members => members.text

end Datum

end Xacml
