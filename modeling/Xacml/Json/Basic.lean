/-!
# JSON values

* `Json.Number` separates the whole numbers from the other ones, whose text is kept,
* `Json` is the type of values; the members of an object keep their order and may repeat a name.
-/

namespace Xacml

/-! ## Numbers -/

/-- A number of a JSON text: a whole number within 64 bits, or any other one as it is written. -/
inductive Json.Number
  | whole (n : Int)
  | written (text : String)
  deriving DecidableEq, Repr

/-! ## Values -/

inductive Json
  | null
  | bool (b : Bool)
  | number (n : Json.Number)
  | string (s : String)
  | array (items : List Json)
  | object (members : List (String × Json))
  deriving Repr

namespace Json

def ofInt (n : Int) : Json :=
  .number (.whole n)

def ofNat (n : Nat) : Json :=
  .number (.whole n)

/-- The first member of the given name of an object. -/
def get? (json : Json) (name : String) : Option Json :=
  match json with
  | .object members => members.lookup name
  | _ => none

def asString? : Json → Option String
  | .string s => some s
  | _ => none

def asBool? : Json → Option Bool
  | .bool b => some b
  | _ => none

/-- The value of a whole number that is not negative. -/
def asNat? : Json → Option Nat
  | .number (.whole n) => if 0 ≤ n then some n.toNat else none
  | _ => none

def asArray? : Json → Option (List Json)
  | .array items => some items
  | _ => none

/-! ## Nesting -/

mutual

/-- How deeply arrays and objects are nested in a value. -/
def height : Json → Nat
  | array items => itemsHeight items + 1
  | object members => membersHeight members + 1
  | _ => 0

def itemsHeight : List Json → Nat
  | [] => 0
  | item :: items => max (height item) (itemsHeight items)

/-- The greatest height of the value of a member. -/
def membersHeight : List (String × Json) → Nat
  | [] => 0
  | (_, value) :: members => max (height value) (membersHeight members)

end

end Json

end Xacml
