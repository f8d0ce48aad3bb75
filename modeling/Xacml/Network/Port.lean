import Xacml.Text.Cut
import Xacml.Text.Numeral

/-!
# Port ranges

A range of port numbers is written `N`, `N-`, `-N` or `N-M`.  A bound that is left out does not
restrict the range.

* `PortRange.read` reads a range,
* `PortRange.write` writes it,
* `PortRange.contains` tells which ports belong to it.
-/

namespace Xacml

structure PortRange where
  lower : Option Nat
  upper : Option Nat
  deriving DecidableEq, Repr

namespace PortRange

def all : PortRange := ⟨none, none⟩

inductive Fault
  | notPort (text : List Char)
  | crossed
  deriving DecidableEq, Repr

def Fault.message : Fault → String
  | notPort text =>
      let shown := String.ofList text
      s!"`{shown}` is not a port number"
  | crossed => "port range lower bound exceeds upper bound"

/-- The bound that a text denotes; an empty one is left out. -/
def readBound (text : List Char) : Except Fault (Option Nat) :=
  if text.isEmpty then .ok none
  else
    match Text.unsigned? 65535 text with
    | some port => .ok (some port)
    | none => .error (.notPort text)

def read (text : List Char) : Except Fault PortRange :=
  match Text.cut? '-' text with
  | none => (readBound text).map fun port => ⟨port, port⟩
  | some (low, high) => do
      let lower ← readBound low
      let upper ← readBound high
      match lower, upper with
      | some l, some u => if u < l then throw .crossed else return ⟨lower, upper⟩
      | _, _ => return ⟨lower, upper⟩

def writeBound : Option Nat → List Char
  | some port => Text.decimal port
  | none => []

def write (range : PortRange) : List Char :=
  match range.lower, range.upper with
  | some l, some u =>
      if l = u then Text.decimal l else Text.decimal l ++ '-' :: Text.decimal u
  | lower, upper => writeBound lower ++ '-' :: writeBound upper

/-- Whether a range does not restrict the port. -/
def isUnbounded (range : PortRange) : Bool :=
  range.lower.isNone && range.upper.isNone

def contains (range : PortRange) (port : Nat) : Bool :=
  range.lower.all (· ≤ port) && range.upper.all (port ≤ ·)

/-- A range after a colon, unless it does not restrict the port. -/
def writeAfterColon (range : PortRange) : List Char :=
  if range.isUnbounded then [] else ':' :: range.write

end PortRange

end Xacml
