import Xacml.Text.Cut
import Xacml.Text.Numeral

/-!
# Policy versions

A version is a sequence of numbers, written with points between them.

* `Version.read` and `Version.write` convert between versions and texts,
* `Version.order` compares versions number by number, where missing numbers count as zero,
* `SchemaVersion` names the editions of the policy language.
-/

namespace Xacml

/-! ## Versions -/

structure Version where
  numbers : List Nat
  deriving DecidableEq, Repr

structure VersionFault where
  text : String
  deriving DecidableEq, Repr

def VersionFault.message (fault : VersionFault) : String :=
  let text := fault.text
  s!"invalid version `{text}`"

namespace Version

def maxNumber : Nat := Nat.pow 2 32 - 1

/-- The version of a policy that does not give one. -/
def initial : Version := ⟨[1, 0]⟩

def read (text : String) : Except VersionFault Version :=
  match (text.toList.splitOn '.').mapM (Text.natural? maxNumber) with
  | some numbers => .ok ⟨numbers⟩
  | none => .error ⟨text⟩

def write (version : Version) : String :=
  String.ofList (Text.join ['.'] (version.numbers.map Text.decimal))

/-! ## Order -/

/-- Compares sequences of numbers, where missing numbers count as zero. -/
def orderOf : List Nat → List Nat → Ordering
  | [], [] => .eq
  | [], b :: bs => (compare 0 b).then (orderOf [] bs)
  | a :: as, [] => (compare a 0).then (orderOf as [])
  | a :: as, b :: bs => (compare a b).then (orderOf as bs)

/-- Compares versions; the later one is greater. -/
def order (a b : Version) : Ordering :=
  orderOf a.numbers b.numbers

end Version

/-! ## Editions of the policy language -/

/-- An edition of the policy language. -/
inductive SchemaVersion
  | v1_0
  | v1_1
  | v2_0
  | v3_0
  deriving DecidableEq, Repr

namespace SchemaVersion

def text : SchemaVersion → String
  | v1_0 => "1.0"
  | v1_1 => "1.1"
  | v2_0 => "2.0"
  | v3_0 => "3.0"

def read? : String → Option SchemaVersion
  | "1.0" => some v1_0
  | "1.1" => some v1_1
  | "2.0" => some v2_0
  | "3.0" => some v3_0
  | _ => none

/-- Whether an edition has the earlier form of targets, and no detail in Indeterminate results. -/
def isLegacy (version : SchemaVersion) : Bool :=
  version ≠ v3_0

end SchemaVersion

end Xacml
