import Xacml.Json.Record
import Xacml.Version.Basic

/-!
# Version patterns

A pattern is written like a version; `*` stands for any number, and `+` at the end for any further
numbers.

* `VersionPattern.accepts` tells which versions a pattern matches,
* `VersionPattern.lowerBounds` and `VersionPattern.upperBounds` compare a version with the least
  and the greatest version that a pattern matches,
* `VersionConstraints` collects what a reference asks of a version.
-/

namespace Xacml

/-! ## Patterns -/

inductive VersionPattern.Part
  | number (n : Nat)
  | any
  | rest
  deriving DecidableEq, Repr

structure VersionPattern where
  parts : List VersionPattern.Part
  deriving DecidableEq, Repr

namespace VersionPattern

def readPart? : List Char → Option Part
  | ['*'] => some .any
  | ['+'] => some .rest
  | text => (Text.natural? Version.maxNumber text).map .number

/-- The pattern that a text denotes; `+` stands only at the end. -/
def read (text : String) : Except VersionFault VersionPattern :=
  match (text.toList.splitOn '.').mapM readPart? with
  | some parts => if parts.dropLast.contains .rest then .error ⟨text⟩ else .ok ⟨parts⟩
  | none => .error ⟨text⟩

def writePart : Part → List Char
  | .number n => Text.decimal n
  | .any => ['*']
  | .rest => ['+']

def write (pattern : VersionPattern) : String :=
  String.ofList (Text.join ['.'] (pattern.parts.map writePart))

/-! ## Matching -/

/-- Whether numbers match the parts of a pattern. -/
def acceptsFrom : List Part → List Nat → Bool
  | [], [] => true
  | .rest :: _, _ => true
  | .any :: parts, _ :: numbers => acceptsFrom parts numbers
  | .number n :: parts, m :: numbers => n == m && acceptsFrom parts numbers
  | _, _ => false

def accepts (pattern : VersionPattern) (version : Version) : Bool :=
  acceptsFrom pattern.parts version.numbers

/-! ## Bounds -/

/-- Compares numbers with the parts of a pattern.  `wild` is the answer at a wildcard: greater if
the wildcard counts as the least number, less if it counts as the greatest. -/
def orderFrom (wild : Ordering) : List Part → List Nat → Ordering
  | [], numbers => if numbers.any (0 < ·) then .gt else .eq
  | .number n :: parts, [] => (compare 0 n).then (orderFrom wild parts [])
  | .number n :: parts, m :: numbers => (compare m n).then (orderFrom wild parts numbers)
  | .any :: _, _ | .rest :: _, _ => wild

/-- Whether a version is no earlier than a pattern, where wildcards stand for the least
numbers. -/
def lowerBounds (pattern : VersionPattern) (version : Version) : Bool :=
  orderFrom .gt pattern.parts version.numbers != .lt

/-- Whether a version is no later than a pattern, where wildcards stand for the greatest
numbers. -/
def upperBounds (pattern : VersionPattern) (version : Version) : Bool :=
  orderFrom .lt pattern.parts version.numbers != .gt

end VersionPattern

/-! ## Constraints -/

/-- What a reference asks of the version of what it refers to. -/
structure VersionConstraints where
  version : Option VersionPattern
  earliest : Option VersionPattern
  latest : Option VersionPattern
  deriving DecidableEq, Repr

namespace VersionConstraints

/-- Whether a version satisfies all constraints. -/
def satisfiedBy (constraints : VersionConstraints) (version : Version) : Bool :=
  constraints.version.all (·.accepts version) &&
    constraints.earliest.all (·.lowerBounds version) &&
    constraints.latest.all (·.upperBounds version)

def readPattern? (json : Json) : Option VersionPattern :=
  json.asString?.bind fun text => (VersionPattern.read text).toOption

def ofJson? (json : Json) : Option VersionConstraints := do
  match ← Json.fields? ["version", "earliest", "latest"] .isOpen json with
  | [version, earliest, latest] =>
      return {
        version := ← Json.optional readPattern? version
        earliest := ← Json.optional readPattern? earliest
        latest := ← Json.optional readPattern? latest }
  | _ => none

def toJson (constraints : VersionConstraints) : Json :=
  .object
    (Json.optionalField "version" (constraints.version.map VersionPattern.write) ++
      Json.optionalField "earliest" (constraints.earliest.map VersionPattern.write) ++
      Json.optionalField "latest" (constraints.latest.map VersionPattern.write))

end VersionConstraints

end Xacml
