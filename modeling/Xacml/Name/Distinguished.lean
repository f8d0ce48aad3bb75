import Xacml.Text.Blank
import Xacml.Text.Cut
import Xacml.Text.Letter

/-!
# Distinguished names

An X.500 distinguished name is a sequence of attribute types with values, separated by commas or
semicolons.  A backslash takes the meaning of a separator away from the character after it.

* `DistinguishedName.read` reads a name,
* `DistinguishedName.components` is its normal form, by which names are compared,
* `DistinguishedName.isTerminalOf` tells whether a name ends another one.
-/

namespace Xacml

/-- One attribute type with its value: the type in capitals, the value in small letters, both
without white space around them. -/
structure RelativeName where
  type : List Char
  value : List Char
  deriving DecidableEq, Repr

/-- A distinguished name together with the text it was read from. -/
structure DistinguishedName where
  components : List RelativeName
  text : List Char
  deriving DecidableEq, Repr

namespace DistinguishedName

/-! ## Reading -/

/-- Whether a character separates two components. -/
def isSeparator (c : Char) : Bool :=
  c == ',' || c == ';'

/-- The parts between the separators that no backslash precedes.  `escaped` tells whether a
backslash precedes the next character, and `part` holds the characters of the current part, last one
first. -/
def splitFrom (escaped : Bool) (part : List Char) : List Char → List (List Char)
  | [] => [part.reverse]
  | c :: rest =>
      if c = '\\' && !escaped then splitFrom true (c :: part) rest
      else if isSeparator c && !escaped then part.reverse :: splitFrom false [] rest
      else splitFrom false (c :: part) rest

/-- The parts of a text between its separators. -/
def split (text : List Char) : List (List Char) :=
  splitFrom false [] text

/-- The component that a part denotes; a part without a type is refused. -/
def readComponent (part : List Char) : Except (List Char) RelativeName :=
  match Text.cut? '=' part with
  | some (type, value) =>
      if (Text.trim type).isEmpty then .error part
      else .ok ⟨Text.upperAscii (Text.trim type), Text.lowercase (Text.trim value)⟩
  | none => .error part

/-- The name that a text denotes, or the first part that is no component. -/
def read (text : List Char) : Except (List Char) DistinguishedName :=
  ((split text).mapM readComponent).map fun components => ⟨components, text⟩

/-! ## Comparing -/

def same (a b : DistinguishedName) : Bool :=
  a.components == b.components

/-- Whether the components of a name end those of another one. -/
def isTerminalOf (name other : DistinguishedName) : Bool :=
  name.components.isSuffixOf other.components

end DistinguishedName

end Xacml
