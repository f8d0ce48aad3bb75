import Xacml.Json.Basic
import Xacml.Text.Cut
import Xacml.Text.Numeral

/-!
# Writing JSON texts

* `Json.render` writes a value without white space,
* `Json.renderPretty` writes one item or member a line, each level two columns further in.
-/

namespace Xacml
namespace Json

/-! ## Strings and numbers -/

/-- Lower-case hexadecimal digits of a control character, two of them. -/
def controlDigits (c : Char) : List Char :=
  [Nat.digitChar (c.toNat / 16), Nat.digitChar (c.toNat % 16)]

/-- A character of a string as it is written. -/
def writeChar (c : Char) : List Char :=
  if c = '"' then ['\\', '"']
  else if c = '\\' then ['\\', '\\']
  else if c = '\n' then ['\\', 'n']
  else if c = '\r' then ['\\', 'r']
  else if c = '\t' then ['\\', 't']
  else if c.toNat = 8 then ['\\', 'b']
  else if c.toNat = 12 then ['\\', 'f']
  else if c.toNat < 0x20 then ['\\', 'u', '0', '0'] ++ controlDigits c
  else [c]

def writeString (s : String) : List Char :=
  '"' :: s.toList.flatMap writeChar ++ ['"']

def writeNumber : Number → List Char
  | .whole n => Text.decimalInt n
  | .written text => text.toList

/-! ## Without white space -/

mutual

/-- The text of a value, without white space. -/
def write : Json → List Char
  | .null => ['n', 'u', 'l', 'l']
  | .bool true => ['t', 'r', 'u', 'e']
  | .bool false => ['f', 'a', 'l', 's', 'e']
  | .number n => writeNumber n
  | .string s => writeString s
  | .array items => '[' :: writeItems items ++ [']']
  | .object members => '{' :: writeMembers members ++ ['}']

/-- The items of an array with commas between them. -/
def writeItems : List Json → List Char
  | [] => []
  | [item] => write item
  | item :: items => write item ++ ',' :: writeItems items

/-- The members of an object with commas between them. -/
def writeMembers : List (String × Json) → List Char
  | [] => []
  | [(name, value)] => writeString name ++ ':' :: write value
  | (name, value) :: members =>
      writeString name ++ ':' :: write value ++ ',' :: writeMembers members

end

/-- The text of a value, without white space. -/
def render (json : Json) : String :=
  String.ofList json.write

/-! ## With white space -/

/-- A line break and the indentation of a level. -/
def newLine (level : Nat) : List Char :=
  '\n' :: List.replicate (2 * level) ' '

mutual

/-- The text of a value on a level, one item or member a line. -/
def writePretty (level : Nat) : Json → List Char
  | .array [] => ['[', ']']
  | .object [] => ['{', '}']
  | .array items => '[' :: writePrettyItems (level + 1) items ++ newLine level ++ [']']
  | .object members => '{' :: writePrettyMembers (level + 1) members ++ newLine level ++ ['}']
  | .null => ['n', 'u', 'l', 'l']
  | .bool true => ['t', 'r', 'u', 'e']
  | .bool false => ['f', 'a', 'l', 's', 'e']
  | .number n => writeNumber n
  | .string s => writeString s

/-- The items of an array, each on a line of its own. -/
def writePrettyItems (level : Nat) : List Json → List Char
  | [] => []
  | [item] => newLine level ++ writePretty level item
  | item :: items => newLine level ++ writePretty level item ++ ',' :: writePrettyItems level items

/-- The members of an object, each on a line of its own. -/
def writePrettyMembers (level : Nat) : List (String × Json) → List Char
  | [] => []
  | [(name, value)] => newLine level ++ writeString name ++ [':', ' '] ++ writePretty level value
  | (name, value) :: members =>
      newLine level ++ writeString name ++ [':', ' '] ++ writePretty level value ++
        ',' :: writePrettyMembers level members

end

/-- The text of a value, one item or member a line. -/
def renderPretty (json : Json) : String :=
  String.ofList (json.writePretty 0)

end Json
end Xacml
