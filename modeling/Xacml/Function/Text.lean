import Xacml.Evaluation.Datum
import Xacml.Function.Names
import Xacml.Text.Cut
import Xacml.Text.Letter

/-!
# Functions on texts

`TextOp` are the functions on strings and URIs.  Searching takes what is looked for first; the
characters of a text are counted from zero.
-/

namespace Xacml

/-- Ways to look for one text in another. -/
inductive Search
  | startsWith
  | endsWith
  | contains
  deriving DecidableEq, Repr

namespace Search

def all : List Search := [startsWith, endsWith, contains]

def name : Search → String
  | startsWith => "starts-with"
  | endsWith => "ends-with"
  | contains => "contains"

def holds : Search → List Char → List Char → Bool
  | startsWith, part, text => part.isPrefixOf text
  | endsWith, part, text => part.isSuffixOf text
  | contains, part, text => Text.isInfix part text

end Search

inductive TextType
  | string
  | anyUri
  deriving DecidableEq, Repr

def TextType.dataType : TextType → DataType
  | string => .string
  | anyUri => .anyUri

/-- Functions on strings and URIs. -/
inductive TextOp
  | normalizeSpace
  | lowerCase
  | concatenate
  | equalIgnoringCase
  | search (op : Search) (type : TextType)
  | substring (type : TextType)
  deriving DecidableEq, Repr

namespace TextOp

def all : List TextOp :=
  [normalizeSpace, lowerCase, concatenate, equalIgnoringCase] ++
    Search.all.flatMap (fun op => [search op .string, search op .anyUri]) ++
    [substring .string, substring .anyUri]

def id : TextOp → String
  | normalizeSpace => DataType.functionId .first .string "normalize-space"
  | lowerCase => DataType.functionId .first .string "normalize-to-lower-case"
  | concatenate => DataType.functionId .second .string "concatenate"
  | equalIgnoringCase => DataType.functionId .third .string "equal-ignore-case"
  | search op type => DataType.functionId .third type.dataType op.name
  | substring type => DataType.functionId .third type.dataType "substring"

def params : TextOp → Params
  | normalizeSpace | lowerCase => .fixed [.single .string]
  | concatenate => .variadic [] (.single .string) 2
  | equalIgnoringCase => .fixed [.single .string, .single .string]
  | search _ type => .fixed [.single .string, .single type.dataType]
  | substring type => .fixed [.single type.dataType, .single .integer, .single .integer]

def returns : TextOp → ValueType
  | equalIgnoringCase | search _ _ => .boolean
  | _ => .single .string

/-- An index from the start, if it is within the bounds. -/
def index? (low high : Nat) (n : Int64) : Option Nat :=
  if 0 ≤ n.toInt ∧ low ≤ n.toInt.toNat ∧ n.toInt.toNat ≤ high then some n.toInt.toNat else none

/-- The characters from `first` up to, but not including, `last`; the end of the text if that is
`-1`. -/
def slice (text : List Char) (first last : Int64) : Except Failure (List Char) :=
  match index? 0 text.length first with
  | none => .error (.beginIndex first.toInt)
  | some low =>
      if last.toInt = -1 then .ok (text.drop low)
      else
        match index? low text.length last with
        | none => .error (.endIndex last.toInt)
        | some high => .ok ((text.drop low).take (high - low))

/-- Whether two texts are equal in lower case. -/
def sameIgnoringCase (a b : String) : Bool :=
  Text.lowercase a.toList == Text.lowercase b.toList

def call (op : TextOp) (args : List Datum) : Except EvaluationError Datum :=
  let string (text : List Char) : Datum := .single (.string (String.ofList text))
  match op, args with
  | normalizeSpace, [a] => do return string (Text.trim (← a.asText).toList)
  | lowerCase, [a] => do return string (Text.lowercase (← a.asText).toList)
  | concatenate, args => do
      let texts ← args.mapM Datum.asText
      return .single (.string (String.join texts))
  | equalIgnoringCase, [a, b] => do
      let a ← a.asText
      let b ← b.asText
      return .ofBool (sameIgnoringCase a b)
  | search way _, [part, text] => do
      let part ← part.asText
      let text ← text.asText
      return .ofBool (way.holds part.toList text.toList)
  | substring _, [text, first, last] => do
      let text ← text.asText
      let first ← first.asInteger
      let last ← last.asInteger
      match slice text.toList first last with
      | .ok text => return string text
      | .error failure => throw (.failed op.id failure)
  | _, _ => throw (.arity op.id op.params.minLength args.length)

end TextOp

end Xacml
