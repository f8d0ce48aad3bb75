import Xacml.Evaluation.Datum
import Xacml.Function.Names
import Xacml.Regex.Parser
import Xacml.Regex.Walk

/-!
# Matching

`MatchOp` are the functions that match a value with a pattern: a regular expression, the end of a
distinguished name, or a mail address or domain.
-/

namespace Xacml

/-- Functions that match values with patterns. -/
inductive MatchOp
  | regexp (type : DataType)
  | distinguishedName
  | mailName
  deriving DecidableEq, Repr

namespace MatchOp

/-- The data types whose texts can be matched with regular expressions. -/
def regexpTypes : List DataType :=
  [.string, .anyUri, .ipAddress, .dnsName, .rfc822Name, .x500Name]

/-- Every function that matches values with patterns. -/
def all : List MatchOp :=
  regexpTypes.map regexp ++ [distinguishedName, mailName]

def id : MatchOp → String
  | regexp .string => DataType.functionId .first .string "regexp-match"
  | regexp type => DataType.functionId .second type "regexp-match"
  | distinguishedName => DataType.functionId .first .x500Name "match"
  | mailName => DataType.functionId .first .rfc822Name "match"

def params : MatchOp → Params
  | regexp type => .fixed [.single .string, .single type]
  | distinguishedName => .fixed [.single .x500Name, .single .x500Name]
  | mailName => .fixed [.single .string, .single .rfc822Name]

def holds (op : MatchOp) (pattern value : Value) : Except EvaluationError Bool :=
  match op, pattern, value with
  | regexp _, .string pattern, value =>
      match Regex.read? pattern with
      | some regex => .ok (regex.occursIn value.text)
      | none => .error (.failed op.id (.pattern pattern))
  | distinguishedName, .x500Name suffix, .x500Name name => .ok (suffix.isTerminalOf name)
  | mailName, .string pattern, .rfc822Name name => .ok (name.matchesPattern pattern.toList)
  | _, pattern, _ => .error (.type "string" (.single pattern.type))

def call (op : MatchOp) (args : List Datum) : Except EvaluationError Datum := do
  match ← args.mapM Datum.asValue with
  | [pattern, value] => return .ofBool (← op.holds pattern value)
  | _ => throw (.arity op.id 2 args.length)

end MatchOp

end Xacml
