import Xacml.Text.Blank
import Xacml.Value.Basic

/-!
# Lexical forms of values

* `Value.read` reads the lexical form of a value of a data type, `Value.write` writes the canonical
  one,
* `TypedValue` is a lexical form together with the URI of its data type,
* `LexicalFault` and `ValueError` say why a form is refused.
-/

namespace Xacml

/-! ## Faults -/

/-- Why a text is no lexical form of its data type. -/
inductive LexicalFault
  | boolean
  | integer (fault : Integer.Fault)
  | double (fault : Double.Fault)
  | temporal (fault : Temporal.Fault)
  | duration (fault : Duration.Fault)
  | blankInUri
  | hex (fault : Hex.Fault)
  | base64 (fault : Base64.Fault)
  | mailName
  | nameComponent (part : List Char)
  | address (fault : NetworkAddress.Fault)
  | host (fault : HostName.Fault)
  | ports (fault : PortRange.Fault)
  deriving DecidableEq, Repr

def LexicalFault.message : LexicalFault → String
  | boolean => "expected `true`, `false`, `1` or `0`"
  | integer fault => fault.message
  | double .letters => "not a decimal or scientific number"
  | double .empty => "cannot parse float from empty string"
  | double .malformed => "invalid float literal"
  | temporal fault => fault.message
  | duration fault => fault.message
  | blankInUri => "URIs may not contain whitespace"
  | hex fault => fault.message
  | base64 fault => fault.message
  | mailName => "expected `local@domain`"
  | nameComponent part =>
      let shown := String.ofList part
      s!"`{shown}` is not an attribute type and value pair"
  | address fault => fault.message
  | host fault => fault.message
  | ports fault => fault.message

inductive ValueError
  | invalid (type : DataType) (text : String) (fault : LexicalFault)
  | unknownType (uri : String)
  deriving DecidableEq, Repr

def ValueError.message : ValueError → String
  | invalid type text fault =>
      let name := type.name
      let reason := fault.message
      s!"`{text}` is not a valid {name}: {reason}"
  | unknownType uri => s!"unknown data type `{uri}`"

namespace Value

/-! ## Reading -/

def readBoolean (text : List Char) : Except LexicalFault Bool :=
  if text = ['t', 'r', 'u', 'e'] || text = ['1'] then .ok true
  else if text = ['f', 'a', 'l', 's', 'e'] || text = ['0'] then .ok false
  else .error .boolean

/-- The octets of a text in which white space may stand anywhere. -/
def readBase64 (text : List Char) : Except Base64.Fault (List UInt8) :=
  Base64.decode (text.filter fun c => !Text.isBlank c)

/-- The value of a data type that a text denotes.  White space around it does not count, except
for strings and path expressions. -/
def readForm (type : DataType) (text : List Char) : Except LexicalFault Value :=
  let trimmed := Text.trim text
  match type with
  | .string => .ok (.string (String.ofList text))
  | .boolean => (readBoolean trimmed).map .boolean
  | .integer => ((Integer.read trimmed).mapError .integer).map .integer
  | .double => ((Double.read trimmed).mapError .double).map .double
  | .time => ((Time.read trimmed).mapError .temporal).map .time
  | .date => ((Date.read trimmed).mapError .temporal).map .date
  | .dateTime => ((DateTime.read trimmed).mapError .temporal).map .dateTime
  | .dayTimeDuration => ((DayTimeDuration.read trimmed).mapError .duration).map .dayTimeDuration
  | .yearMonthDuration =>
      ((YearMonthDuration.read trimmed).mapError .duration).map .yearMonthDuration
  | .anyUri =>
      if trimmed.any Text.isBlank then .error .blankInUri
      else .ok (.anyUri (String.ofList trimmed))
  | .hexBinary => ((Hex.decode trimmed).mapError .hex).map .hexBinary
  | .base64Binary => ((readBase64 trimmed).mapError .base64).map .base64Binary
  | .rfc822Name =>
      match MailName.read? trimmed with
      | some name => .ok (.rfc822Name name)
      | none => .error .mailName
  | .x500Name => ((DistinguishedName.read trimmed).mapError .nameComponent).map .x500Name
  | .ipAddress => ((NetworkAddress.read trimmed).mapError .address).map .ipAddress
  | .dnsName => ((HostName.read trimmed).mapError .host).map .dnsName
  | .xpathExpression => .ok (.xpathExpression (String.ofList text) none)

/-- The value of a data type that a text denotes. -/
def read (type : DataType) (text : String) : Except ValueError Value :=
  (readForm type text.toList).mapError (.invalid type text)

/-! ## Writing -/

/-- The canonical text of a value, as characters. -/
def write : Value → List Char
  | string text => text.toList
  | boolean true => ['t', 'r', 'u', 'e']
  | boolean false => ['f', 'a', 'l', 's', 'e']
  | integer n => Integer.write n
  | double x => x.write
  | time t => t.write
  | date d => d.write
  | dateTime t => t.write
  | dayTimeDuration d => d.write
  | yearMonthDuration d => d.write
  | anyUri uri => uri.toList
  | hexBinary octets => Hex.encode octets
  | base64Binary octets => Base64.encode octets
  | rfc822Name name => name.write
  | x500Name name => name.text
  | ipAddress address => address.write
  | dnsName name => name.write
  | xpathExpression path _ => path.toList

def text (value : Value) : String :=
  String.ofList value.write

def category? : Value → Option String
  | xpathExpression _ category => category
  | _ => none

end Value

/-! ## Typed values -/

/-- A lexical form with the URI of its data type, and the category of a path expression. -/
structure TypedValue where
  dataType : String
  value : String
  category : Option String
  deriving DecidableEq, Repr

namespace TypedValue

def ofValue (value : Value) : TypedValue :=
  ⟨value.type.uri, value.text, value.category?⟩

def withCategory (category : Option String) : Value → Value
  | .xpathExpression path _ => .xpathExpression path category
  | value => value

def toValue (typed : TypedValue) : Except ValueError Value :=
  match DataType.ofUri? typed.dataType with
  | none => .error (.unknownType typed.dataType)
  | some type => (Value.read type typed.value).map (withCategory typed.category)

end TypedValue

end Xacml
