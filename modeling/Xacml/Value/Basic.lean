import Xacml.Binary.Base64
import Xacml.Binary.Hex
import Xacml.DataType
import Xacml.Double.Lexical
import Xacml.Name.Distinguished
import Xacml.Name.Mail
import Xacml.Network.Address
import Xacml.Temporal.DateTime
import Xacml.Value.Integer

/-!
# Attribute values

* `Value` is a value of one of the data types,
* `Value.normal` is the representative of the values equal to a value, and `Value.same` compares
  values by it: times and date-times are compared in universal time, distinguished names by their
  components.
-/

namespace Xacml

/-! ## Values -/

inductive Value
  | string (text : String)
  | boolean (b : Bool)
  | integer (n : Int64)
  | double (x : Double)
  | time (t : Time)
  | date (d : Date)
  | dateTime (t : DateTime)
  | dayTimeDuration (d : DayTimeDuration)
  | yearMonthDuration (d : YearMonthDuration)
  | anyUri (uri : String)
  | hexBinary (octets : List UInt8)
  | base64Binary (octets : List UInt8)
  | rfc822Name (name : MailName)
  | x500Name (name : DistinguishedName)
  | ipAddress (address : NetworkAddress)
  | dnsName (name : HostName)
  | xpathExpression (path : String) (category : Option String)
  deriving DecidableEq, Repr

namespace Value

def type : Value → DataType
  | string _ => .string
  | boolean _ => .boolean
  | integer _ => .integer
  | double _ => .double
  | time _ => .time
  | date _ => .date
  | dateTime _ => .dateTime
  | dayTimeDuration _ => .dayTimeDuration
  | yearMonthDuration _ => .yearMonthDuration
  | anyUri _ => .anyUri
  | hexBinary _ => .hexBinary
  | base64Binary _ => .base64Binary
  | rfc822Name _ => .rfc822Name
  | x500Name _ => .x500Name
  | ipAddress _ => .ipAddress
  | dnsName _ => .dnsName
  | xpathExpression _ _ => .xpathExpression

/-! ## Equality -/

/-- The representative of the values that are equal to a value: what does not count in comparing
is left out. -/
def normal : Value → Value
  | time t => time { t with zone := none }
  | dateTime t => dateTime { t with zone := none }
  | x500Name name => x500Name { name with text := [] }
  | value => value

def same (a b : Value) : Bool :=
  a.normal == b.normal

@[simp] theorem type_normal (v : Value) : v.normal.type = v.type := by
  cases v <;> rfl

@[simp] theorem normal_normal (v : Value) : v.normal.normal = v.normal := by
  cases v <;> rfl

theorem same_iff {a b : Value} : a.same b = true ↔ a.normal = b.normal := by
  simp [same]

theorem same_refl (v : Value) : v.same v = true :=
  same_iff.2 rfl

end Value

end Xacml
