/-!
# Data types

* `DataType` lists the data types of attribute values, each with a short name and an identifying
  URI,
* `ValueType` is the static type of an expression: a data type, for one value or for a bag.
-/

namespace Xacml

/-! ## The catalog -/

/-- Data types of attribute values. -/
inductive DataType
  | string
  | boolean
  | integer
  | double
  | time
  | date
  | dateTime
  | dayTimeDuration
  | yearMonthDuration
  | anyUri
  | hexBinary
  | base64Binary
  | rfc822Name
  | x500Name
  | ipAddress
  | dnsName
  | xpathExpression
  deriving DecidableEq, Repr

namespace DataType

def all : List DataType :=
  [string, boolean, integer, double, time, date, dateTime, dayTimeDuration, yearMonthDuration,
    anyUri, hexBinary, base64Binary, rfc822Name, x500Name, ipAddress, dnsName, xpathExpression]

/-- The short name, which also occurs in function identifiers. -/
def name : DataType → String
  | string => "string"
  | boolean => "boolean"
  | integer => "integer"
  | double => "double"
  | time => "time"
  | date => "date"
  | dateTime => "dateTime"
  | dayTimeDuration => "dayTimeDuration"
  | yearMonthDuration => "yearMonthDuration"
  | anyUri => "anyURI"
  | hexBinary => "hexBinary"
  | base64Binary => "base64Binary"
  | rfc822Name => "rfc822Name"
  | x500Name => "x500Name"
  | ipAddress => "ipAddress"
  | dnsName => "dnsName"
  | xpathExpression => "xpathExpression"

/-- What stands before the short name in the URI. -/
def uriBase : DataType → String
  | rfc822Name | x500Name => "urn:oasis:names:tc:xacml:1.0:data-type:"
  | ipAddress | dnsName => "urn:oasis:names:tc:xacml:2.0:data-type:"
  | xpathExpression => "urn:oasis:names:tc:xacml:3.0:data-type:"
  | _ => "http://www.w3.org/2001/XMLSchema#"

def uri (type : DataType) : String :=
  type.uriBase ++ type.name

/-- Earlier URIs of the durations, which are still understood. -/
def earlierUris : List (String × DataType) :=
  [ ("http://www.w3.org/TR/2002/WD-xquery-operators-20020816#dayTimeDuration", dayTimeDuration)
  , ("http://www.w3.org/TR/2002/WD-xquery-operators-20020816#yearMonthDuration",
      yearMonthDuration) ]

def ofUri? (uri : String) : Option DataType :=
  match earlierUris.lookup uri with
  | some type => some type
  | none => all.find? fun type => type.uri = uri

/-- The place of a data type in the catalog. -/
def index (type : DataType) : Nat :=
  all.idxOf type

/-- Whether there is an equality function for values of the type. -/
def hasEquality : DataType → Bool
  | ipAddress | dnsName | xpathExpression => false
  | _ => true

end DataType

/-! ## Static types -/

/-- The type of one value or of a bag of values. -/
inductive ValueType
  | single (type : DataType)
  | bag (type : DataType)
  deriving DecidableEq, Repr

namespace ValueType

/-- The data type of the value or of the members of the bag. -/
def data : ValueType → DataType
  | single type | bag type => type

def isBag : ValueType → Bool
  | single _ => false
  | bag _ => true

def boolean : ValueType := single .boolean

def text : ValueType → String
  | single type => type.name
  | bag type => "bag<" ++ type.name ++ ">"

end ValueType

end Xacml
