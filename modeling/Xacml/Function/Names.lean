import Xacml.DataType

/-!
# Function identifiers

Identifiers begin with the edition of the policy language that introduced the function.
-/

namespace Xacml

/-- The editions that introduced functions. -/
inductive Edition
  | first
  | second
  | third
  deriving DecidableEq, Repr

/-- What the identifiers of an edition begin with. -/
def Edition.base : Edition → String
  | first => "urn:oasis:names:tc:xacml:1.0:function:"
  | second => "urn:oasis:names:tc:xacml:2.0:function:"
  | third => "urn:oasis:names:tc:xacml:3.0:function:"

namespace DataType

/-- The edition that introduced the bag and set functions of a data type. -/
def bagEdition : DataType → Edition
  | dayTimeDuration | yearMonthDuration => .third
  | ipAddress | dnsName => .second
  | _ => .first

/-- The identifier of a function of a data type. -/
def functionId (edition : Edition) (type : DataType) (operation : String) : String :=
  edition.base ++ type.name ++ "-" ++ operation

end DataType

end Xacml
