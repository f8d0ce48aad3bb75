import Xacml.Network.Host
import Xacml.Network.Ip
import Xacml.Network.Port

/-!
# Network addresses

A network address is an internet address with an optional mask and an optional range of ports.  An
address of eight groups and its mask stand in brackets.

* `NetworkAddress.read` reads an address,
* `NetworkAddress.write` writes it.
-/

namespace Xacml

/-- An internet address of either kind. -/
inductive Ip
  | v4 (address : Ip.V4)
  | v6 (address : Ip.V6)
  deriving DecidableEq, Repr

/-- The text of an internet address, without brackets. -/
def Ip.write : Ip → List Char
  | .v4 address => address.write
  | .v6 address => address.write

/-- An internet address with its mask and its ports. -/
structure NetworkAddress where
  address : Ip
  mask : Option Ip
  ports : PortRange
  deriving DecidableEq, Repr

namespace NetworkAddress

/-! ## Faults -/

/-- Why a text is no network address. -/
inductive Fault
  | ports (fault : PortRange.Fault)
  | unterminated
  | notV4 (text : List Char)
  | notV6 (text : List Char)
  | unexpected (text : List Char)
  deriving DecidableEq, Repr

def Fault.message : Fault → String
  | ports fault => fault.message
  | unterminated => "unterminated `[`"
  | notV4 text =>
      let shown := String.ofList text
      s!"`{shown}` is not an IPv4 address"
  | notV6 text =>
      let shown := String.ofList text
      s!"`{shown}` is not an IPv6 address"
  | unexpected text =>
      let shown := String.ofList text
      s!"unexpected `{shown}`"

/-! ## Reading -/

/-- What stands between the first octet of a text and its first closing bracket; nothing if the
first character is the bracket itself or takes more than one octet. -/
def insideBrackets (before : List Char) : List Char :=
  match before with
  | c :: inside => if c.utf8Size = 1 then inside else []
  | [] => []

/-- The bracketed address that a text starts with, and the text after it. -/
def readBracketed (text : List Char) : Except Fault (Ip.V6 × List Char) :=
  match Text.cut? ']' text with
  | none => .error .unterminated
  | some (before, rest) =>
      let inside := insideBrackets before
      match Ip.V6.read? inside with
      | some address => .ok (address, rest)
      | none => .error (.notV6 inside)

/-- The optional mask after a slash, and the text after it. -/
def readMask : List Char → Except Fault (Option Ip.V6 × List Char)
  | '/' :: rest => (readBracketed rest).map fun (mask, rest) => (some mask, rest)
  | text => .ok (none, text)

/-- The ports at the end of a bracketed address. -/
def readPortsEnd : List Char → Except Fault PortRange
  | ':' :: rest => (PortRange.read rest).mapError .ports
  | [] => .ok .all
  | text => .error (.unexpected text)

def readV6 (text : List Char) : Except Fault NetworkAddress := do
  let (address, rest) ← readBracketed text
  let (mask, rest) ← readMask rest
  let ports ← readPortsEnd rest
  return ⟨.v6 address, mask.map .v6, ports⟩

def readOctets (text : List Char) : Except Fault Ip :=
  match Ip.V4.read? text with
  | some address => .ok (.v4 address)
  | none => .error (.notV4 text)

def readV4 (text : List Char) : Except Fault NetworkAddress := do
  let (body, ports) ← (HostName.splitPorts text).mapError .ports
  match Text.cut? '/' body with
  | some (address, mask) => return ⟨← readOctets address, some (← readOctets mask), ports⟩
  | none => return ⟨← readOctets body, none, ports⟩

/-- The network address that a text denotes. -/
def read (text : List Char) : Except Fault NetworkAddress :=
  match text with
  | '[' :: _ => readV6 text
  | _ => readV4 text

/-! ## Writing -/

/-- An internet address, in brackets if it has eight groups. -/
def writeIp : Ip → List Char
  | .v4 address => address.write
  | .v6 address => '[' :: address.write ++ [']']

def writeMask : Option Ip → List Char
  | some mask => '/' :: writeIp mask
  | none => []

def write (address : NetworkAddress) : List Char :=
  writeIp address.address ++ writeMask address.mask ++ address.ports.writeAfterColon

end NetworkAddress

end Xacml
