import Xacml.Network.Port
import Xacml.Text.Letter

/-!
# Host names

A host name is a sequence of labels, before which `*.` may stand, with an optional range of ports.
It is kept in lower case.

* `HostName.read` reads a name,
* `HostName.write` writes it.
-/

namespace Xacml

/-- A host name with a range of ports. -/
structure HostName where
  host : List Char
  ports : PortRange
  deriving DecidableEq, Repr

namespace HostName

inductive Fault
  | ports (fault : PortRange.Fault)
  | notHost (text : List Char)
  deriving DecidableEq, Repr

def Fault.message : Fault → String
  | ports fault => fault.message
  | notHost text =>
      let shown := String.ofList text
      s!"`{shown}` is not a host name"

/-- Whether a text is a label: ASCII letters, digits and inner hyphens. -/
def isLabel (label : List Char) : Bool :=
  !label.isEmpty && label.all (fun c => c.isAlphanum || c == '-') &&
    label.head? != some '-' && label.getLast? != some '-'

/-- The labels of a host, without the mark that stands for any first labels. -/
def labelsOf : List Char → List Char
  | '*' :: '.' :: rest => rest
  | host => host

def isHost (host : List Char) : Bool :=
  let labels := labelsOf host
  !labels.isEmpty && (labels.splitOn '.').all isLabel

/-- The parts of a text before and after its first colon; the range of all ports if there is
none. -/
def splitPorts (text : List Char) : Except PortRange.Fault (List Char × PortRange) :=
  match Text.cut? ':' text with
  | some (before, after) => (PortRange.read after).map fun ports => (before, ports)
  | none => .ok (text, .all)

def read (text : List Char) : Except Fault HostName :=
  match splitPorts text with
  | .error fault => .error (.ports fault)
  | .ok (host, ports) =>
      if isHost host then .ok ⟨Text.lowerAscii host, ports⟩ else .error (.notHost host)

def write (name : HostName) : List Char :=
  name.host ++ name.ports.writeAfterColon

end HostName

end Xacml
