import Xacml.Text.Escape

/-!
# Hexadecimal octets

* `Hex.decode` reads two digits for each octet, in either case,
* `Hex.encode` writes capitals,
* `Hex.Fault` says why a text is refused.
-/

namespace Xacml
namespace Hex

/-! ## Faults -/

/-- Why a text is no sequence of octets: it has an odd number of octets itself, or one of them is
no digit. -/
inductive Fault
  | oddLength
  | badDigit (octet : UInt8) (position : Nat)
  deriving DecidableEq, Repr

/-- The wording of a fault.  An octet is shown as the character of that code point. -/
def Fault.message : Fault → String
  | oddLength => "Odd number of digits"
  | badDigit octet position =>
      let shown := String.ofList (Text.quoteChar (Char.ofNat octet.toNat))
      s!"Invalid character {shown} at position {position}"

/-! ## Digits -/

def digitValue? (octet : UInt8) : Option UInt8 :=
  if 0x30 ≤ octet && octet ≤ 0x39 then some (octet - 0x30)
  else if 0x41 ≤ octet && octet ≤ 0x46 then some (octet - 0x41 + 10)
  else if 0x61 ≤ octet && octet ≤ 0x66 then some (octet - 0x61 + 10)
  else none

/-- The capital digit of a value below sixteen. -/
def digit (value : UInt8) : Char :=
  if value < 10 then Char.ofNat (0x30 + value.toNat) else Char.ofNat (0x37 + value.toNat)

/-! ## Decoding and encoding -/

/-- The octets that the digits from `position` on denote. -/
def decodeFrom (position : Nat) : List UInt8 → Except Fault (List UInt8)
  | [] => .ok []
  | [_] => .error .oddLength
  | high :: low :: rest =>
      match digitValue? high, digitValue? low with
      | none, _ => .error (.badDigit high position)
      | some _, none => .error (.badDigit low (position + 1))
      | some h, some l => (decodeFrom (position + 2) rest).map fun octets => (h * 16 + l) :: octets

def decode (text : List Char) : Except Fault (List UInt8) :=
  let octets := text.flatMap String.utf8EncodeChar
  if octets.length % 2 = 1 then .error .oddLength else decodeFrom 0 octets

def encodeOctet (octet : UInt8) : List Char :=
  [digit (octet / 16), digit (octet % 16)]

def encode (octets : List UInt8) : List Char :=
  octets.flatMap encodeOctet

end Hex
end Xacml
