/-!
# Base-64 octets

The standard alphabet with canonical padding: three octets are four symbols, and what is left over
is padded to four.

* `Base64.decode` reads the octets of a text,
* `Base64.encode` writes them,
* `Base64.Fault` says why a text is refused.
-/

namespace Xacml
namespace Base64

/-! ## Faults -/

/-- Why a text is refused.  Symbols are octets of the text, counted from its start. -/
inductive Fault
  | badSymbol (octet : UInt8) (offset : Nat)
  | badLastSymbol (octet : UInt8) (offset : Nat)
  | badLength (length : Nat)
  | badPadding
  deriving DecidableEq, Repr

def Fault.message : Fault → String
  | badSymbol octet offset =>
      let code := octet.toNat
      s!"Invalid symbol {code}, offset {offset}."
  | badLastSymbol octet offset =>
      let code := octet.toNat
      s!"Invalid last symbol {code}, offset {offset}."
  | badLength length => s!"Invalid input length: {length}"
  | badPadding => "Invalid padding"

/-! ## The alphabet -/

/-- The symbol that fills up the last group. -/
def pad : UInt8 := 0x3D

def symbolValue? (octet : UInt8) : Option Nat :=
  if 0x41 ≤ octet && octet ≤ 0x5A then some (octet.toNat - 0x41)
  else if 0x61 ≤ octet && octet ≤ 0x7A then some (octet.toNat - 0x61 + 26)
  else if 0x30 ≤ octet && octet ≤ 0x39 then some (octet.toNat - 0x30 + 52)
  else if octet = 0x2B then some 62
  else if octet = 0x2F then some 63
  else none

def symbol (value : Nat) : Char :=
  if value < 26 then Char.ofNat (0x41 + value)
  else if value < 52 then Char.ofNat (0x61 + value - 26)
  else if value < 62 then Char.ofNat (0x30 + value - 52)
  else if value = 62 then '+'
  else '/'

/-! ## Decoding -/

/-- The values of the symbols of complete groups, which hold no padding. -/
def values (offset : Nat) : List UInt8 → Except Fault (List Nat)
  | [] => .ok []
  | octet :: rest =>
      match symbolValue? octet with
      | none => .error (.badSymbol octet offset)
      | some value => (values (offset + 1) rest).map (value :: ·)

def octetsOf : List Nat → List UInt8
  | a :: b :: c :: d :: rest =>
      let bits := ((a * 64 + b) * 64 + c) * 64 + d
      UInt8.ofNat (bits / 65536) :: UInt8.ofNat (bits / 256) :: UInt8.ofNat bits :: octetsOf rest
  | _ => []

/-- What the last group holds: the values of its symbols, the last symbol, and where its padding
starts and how long it is. -/
structure Tail where
  values : List Nat := []
  lastSymbol : UInt8 := 0
  paddingStart : Nat := 0
  padding : Nat := 0
  deriving Repr

/-- Reads the last group, which starts at `start`.  Padding may neither come before the third place
nor before another symbol. -/
def readTail (start : Nat) (tail : Tail) (place : Nat) : List UInt8 → Except Fault Tail
  | [] => .ok tail
  | octet :: rest =>
      if octet = pad then
        if place < 2 then .error (.badSymbol octet (start + place))
        else
          let paddingStart := if tail.padding = 0 then place else tail.paddingStart
          readTail start
            { tail with paddingStart := paddingStart, padding := tail.padding + 1 } (place + 1) rest
      else if 0 < tail.padding then .error (.badSymbol pad (start + tail.paddingStart))
      else
        match symbolValue? octet with
        | none => .error (.badSymbol octet (start + place))
        | some value =>
            readTail start
              { tail with values := tail.values ++ [value], lastSymbol := octet } (place + 1) rest

/-- The octets of the last group.  Bits of its last symbol that belong to no octet are zero. -/
def tailOctets (start : Nat) (tail : Tail) : Except Fault (List UInt8) :=
  let unused := Fault.badLastSymbol tail.lastSymbol (start + tail.values.length - 1)
  match tail.values with
  | [a, b] =>
      let bits := a * 64 + b
      if bits % 16 = 0 then .ok [UInt8.ofNat (bits / 16)] else .error unused
  | [a, b, c] =>
      let bits := (a * 64 + b) * 64 + c
      if bits % 4 = 0 then .ok [UInt8.ofNat (bits / 1024), UInt8.ofNat (bits / 4)]
      else .error unused
  | symbols => .ok (octetsOf symbols)

/-- How many octets of a text of the given length belong to groups before the last one. -/
def completeLength (length : Nat) : Nat :=
  let remainder := length % 4
  length - remainder - (if remainder = 0 then 4 else 0)

/-- Whether one octet is left over that is no symbol at all. -/
def strayLast? (octets : List UInt8) : Option UInt8 :=
  if octets.length % 4 = 1 then
    octets.getLast?.filter fun last => last != pad && (symbolValue? last).isNone
  else none

/-- The octets that a sequence of symbols denotes. -/
def decodeOctets (octets : List UInt8) : Except Fault (List UInt8) :=
  match strayLast? octets with
  | some last => .error (.badSymbol last (octets.length - 1))
  | none => do
      let start := completeLength octets.length
      let complete ← values 0 (octets.take start)
      let tail ← readTail start {} 0 (octets.drop start)
      let count := tail.values.length
      if !octets.isEmpty && count < 2 then throw (.badLength (start + count))
      if (tail.padding + count) % 4 != 0 then throw .badPadding
      let rest ← tailOctets start tail
      return octetsOf complete ++ rest

def decode (text : List Char) : Except Fault (List UInt8) :=
  decodeOctets (text.flatMap String.utf8EncodeChar)

/-! ## Encoding -/

def encode : List UInt8 → List Char
  | [] => []
  | [a] =>
      let bits := a.toNat * 16
      [symbol (bits / 64), symbol (bits % 64), '=', '=']
  | [a, b] =>
      let bits := (a.toNat * 256 + b.toNat) * 4
      [symbol (bits / 4096), symbol (bits / 64 % 64), symbol (bits % 64), '=']
  | a :: b :: c :: rest =>
      let bits := (a.toNat * 256 + b.toNat) * 256 + c.toNat
      symbol (bits / 262144) :: symbol (bits / 4096 % 64) :: symbol (bits / 64 % 64) ::
        symbol (bits % 64) :: encode rest

end Base64
end Xacml
