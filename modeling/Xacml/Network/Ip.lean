import Xacml.Text.Cut
import Xacml.Text.Numeral

/-!
# Internet addresses

* `Ip.V4` is four octets, written in decimal with points between them,
* `Ip.V6` is eight groups of 16 bits, written in hexadecimal with colons between them; a double
  colon stands for one or more groups of zeros, and the last two groups may be written as a `V4`,
* `V4.read?`, `V6.read?`, `V4.write`, `V6.write` are their readers and writers.
-/

namespace Xacml
namespace Ip

/-! ## Four octets -/

structure V4 where
  a : Nat
  b : Nat
  c : Nat
  d : Nat
  deriving DecidableEq, Repr

namespace V4

/-- The octet that a text starts with: at most three digits, and no zero in front of another
digit. -/
def readOctet (text : List Char) : Option (Nat × List Char) :=
  let digits := text.takeWhile Char.isDigit
  let rest := text.dropWhile Char.isDigit
  let value := Nat.ofDigitChars 10 digits 0
  let zeroLed := digits.head? == some '0' && 1 < digits.length
  if digits.isEmpty || 3 < digits.length || zeroLed || 255 < value then none
  else some (value, rest)

def readPointOctet : List Char → Option (Nat × List Char)
  | '.' :: rest => readOctet rest
  | _ => none

def readFront (text : List Char) : Option (V4 × List Char) := do
  let (a, rest) ← readOctet text
  let (b, rest) ← readPointOctet rest
  let (c, rest) ← readPointOctet rest
  let (d, rest) ← readPointOctet rest
  return (⟨a, b, c, d⟩, rest)

def read? (text : List Char) : Option V4 :=
  match readFront text with
  | some (address, []) => some address
  | _ => none

def write (address : V4) : List Char :=
  Text.join ['.'] ([address.a, address.b, address.c, address.d].map Text.decimal)

end V4

/-! ## Eight groups -/

structure V6 where
  groups : List Nat
  deriving DecidableEq, Repr

namespace V6

/-- The group that a text starts with: at most four hexadecimal digits. -/
def readGroup (text : List Char) : Option (Nat × List Char) :=
  let isHex := fun c => (Text.hexDigit? c).isSome
  let digits := text.takeWhile isHex
  if digits.isEmpty || 4 < digits.length then none
  else
    let value := digits.foldl (fun value c => value * 16 + (Text.hexDigit? c).getD 0) 0
    some (value, text.dropWhile isHex)

/-- Groups read from a text, whether they end in an address of four octets, and what follows. -/
structure Front where
  groups : List Nat
  endsInV4 : Bool
  rest : List Char
  deriving Repr

/-- At most `limit` groups that a text starts with.  Before every group but the first one stands a
colon. -/
def readGroups (first : Bool) : Nat → List Char → Front
  | 0, text => ⟨[], false, text⟩
  | limit + 1, text =>
      let body := if first then some text else
        match text with
        | ':' :: rest => some rest
        | _ => none
      match body with
      | none => ⟨[], false, text⟩
      | some body =>
          match if limit = 0 then none else V4.readFront body with
          | some (v4, rest) => ⟨[v4.a * 256 + v4.b, v4.c * 256 + v4.d], true, rest⟩
          | none =>
              match readGroup body with
              | none => ⟨[], false, text⟩
              | some (group, rest) =>
                  let front := readGroups false limit rest
                  { front with groups := group :: front.groups }

def read? (text : List Char) : Option V6 :=
  let head := readGroups true 8 text
  if head.groups.length = 8 then
    if head.rest.isEmpty then some ⟨head.groups⟩ else none
  else if head.endsInV4 then none
  else
    match head.rest with
    | ':' :: ':' :: rest =>
        let tail := readGroups true (7 - head.groups.length) rest
        let zeros := List.replicate (8 - head.groups.length - tail.groups.length) 0
        if tail.rest.isEmpty then some ⟨head.groups ++ zeros ++ tail.groups⟩ else none
    | _ => none

def writeGroup (group : Nat) : List Char :=
  Nat.toDigits 16 group

/-- The text of groups with colons between them. -/
def writeGroups (groups : List Nat) : List Char :=
  Text.join [':'] (groups.map writeGroup)

def leadingZeros (groups : List Nat) : Nat :=
  (groups.takeWhile (· == 0)).length

/-- Start and length of the longest run of zeros, the first one of several. -/
def longestZeros : List Nat → Nat × Nat
  | [] => (0, 0)
  | group :: groups =>
      let here := leadingZeros (group :: groups)
      let (start, length) := longestZeros groups
      if here ≠ 0 && length ≤ here then (0, here) else (start + 1, length)

def write (address : V6) : List Char :=
  match address.groups with
  | [0, 0, 0, 0, 0, 0xFFFF, high, low] =>
      [':', ':', 'f', 'f', 'f', 'f', ':'] ++
        V4.write ⟨high / 256, high % 256, low / 256, low % 256⟩
  | groups =>
      let (start, length) := longestZeros groups
      if 1 < length then
        writeGroups (groups.take start) ++ [':', ':'] ++ writeGroups (groups.drop (start + length))
      else writeGroups groups

end V6

end Ip
end Xacml
