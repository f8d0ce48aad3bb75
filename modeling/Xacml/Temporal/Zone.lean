import Xacml.Temporal.Field

/-!
# Time zones

A time zone is an offset of the local time from universal time, in seconds.  It is written `Z` or
as a sign, hours and minutes at the end of a date or time.

* `splitZone` cuts the zone off a text,
* `writeZone` writes it.
-/

namespace Xacml
namespace Temporal

/-- Cuts two octets off the front of a text whose characters come last one first; the octets are
given in order.  They are two characters, or one that takes two octets. -/
def cutOctets : List Char → Option (List Char × List Char)
  | last :: rest =>
      if last.utf8Size = 2 then some ([last], rest)
      else
        match rest with
        | first :: rest =>
            if last.utf8Size = 1 && first.utf8Size = 1 then some ([first, last], rest) else none
        | [] => none
  | [] => none

/-- The sign, the hours and the minutes that end a text, and what stands before them. -/
structure ZoneParts where
  negative : Bool
  hours : List Char
  minutes : List Char
  before : List Char
  deriving Repr

/-- The parts of a zone at the end of a text, if a sign and a colon stand where they belong. -/
def zoneParts? (text : List Char) : Option ZoneParts :=
  match cutOctets text.reverse with
  | some (minutes, ':' :: rest) =>
      match cutOctets rest with
      | some (hours, '+' :: before) => some ⟨false, hours, minutes, before.reverse⟩
      | some (hours, '-' :: before) => some ⟨true, hours, minutes, before.reverse⟩
      | _ => none
  | _ => none

def daySeconds : Nat := 86400

/-- The offset of a zone in seconds.  Hours go up to 14. -/
def ZoneParts.offset (parts : ZoneParts) : Except Fault Int :=
  match Text.signed? (Nat.pow 2 31) parts.hours, Text.signed? (Nat.pow 2 31) parts.minutes with
  | none, _ => .error .zoneHours
  | some _, none => .error .zoneMinutes
  | some hours, some minutes =>
      let seconds := hours * 3600 + minutes * 60
      if 14 < hours || 59 < minutes || daySeconds ≤ seconds.natAbs then .error .zoneRange
      else .ok (if parts.negative then -seconds else seconds)

/-- The text before the zone, and the offset of the zone if there is one. -/
def splitZone (text : List Char) : Except Fault (List Char × Option Int) :=
  match text.reverse with
  | 'Z' :: before => .ok (before.reverse, some 0)
  | _ =>
      match zoneParts? text with
      | some parts => parts.offset.map fun offset => (parts.before, some offset)
      | none => .ok (text, none)

/-- The text of a zone; nothing if there is none. -/
def writeZone : Option Int → List Char
  | none => []
  | some offset =>
      if offset = 0 then ['Z']
      else
        let seconds := offset.natAbs
        (if offset < 0 then '-' else '+') ::
          writeTwo (seconds / 3600) ++ ':' :: writeTwo (seconds % 3600 / 60)

end Temporal
end Xacml
