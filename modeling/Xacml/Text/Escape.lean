import Xacml.Text.Category
import Xacml.Text.Letter

/-!
# Escaped texts

Identifiers and characters as they are shown inside messages: what cannot be printed as it stands
is written as an escape.

* `isPrintable` tells which characters stand for themselves,
* `escape` shows an identifier,
* `quoteChar` shows one character between apostrophes.
-/

namespace Xacml
namespace Text

/-- Whether a character stands for itself in a message: it is neither a control nor unassigned,
and the space is the only separator. -/
def isPrintable (c : Char) : Bool :=
  match Category.ofChar c with
  | .control | .format | .surrogate | .privateUse | .unassigned => false
  | .spaceSeparator => c == ' '
  | .lineSeparator | .paragraphSeparator => false
  | _ => true

/-- Characters besides the marks that join the character before them, in Unicode 16.0. -/
def joiningRanges : List (Nat × Nat) :=
  [ (0x9BE, 0x9BE), (0x9D7, 0x9D7), (0xB3E, 0xB3E), (0xB57, 0xB57), (0xBBE, 0xBBE)
  , (0xBD7, 0xBD7), (0xCC0, 0xCC0), (0xCC2, 0xCC2), (0xCC7, 0xCC8), (0xCCA, 0xCCB)
  , (0xCD5, 0xCD6), (0xD3E, 0xD3E), (0xD57, 0xD57), (0xDCF, 0xDCF), (0xDDF, 0xDDF)
  , (0x1715, 0x1715), (0x1734, 0x1734), (0x1B35, 0x1B35), (0x1B3B, 0x1B3B), (0x1B3D, 0x1B3D)
  , (0x1B43, 0x1B44), (0x1BAA, 0x1BAA), (0x1BF2, 0x1BF3), (0x200C, 0x200C), (0x302E, 0x302F)
  , (0xA953, 0xA953), (0xA9C0, 0xA9C0), (0xFF9E, 0xFF9F), (0x111C0, 0x111C0)
  , (0x11235, 0x11235), (0x1133E, 0x1133E), (0x1134D, 0x1134D), (0x11357, 0x11357)
  , (0x113B8, 0x113B8), (0x113C2, 0x113C2), (0x113C5, 0x113C5), (0x113C7, 0x113C9)
  , (0x113CF, 0x113CF), (0x114B0, 0x114B0), (0x114BD, 0x114BD), (0x115AF, 0x115AF)
  , (0x116B6, 0x116B6), (0x11930, 0x11930), (0x1193D, 0x1193D), (0x11F41, 0x11F41)
  , (0x16FF0, 0x16FF1), (0x1D165, 0x1D166), (0x1D16D, 0x1D172), (0xE0020, 0xE007F) ]

/-- Whether a character joins the character before it. -/
def isJoining (c : Char) : Bool :=
  match Category.ofChar c with
  | .nonspacingMark | .enclosingMark => true
  | _ => inRanges joiningRanges c.toNat

def escapeCode (c : Char) : List Char :=
  ['\\', 'u', '{'] ++ Nat.toDigits 16 c.toNat ++ ['}']

/-- One character of a message.  `first` says that no character stands before it, so that a
joining character would be shown on its own; `quoted` lists the quotation marks to escape. -/
def escapeChar (first : Bool) (quoted : List Char) (c : Char) : List Char :=
  if c = Char.ofNat 0 then ['\\', '0']
  else if c = '\t' then ['\\', 't']
  else if c = '\r' then ['\\', 'r']
  else if c = '\n' then ['\\', 'n']
  else if c = '\\' || quoted.contains c then ['\\', c]
  else if first && isJoining c then escapeCode c
  else if isPrintable c then [c]
  else escapeCode c

def escape : List Char → List Char
  | [] => []
  | c :: rest =>
      escapeChar true ['\'', '"'] c ++ rest.flatMap (escapeChar false ['\'', '"'])

def quoteChar (c : Char) : List Char :=
  ['\''] ++ escapeChar true ['\''] c ++ ['\'']

end Text
end Xacml
