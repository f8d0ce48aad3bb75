import Xacml.Regex.Class
import Xacml.Text.Property

/-!
# Classes of a property

A class may be given by a property of characters: a general category, a script, or a property
that a character has or has not.

* `CharClass.normalName` is what counts of a name,
* `CharClass.ofProperty?` is the class of a name that stands alone,
* `CharClass.ofValue?` is the class of the characters that a property has a value at.
-/

namespace Xacml
namespace Regex
namespace CharClass

/-- What counts in comparing names: the ASCII characters in lower case, without blanks, dashes and
underscores, and without the word `is` in front.  Only the comments of the standard are called
`isc`, and keep that name. -/
def normalName (name : List Char) : List Char :=
  let short := Text.lowerAscii (name.take 2) = ['i', 's']
  let plain := (Text.lowerAscii (if short then name.drop 2 else name)).filter fun c =>
    c.toNat < 128 && c ≠ ' ' && c ≠ '_' && c ≠ '-'
  if short && plain = ['c'] then ['i', 's', 'c'] else plain

/-! ## General categories -/

/-- The long names of general categories and of groups of them. -/
def categoryNames : List (String × String) :=
  [ ("letter", "L"), ("casedletter", "LC"), ("uppercaseletter", "Lu"), ("lowercaseletter", "Ll")
  , ("titlecaseletter", "Lt"), ("modifierletter", "Lm"), ("otherletter", "Lo")
  , ("mark", "M"), ("combiningmark", "M"), ("nonspacingmark", "Mn"), ("spacingmark", "Mc")
  , ("enclosingmark", "Me"), ("number", "N"), ("decimalnumber", "Nd"), ("digit", "Nd")
  , ("letternumber", "Nl"), ("othernumber", "No"), ("punctuation", "P"), ("punct", "P")
  , ("connectorpunctuation", "Pc"), ("dashpunctuation", "Pd"), ("openpunctuation", "Ps")
  , ("closepunctuation", "Pe"), ("initialpunctuation", "Pi"), ("finalpunctuation", "Pf")
  , ("otherpunctuation", "Po"), ("symbol", "S"), ("mathsymbol", "Sm"), ("currencysymbol", "Sc")
  , ("modifiersymbol", "Sk"), ("othersymbol", "So"), ("separator", "Z"), ("spaceseparator", "Zs")
  , ("lineseparator", "Zl"), ("paragraphseparator", "Zp"), ("other", "C"), ("control", "Cc")
  , ("cntrl", "Cc"), ("format", "Cf"), ("surrogate", "Cs"), ("privateuse", "Co")
  , ("unassigned", "Cn") ]

/-- The categories that a code in lower case stands for: its own, or all whose codes begin with
it. -/
def categoriesOf (code : List Char) : List Text.Category :=
  let matching := Text.Category.codes.filter fun entry =>
    let lower := Text.lowerAscii entry.1
    if code = ['l', 'c'] then lower = ['l', 'u'] || lower = ['l', 'l'] || lower = ['l', 't']
    else lower = code || lower.take 1 = code
  matching.map Prod.snd

/-- The class of a general category, by its code or its name.  No character is a surrogate, so
that category alone has no class. -/
def ofCategory? (plain : String) : Option CharClass :=
  match plain with
  | "any" => some any
  | "ascii" => some (range 0 127)
  | "assigned" => some (negated (categories [.unassigned]))
  | _ =>
      match categoriesOf (Text.lowerAscii ((categoryNames.lookup plain).getD plain).toList) with
      | [] | [.surrogate] => Option.none
      | list => some (categories list)

/-! ## Scripts -/

def scriptNamed? (plain : String) : Option Text.Script :=
  let asked := match plain with
    | "qaac" => "copt"
    | "qaai" => "zinh"
    | _ => plain
  let found := Text.Script.names.find? fun (code, name) =>
    normalName code.toList = asked.toList || normalName name.toList = asked.toList
  found.map fun entry => ⟨entry.1⟩

/-! ## Properties -/

def ofGaps (lines : List String) : CharClass :=
  ofRanges (Text.rangesOfGaps lines)

def alphabetic : CharClass :=
  union
    (categories [.uppercaseLetter, .lowercaseLetter, .titlecaseLetter, .modifierLetter,
      .otherLetter, .letterNumber])
    (ofGaps Text.Property.otherAlphabetic)

def lowercase : CharClass :=
  union (categories [.lowercaseLetter]) (ofGaps Text.Property.otherLowercase)

def uppercase : CharClass :=
  union (categories [.uppercaseLetter]) (ofGaps Text.Property.otherUppercase)

def cased : CharClass :=
  unionAll [lowercase, uppercase, categories [.titlecaseLetter]]

/-- Characters that an identifier may begin with. -/
def identifierStart : CharClass :=
  combined .difference
    (union
      (categories [.uppercaseLetter, .lowercaseLetter, .titlecaseLetter, .modifierLetter,
        .otherLetter, .letterNumber])
      (ofRanges [(0x1885, 0x1886), (0x2118, 0x2118), (0x212E, 0x212E), (0x309B, 0x309C)]))
    (range 0x2E2F 0x2E2F)

/-- Characters that an identifier may go on with. -/
def identifierContinue : CharClass :=
  unionAll
    [ identifierStart
    , categories [.nonspacingMark, .spacingMark, .decimalNumber, .connectorPunctuation]
    , ofRanges [(0xB7, 0xB7), (0x387, 0x387), (0x1369, 0x1371), (0x19DA, 0x19DA), (0x200C, 0x200D),
        (0x30FB, 0x30FB), (0xFF65, 0xFF65)] ]

/-- Characters of identifiers whose compatibility form is not allowed at the same place. -/
def unstable : CharClass :=
  ofRanges
    [ (0x37A, 0x37A), (0x309B, 0x309C), (0xFC5E, 0xFC63), (0xFDFA, 0xFDFB), (0xFE70, 0xFE70)
    , (0xFE72, 0xFE72), (0xFE74, 0xFE74), (0xFE76, 0xFE76), (0xFE78, 0xFE78), (0xFE7A, 0xFE7A)
    , (0xFE7C, 0xFE7C), (0xFE7E, 0xFE7E) ]

/-- Characters whose compatibility form begins with a mark. -/
def unstableStart : CharClass :=
  union unstable (ofRanges [(0xE33, 0xE33), (0xEB3, 0xEB3), (0xFF9E, 0xFF9F)])

/-- The last two code points of every plane, and those set aside between two blocks of Arabic. -/
def noncharacter : CharClass :=
  union (range 0xFDD0 0xFDEF)
    (ofRanges ((List.range 17).map fun plane =>
      (plane * 0x10000 + 0xFFFE, plane * 0x10000 + 0xFFFF)))

/-- The class of the characters that have a property. -/
def ofFlag? : String → Option CharClass
  | "alphabetic" | "alpha" => some alphabetic
  | "lowercase" | "lower" => some lowercase
  | "uppercase" | "upper" => some uppercase
  | "cased" => some cased
  | "caseignorable" | "ci" => some (ofGaps Text.Property.caseIgnorable)
  | "whitespace" | "wspace" | "space" => some blank
  | "math" => some (union (categories [.mathSymbol]) (ofGaps Text.Property.otherMath))
  | "dash" => some (ofGaps Text.Property.dash)
  | "hexdigit" | "hex" => some (ofGaps Text.Property.hexDigit)
  | "asciihexdigit" | "ahex" => some (ofRanges [(48, 57), (65, 70), (97, 102)])
  | "ideographic" | "ideo" => some (ofGaps Text.Property.ideographic)
  | "unifiedideograph" | "uideo" => some (ofGaps Text.Property.unifiedIdeograph)
  | "radical" => some (ofRanges [(0x2E80, 0x2E99), (0x2E9B, 0x2EF3), (0x2F00, 0x2FD5)])
  | "emoji" => some (ofGaps Text.Property.emoji)
  | "emojipresentation" | "epres" => some (ofGaps Text.Property.emojiPresentation)
  | "emojimodifier" | "emod" => some (range 0x1F3FB 0x1F3FF)
  | "emojimodifierbase" | "ebase" => some (ofGaps Text.Property.emojiModifierBase)
  | "emojicomponent" | "ecomp" => some (ofGaps Text.Property.emojiComponent)
  | "extendedpictographic" | "extpict" => some (ofGaps Text.Property.extendedPictographic)
  | "regionalindicator" | "ri" => some (range 0x1F1E6 0x1F1FF)
  | "idstart" | "ids" => some identifierStart
  | "idcontinue" | "idc" => some identifierContinue
  | "xidstart" | "xids" => some (combined .difference identifierStart unstableStart)
  | "xidcontinue" | "xidc" => some (combined .difference identifierContinue unstable)
  | "patternwhitespace" | "patws" =>
      some (ofRanges [(9, 13), (32, 32), (0x85, 0x85), (0x200E, 0x200F), (0x2028, 0x2029)])
  | "quotationmark" | "qmark" => some (ofGaps Text.Property.quotationMark)
  | "terminalpunctuation" | "term" => some (ofGaps Text.Property.terminalPunctuation)
  | "sentenceterminal" | "sterm" => some (ofGaps Text.Property.sentenceTerminal)
  | "diacritic" | "dia" => some (ofGaps Text.Property.diacritic)
  | "extender" | "ext" => some (ofGaps Text.Property.extender)
  | "softdotted" | "sd" => some (ofGaps Text.Property.softDotted)
  | "joincontrol" | "joinc" => some (range 0x200C 0x200D)
  | "defaultignorablecodepoint" | "di" => some (ofGaps Text.Property.defaultIgnorable)
  | "noncharactercodepoint" | "nchar" => some noncharacter
  | "bidicontrol" | "bidic" =>
      some (ofRanges [(0x61C, 0x61C), (0x200E, 0x200F), (0x202A, 0x202E), (0x2066, 0x2069)])
  | "variationselector" | "vs" =>
      some (ofRanges [(0x180B, 0x180D), (0x180F, 0x180F), (0xFE00, 0xFE0F), (0xE0100, 0xE01EF)])
  | "deprecated" | "dep" =>
      some (ofRanges [(0x149, 0x149), (0x673, 0x673), (0xF77, 0xF77), (0xF79, 0xF79),
        (0x17A3, 0x17A4), (0x206A, 0x206F), (0x2329, 0x232A), (0xE0001, 0xE0001)])
  | "logicalorderexception" | "loe" =>
      some (ofRanges [(0xE40, 0xE44), (0xEC0, 0xEC4), (0x19B5, 0x19B7), (0x19BA, 0x19BA),
        (0xAAB5, 0xAAB6), (0xAAB9, 0xAAB9), (0xAABB, 0xAABC)])
  | _ => Option.none

/-- The class that a name alone gives: a property, a general category or a script, whichever is
found first. -/
def ofProperty? (name : List Char) : Option CharClass :=
  let plain := String.ofList (normalName name)
  (ofFlag? plain).or ((ofCategory? plain).or ((scriptNamed? plain).map script))

/-- The class of the characters at which a property has a value. -/
def ofValue? (name value : List Char) : Option CharClass :=
  let plain := String.ofList (normalName value)
  match String.ofList (normalName name) with
  | "generalcategory" | "gc" => ofCategory? plain
  | "script" | "sc" => (scriptNamed? plain).map script
  | "scriptextensions" | "scx" => (scriptNamed? plain).map scriptUse
  | _ => Option.none

end CharClass
end Regex
end Xacml
