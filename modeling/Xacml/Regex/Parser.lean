import Xacml.Regex.Nesting
import Xacml.Regex.Property
import Xacml.Text.Cut
import Xacml.Text.Numeral

/-!
# Reading patterns

Patterns are written with alternatives, groups, flags, classes, assertions and counted
repetitions; there are no references to groups and no look-around.

* `Regex.Flags` tells how the characters of a pattern are understood,
* `Regex.Reader` is what is left of a pattern, with the flags and the group names so far,
* `Regex.read?` reads a pattern.
-/

namespace Xacml
namespace Regex

/-! ## Flags -/

/-- How the characters of a pattern are understood. -/
structure Flags where
  caseless : Bool
  multiLine : Bool
  dotMatchesAll : Bool
  extended : Bool
  unicode : Bool
  crlf : Bool
  deriving DecidableEq, Repr

namespace Flags

def start : Flags := ⟨false, false, false, false, true, false⟩

/-- Sets or clears the flag with a given letter. -/
def set? (flags : Flags) (letter : Char) (on : Bool) : Option Flags :=
  match letter with
  | 'i' => some { flags with caseless := on }
  | 'm' => some { flags with multiLine := on }
  | 's' => some { flags with dotMatchesAll := on }
  | 'x' => some { flags with extended := on }
  | 'u' => some { flags with unicode := on }
  | 'R' => some { flags with crlf := on }
  | 'U' => some flags
  | _ => none

/-- The class of the characters that are in a class up to case, if case does not count. -/
def folded (flags : Flags) (chars : CharClass) : CharClass :=
  if flags.caseless then (if flags.unicode then .caseless chars else .asciiCaseless chars)
  else chars

/-- Negates a class.  Outside Unicode the result would have octets that are no characters. -/
def negated? (flags : Flags) (chars : CharClass) : Option CharClass :=
  if flags.unicode then some (.negated chars) else none

/-- The class of a letter such as the `d` of `\d`; capitals negate. -/
def letterClass? (flags : Flags) (letter : Char) : Option CharClass :=
  let chars := match letter.toLower with
    | 'd' => some (if flags.unicode then CharClass.digit else .range 48 57)
    | 's' => some (if flags.unicode then CharClass.blank
        else .union (.range 9 13) (.range 32 32))
    | 'w' => some (if flags.unicode then CharClass.word else .asciiWord)
    | _ => none
  if letter.isUpper then chars.bind flags.negated? else chars

def dot? (flags : Flags) : Option Regex :=
  if !flags.unicode then none
  else if flags.dotMatchesAll then some (.one .any)
  else if flags.crlf then some (.one (.negated (.union (.only '\r') (.only '\n'))))
  else some (.one (.negated (.only '\n')))

def circumflex (flags : Flags) : Assertion :=
  if !flags.multiLine then .textStart else if flags.crlf then .crlfLineStart else .lineStart

def dollar (flags : Flags) : Assertion :=
  if !flags.multiLine then .textEnd else if flags.crlf then .crlfLineEnd else .lineEnd

end Flags

/-! ## What is left of a pattern -/

/-- What is left of a pattern, with the flags and the group names so far. -/
structure Reader where
  rest : List Char
  flags : Flags
  names : List (List Char)

def afterLine (text : List Char) : List Char :=
  (text.dropWhile fun c => c ≠ '\n').drop 1

/-- A text without the white space and the comments at its start. -/
def skipComments : Nat → List Char → List Char
  | 0, text => text
  | fuel + 1, text =>
      match text.dropWhile Text.isBlank with
      | '#' :: rest => skipComments fuel (afterLine rest)
      | rest => rest

namespace Reader

/-- Passes over white space and comments, if they do not count. -/
def skip (reader : Reader) : Reader :=
  if reader.flags.extended then
    { reader with rest := skipComments (reader.rest.length + 1) reader.rest }
  else reader

/-- Passes over the first character and what does not count after it. -/
def next (reader : Reader) : Reader :=
  skip { reader with rest := reader.rest.drop 1 }

def bump (reader : Reader) : Reader :=
  { reader with rest := reader.rest.drop 1 }

/-- The character after the first one and what does not count after that. -/
def peek? (reader : Reader) : Option Char :=
  reader.next.rest.head?

end Reader

/-! ## Escapes -/

/-- One item of a pattern or of a class. -/
inductive Item
  | char (c : Char)
  | chars (set : CharClass)
  | assertion (condition : Assertion)

/-- Whether a backslash before a character stands for the character. -/
def isEscapable (c : Char) : Bool :=
  c.toNat < 128 && !c.isAlphanum && c ≠ '<' && c ≠ '>'

/-- The character that hexadecimal digits denote. -/
def charOfHex? (digits : List Char) : Option Char :=
  let value := digits.foldl (fun value c => 16 * value + (Text.hexDigit? c).getD 0) 0
  if digits.isEmpty || !digits.all (fun c => (Text.hexDigit? c).isSome) then none
  else if 0xFFFFFFFF < value then none
  else if value < 0xD800 || (0xDFFF < value && value < 0x110000) then some (Char.ofNat value)
  else none

/-- Takes the given number of characters, passing over what does not count. -/
def takeChars : Nat → Reader → Option (List Char × Reader)
  | 0, reader => some ([], reader)
  | n + 1, reader =>
      match reader.rest with
      | [] => none
      | c :: _ => (takeChars n reader.next).map fun (cs, reader) => (c :: cs, reader)

/-- Takes the characters before a mark, passing over what does not count. -/
def takeUntil (mark : Char) : Nat → Reader → Option (List Char × Reader)
  | 0, _ => none
  | fuel + 1, reader =>
      match reader.rest with
      | [] => none
      | c :: _ =>
          if c = mark then some ([], reader.bump)
          else (takeUntil mark fuel reader.next).map fun (cs, reader) => (c :: cs, reader)

/-- Reads a character by its number; the reader stands behind `x`, `u` or `U`. -/
def readHex? (width : Nat) (reader : Reader) : Option (Char × Reader) :=
  match reader.rest with
  | '{' :: rest => do
      let (digits, after) ← takeUntil '}' (rest.length + 1) reader.next
      let c ← charOfHex? digits
      return (c, after)
  | _ => do
      let (digits, after) ← takeChars width reader
      let c ← charOfHex? digits
      return (c, after)

/-- The property that stands between the braces of `\p`, and whether it is its complement that is
meant. -/
def propertyOf? (text : List Char) : Option (CharClass × Bool) :=
  match Text.cut? '=' text with
  | some (key, value) =>
      if key.getLast? = some '!' then (CharClass.ofValue? key.dropLast value).map (·, true)
      else (CharClass.ofValue? key value).map (·, false)
  | none =>
      match Text.cut? ':' text with
      | some (key, value) => (CharClass.ofValue? key value).map (·, false)
      | none => (CharClass.ofProperty? text).map (·, false)

/-- Reads the name of a property; the reader stands behind `p` or `P`. -/
def readProperty? (negated : Bool) (reader : Reader) : Option (CharClass × Reader) := do
  if !reader.flags.unicode then none
  let ((chars, complement), after) ← match reader.rest with
    | [] => none
    | '{' :: rest => do
        let (name, after) ← takeUntil '}' (rest.length + 1) reader.next
        let chars ← propertyOf? name
        pure (chars, after)
    | c :: _ => do
        if c = '\\' then none
        let chars ← CharClass.ofProperty? [c]
        pure ((chars, false), reader.bump)
  let folded := reader.flags.folded chars
  return (if negated != complement then .negated folded else folded, after)

def wordAssertion? (ascii : Bool) : String → Option Assertion
  | "start" => some (.wordStart ascii false)
  | "end" => some (.wordEnd ascii false)
  | "start-half" => some (.wordStart ascii true)
  | "end-half" => some (.wordEnd ascii true)
  | _ => none

/-- Whether a character may stand in the name of a word boundary. -/
def isBoundaryName (c : Char) : Bool :=
  c.isAlpha || c = '-'

/-- Reads what may follow `\b`: the name of a word boundary in braces.  Braces that do not begin
with a letter belong to a repetition. -/
def readBoundary? (reader : Reader) : Option (Item × Reader) :=
  let ascii := !reader.flags.unicode
  let plain := some (.assertion (.boundary ascii false), reader)
  match reader.rest with
  | '{' :: rest =>
      match reader.next.rest with
      | [] => none
      | c :: _ =>
          if !isBoundaryName c then plain
          else do
            let (name, after) ← takeUntil '}' (rest.length + 1) reader.next
            let assertion ← wordAssertion? ascii (String.ofList name)
            return (.assertion assertion, after)
  | _ => plain

/-- Reads an escape; the reader stands behind the backslash. -/
def readEscape? (reader : Reader) : Option (Item × Reader) :=
  let ascii := !reader.flags.unicode
  let after := reader.bump
  match reader.rest with
  | [] => none
  | c :: _ =>
      match c with
      | 'x' => (readHex? 2 reader.next).map fun (c, reader) => (.char c, reader)
      | 'u' => (readHex? 4 reader.next).map fun (c, reader) => (.char c, reader)
      | 'U' => (readHex? 8 reader.next).map fun (c, reader) => (.char c, reader)
      | 'p' | 'P' =>
          (readProperty? (c = 'P') reader.next).map fun (chars, reader) => (.chars chars, reader)
      | 'd' | 's' | 'w' | 'D' | 'S' | 'W' =>
          (reader.flags.letterClass? c).map fun chars => (.chars chars, after)
      | 'a' => some (.char (Char.ofNat 7), after)
      | 'f' => some (.char (Char.ofNat 12), after)
      | 't' => some (.char '\t', after)
      | 'n' => some (.char '\n', after)
      | 'r' => some (.char '\r', after)
      | 'v' => some (.char (Char.ofNat 11), after)
      | 'A' => some (.assertion .textStart, after)
      | 'z' => some (.assertion .textEnd, after)
      | 'b' => readBoundary? after
      | 'B' => some (.assertion (.boundary ascii true), after)
      | '<' => some (.assertion (.wordStart ascii false), after)
      | '>' => some (.assertion (.wordEnd ascii false), after)
      | _ => if isEscapable c then some (.char c, after) else none

/-! ## Classes in brackets -/

def readClassItem? (reader : Reader) : Option (Item × Reader) :=
  match reader.rest with
  | [] => none
  | '\\' :: _ => readEscape? reader.bump
  | c :: _ => some (.char c, reader.bump)

/-- Reads an item of a class or a range between two characters. -/
def readClassRange? (reader : Reader) : Option (CharClass × Reader) := do
  let (first, after) ← readClassItem? reader
  let after := after.skip
  let mark ← after.rest.head?
  if mark ≠ '-' || after.peek? = some ']' || after.peek? = some '-' then
    match first with
    | .char c => return (.only c, after)
    | .chars chars => return (chars, after)
    | .assertion _ => none
  else
    let (last, after) ← readClassItem? after.next
    match first, last with
    | .char a, .char b => if b.toNat < a.toNat then none else return (.range a.toNat b.toNat, after)
    | _, _ => none

/-- Reads a class that is named between `[:` and `:]`. -/
def readNamedClass? (reader : Reader) : Option (CharClass × Reader) :=
  match reader.rest with
  | '[' :: ':' :: rest =>
      let (negated, rest) := match rest with
        | '^' :: rest => (true, rest)
        | rest => (false, rest)
      let name := rest.takeWhile fun c => c ≠ ':'
      match rest.drop name.length, CharClass.namedRanges? (String.ofList name) with
      | ':' :: ']' :: after, some ranges =>
          let chars := reader.flags.folded (.ofRanges ranges)
          some (if negated then .negated chars else chars, { reader with rest := after })
      | _, _ => none
  | _ => none

/-- Passes over hyphens at the start of a class, which stand for themselves. -/
def takeHyphens : Nat → Reader → List (Nested CharClass) → List (Nested CharClass) × Reader
  | 0, reader, items => (items, reader)
  | fuel + 1, reader, items =>
      match reader.rest with
      | '-' :: _ => takeHyphens fuel reader.next (.flat (.only '-') :: items)
      | _ => (items, reader)

/-- Reads the start of a class up to its first ordinary item: whether it is negated, and the
hyphens or the bracket that stand for themselves. -/
def readClassStart (reader : Reader) : Bool × List (Nested CharClass) × Reader :=
  let inside := reader.next
  let (negated, inside) := match inside.rest with
    | '^' :: _ => (true, inside.next)
    | _ => (false, inside)
  let (items, inside) := takeHyphens inside.rest.length inside []
  match items, inside.rest with
  | [], ']' :: _ => (negated, [.flat (.only ']')], inside.next)
  | _, _ => (negated, items, inside)

/-- The class of the items so far, combined with what stands before the last operator. -/
def closeOperand (flags : Flags) (left : Option (SetOp × Nested CharClass))
    (items : List (Nested CharClass)) : Nested CharClass :=
  let right := CharClass.unionAll (items.map Nested.value)
  let levels := levelsOf (items.map Nested.levels)
  match left with
  | none => ⟨right, levels⟩
  | some (op, left) =>
      ⟨.combined op (flags.folded left.value) (flags.folded right), max left.levels levels + 1⟩

/-- The operator that two characters denote. -/
def setOp? : Char → Char → Option SetOp
  | '&', '&' => some .intersection
  | '-', '-' => some .difference
  | '~', '~' => some .symmetricDifference
  | _, _ => none

/-- Reads a class up to its closing bracket.  `left` stands before the last operator, `items` are
the items after it; a named class stands only within another class. -/
def readClassBody? : Nat → Bool → Option (SetOp × Nested CharClass) → List (Nested CharClass) →
    Reader → Option (Nested CharClass × Reader)
  | 0, _, _, _, _ => none
  | fuel + 1, negated, left, items, reader =>
      let reader := reader.skip
      match reader.rest with
      | [] => none
      | '[' :: _ =>
          -- A bracket that begins no named class begins a class of its own.
          match readNamedClass? reader with
          | some (chars, after) => readClassBody? fuel negated left (.flat chars :: items) after
          | none =>
              let (innerNegated, innerItems, inside) := readClassStart reader
              match readClassBody? fuel innerNegated none innerItems inside with
              | some (chars, after) => readClassBody? fuel negated left (chars :: items) after
              | none => none
      | ']' :: _ =>
          -- Case is ignored before the complement is taken, never after.
          let chars := (closeOperand reader.flags left items).within reader.flags.folded
          if negated then
            (reader.flags.negated? chars.value).map fun negation =>
              ({ chars with value := negation }, reader.bump)
          else some (chars, reader.bump)
      | c :: d :: rest =>
          match setOp? c d with
          | some op =>
              readClassBody? fuel negated (some (op, closeOperand reader.flags left items)) []
                { reader with rest }
          | none =>
              match readClassRange? reader with
              | some (chars, after) => readClassBody? fuel negated left (.flat chars :: items) after
              | none => none
      | _ => none

/-- Reads a class; the reader stands before its opening bracket. -/
def readClass? (reader : Reader) : Option (Nested CharClass × Reader) :=
  let (negated, items, inside) := readClassStart reader
  readClassBody? (reader.rest.length + 1) negated none items inside

/-! ## Repetitions -/

/-- Takes the digits at the start, passing over what does not count. -/
def takeDigits : Nat → Reader → List Char × Reader
  | 0, reader => ([], reader)
  | fuel + 1, reader =>
      match reader.rest with
      | c :: _ =>
          if c.isDigit then
            let (digits, after) := takeDigits fuel reader.next
            (c :: digits, after)
          else ([], reader)
      | [] => ([], reader)

/-- Reads a decimal number with white space around it; `none` stands for no digits. -/
def readCount? (reader : Reader) : Option (Option Nat × Reader) :=
  let start := reader.rest.dropWhile Text.isBlank
  let (digits, after) := takeDigits start.length { reader with rest := start }
  let after := { after with rest := after.rest.dropWhile Text.isBlank }
  if digits.isEmpty then some (none, after)
  else
    match Text.natural? 0xFFFFFFFF digits with
    | some n => some (some n, after)
    | none => none

/-- Passes over the mark of a reluctant repetition. -/
def skipReluctant (reader : Reader) : Reader :=
  match reader.rest with
  | '?' :: _ => reader.bump
  | _ => reader

/-- Reads the bounds of a repetition; the reader stands before the opening brace. -/
def readBounds? (reader : Reader) : Option ((Nat × Option Nat) × Reader) := do
  let (least, after) ← readCount? reader.next
  let (bounds, after) ← match after.rest with
    | ',' :: _ =>
        let after := after.next
        match after.rest with
        | '}' :: _ => do
            let least ← least
            pure ((least, none), after)
        | _ => do
            let least ← least
            let (most, after) ← readCount? after
            let most ← most
            if most < least then none
            pure ((least, some most), after)
    | _ => do
        let least ← least
        pure ((least, some least), after)
  match after.rest with
  | '}' :: _ => return (bounds, skipReluctant after.next)
  | _ => none

/-! ## Groups -/

/-- Whether a character may stand in the name of a group. -/
def isGroupNameChar (first : Bool) (c : Char) : Bool :=
  let letter := c = '_' || CharClass.alphabetic.has c
  if first then letter
  else letter || c = '.' || c = '[' || c = ']' ||
    (CharClass.categories [.decimalNumber, .otherNumber]).has c

/-- Reads the name of a group up to its closing bracket; no two groups share a name. -/
def readGroupName? (reader : Reader) : Option Reader :=
  match Text.cut? '>' reader.rest with
  | some (first :: more, rest) =>
      let name := first :: more
      if isGroupNameChar true first && more.all (isGroupNameChar false) &&
          !reader.names.contains name then
        some { reader with rest, names := name :: reader.names }
      else none
  | _ => none

/-- Reads flags up to the colon or the parenthesis that ends them.  `seen` are the letters so far,
`on` is false after the minus sign. -/
def readFlags? : List Char → Flags → List Char → Bool →
    Option (Flags × List Char × Char × List Char)
  | [], _, _, _ => none
  | c :: rest, flags, seen, on =>
      if c = ':' || c = ')' then
        if seen.head? = some '-' then none else some (flags, seen, c, rest)
      else if seen.contains c then none
      else if c = '-' then readFlags? rest flags (c :: seen) false
      else
        match flags.set? c on with
        | some flags => readFlags? rest flags (c :: seen) on
        | none => none

/-- What an opening parenthesis begins. -/
inductive Opening
  | group (inside : Reader)
  | flags (after : Reader)

/-- Reads the start of a group; the reader stands behind the opening parenthesis. -/
def readOpening? (reader : Reader) : Option Opening :=
  let reader := reader.skip
  match reader.rest with
  -- Conditions on what stands before or behind are not supported.
  | '?' :: '=' :: _ | '?' :: '!' :: _ | '?' :: '<' :: '=' :: _ | '?' :: '<' :: '!' :: _ => none
  | '?' :: 'P' :: '<' :: rest | '?' :: '<' :: rest =>
      (readGroupName? { reader with rest }).map .group
  | '?' :: rest =>
      match readFlags? rest reader.flags [] true with
      | some (flags, seen, mark, rest) =>
          let after := { reader with rest, flags }
          if mark = ':' then some (.group after)
          -- Without flags the question mark is a repetition of nothing.
          else if seen.isEmpty then none
          else some (.flags after)
      | none => none
  | _ => some (.group reader)

/-! ## Patterns -/

def Item.regex (flags : Flags) : Item → Regex
  | .char c => .one (flags.folded (.only c))
  | .chars set => .one set
  | .assertion condition => .here condition

/-- Reads a single character, an escape or an assertion. -/
def readPrimitive? (reader : Reader) : Option (Regex × Reader) :=
  match reader.rest with
  | [] => none
  | '\\' :: _ => (readEscape? reader.bump).map fun (item, after) => (item.regex reader.flags, after)
  | '.' :: _ => reader.flags.dot?.map fun regex => (regex, reader.bump)
  | '^' :: _ => some (.here reader.flags.circumflex, reader.bump)
  | '$' :: _ => some (.here reader.flags.dollar, reader.bump)
  | c :: _ => some ((Item.char c).regex reader.flags, reader.bump)

/-- The parts of a branch, the last one first; flags leave nothing but a part. -/
def branch (parts : List (Option (Nested Regex))) : Nested Regex :=
  ⟨seqAll ((parts.reverse.filterMap id).map Nested.value),
    levelsOf (parts.map fun part => part.elim 0 Nested.levels)⟩

/-- Alternative branches, the last one first. -/
def alternatives (last : Nested Regex) (branches : List (Nested Regex)) : Nested Regex :=
  ⟨branches.foldl (fun later branch => .alt branch.value later) last.value,
    levelsOf ((last :: branches).map Nested.levels)⟩

/-- Reads the alternatives up to a closing parenthesis or the end.  `branches` are those so far, and
`parts` the parts of the current one, the last one first; setting flags is a part that cannot be
repeated. -/
def readBranches? : Nat → List (Nested Regex) → List (Option (Nested Regex)) → Reader →
    Option (Nested Regex × Reader)
  | 0, _, _, _ => none
  | fuel + 1, branches, parts, reader =>
      let reader := reader.skip
      let continue? (part : Option (Nested Regex)) (after : Reader) :=
        readBranches? fuel branches (part :: parts) after
      let repeated (least : Nat) (most : Option Nat) (after : Reader) :=
        match parts with
        | some part :: parts =>
            readBranches? fuel branches (some (part.within (.times · least most)) :: parts) after
        | _ => none
      match reader.rest with
      | [] | ')' :: _ => some (alternatives (branch parts) branches, reader)
      | '|' :: _ => readBranches? fuel (branch parts :: branches) [] reader.bump
      | '(' :: _ =>
          match readOpening? reader.bump with
          | some (.flags after) => continue? none after
          | some (.group inside) =>
              match readBranches? fuel [] [] inside with
              | some (regex, after) =>
                  match after.rest with
                  | ')' :: rest =>
                      -- Flags set inside a group end with it.
                      continue? (some (regex.within id)) { after with rest, flags := reader.flags }
                  | _ => none
              | none => none
          | none => none
      | '[' :: _ =>
          match readClass? reader with
          | some (chars, after) => continue? (some { chars with value := .one chars.value }) after
          | none => none
      | '?' :: _ => repeated 0 (some 1) (skipReluctant reader.bump)
      | '*' :: _ => repeated 0 none (skipReluctant reader.bump)
      | '+' :: _ => repeated 1 none (skipReluctant reader.bump)
      | '{' :: _ =>
          match readBounds? reader with
          | some ((least, most), after) => repeated least most after
          | none => none
      | _ =>
          match readPrimitive? reader with
          | some (regex, after) => continue? (some (.flat regex)) after
          | none => none

def read? (pattern : String) : Option Regex :=
  let rest := pattern.toList
  match readBranches? (rest.length + 1) [] [] ⟨rest, Flags.start, []⟩ with
  | some (regex, reader) =>
      if reader.rest.isEmpty && regex.levels ≤ maxNesting then some regex.value else none
  | none => none

end Regex
end Xacml
