import Mathlib.Data.List.DropRight
import Mathlib.Tactic.SplitIfs
import Xacml.Json.Reader
import Xacml.Json.Writer

/-!
# Reading written JSON texts

What is written of a value is read back, with or without white space, as long as arrays and objects
do not nest too deeply.

* `Json.Layout` says where white space stands; `Json.layOut` writes a value in a layout, and
  `write_eq_layOut` and `writePretty_eq_layOut` say that both ways to write one do so,
* `readString_write` reads a string back, `readValue_layOut` a value without numbers, with what
  follows it: if it nests too deeply, it is refused,
* `read?_render` and `read?_renderPretty` put the two together for whole texts.
-/

namespace Xacml
namespace Json

/-! ## Strings -/

/-- How a character is written: after a backslash, as a Unicode escape, or as it is. -/
theorem writeChar_cases (c : Char) :
    (∃ letter, writeChar c = ['\\', letter] ∧ simpleEscape? letter = some c) ∨
      (writeChar c = ['\\', 'u', '0', '0'] ++ controlDigits c ∧ c.toNat < 0x20) ∨
      (writeChar c = [c] ∧ c ≠ '"' ∧ c ≠ '\\' ∧ ¬ c.toNat < 0x20) := by
  have hcode {n : Nat} (h : c.toNat = n) : Char.ofNat n = c := h ▸ Char.ofNat_toNat c
  unfold writeChar
  split_ifs
  case pos h => exact .inl ⟨'"', rfl, by rw [h]; rfl⟩
  case pos h => exact .inl ⟨'\\', rfl, by rw [h]; rfl⟩
  case pos h => exact .inl ⟨'n', rfl, by rw [h]; rfl⟩
  case pos h => exact .inl ⟨'r', rfl, by rw [h]; rfl⟩
  case pos h => exact .inl ⟨'t', rfl, by rw [h]; rfl⟩
  case pos h => exact .inl ⟨'b', rfl, congrArg some (hcode h)⟩
  case pos h => exact .inl ⟨'f', rfl, congrArg some (hcode h)⟩
  case pos h => exact .inr (.inl ⟨rfl, h⟩)
  case neg hquote hbackslash _ _ _ _ _ h => exact .inr (.inr ⟨rfl, hquote, hbackslash, h⟩)

theorem readString_escape {letter c : Char} (h : simpleEscape? letter = some c)
    (read rest : List Char) :
    readString read ('\\' :: letter :: rest) = readString (c :: read) rest := by
  have hletter : letter ≠ 'u' := by
    rintro rfl
    cases h
  rw [readString.eq_def]
  split <;> grind

/-- A Unicode escape of a character that is no half of a surrogate pair, whatever follows it. -/
theorem readString_unicode {a b c d : Char} {unit : Nat} (h : hexUnit? a b c d = some unit)
    (hunit : unit < 0xD800) (read rest : List Char) :
    readString read ('\\' :: 'u' :: a :: b :: c :: d :: rest) =
      readString (Char.ofNat unit :: read) rest := by
  have hhigh : isHighSurrogate unit = false := by simp [isHighSurrogate]; omega
  have hlow : isLowSurrogate unit = false := by simp [isLowSurrogate]; omega
  conv => lhs; rw [readString.eq_def]
  split <;> grind

theorem hexUnit?_controlDigits {n : Nat} (h : n < 0x20) :
    hexUnit? '0' '0' (Nat.digitChar (n / 16)) (Nat.digitChar (n % 16)) = some n := by
  revert n
  decide

/-- A written character is read back. -/
theorem readString_writeChar (read : List Char) (c : Char) (rest : List Char) :
    readString read (writeChar c ++ rest) = readString (c :: read) rest := by
  rcases writeChar_cases c with
    ⟨letter, hwrite, hletter⟩ | ⟨hwrite, hc⟩ | ⟨hwrite, hquote, hbackslash, hc⟩
  · rw [hwrite]
    exact readString_escape hletter read rest
  · rw [hwrite]
    have hread := readString_unicode (hexUnit?_controlDigits hc) (by omega) read rest
    rwa [Char.ofNat_toNat] at hread
  · rw [hwrite, List.singleton_append, readString.eq_def]
    split <;> grind

/-- The characters of a string are read back up to the closing quotation mark. -/
theorem readString_flatMap (text read rest : List Char) :
    readString read (text.flatMap writeChar ++ '"' :: rest) =
      some (read.reverse ++ text, rest) := by
  induction text generalizing read with
  | nil => simp [readString]
  | cons c text ih =>
      rw [List.flatMap_cons, List.append_assoc, readString_writeChar, ih]
      simp

theorem readString_write (s : String) (rest : List Char) :
    readString [] (s.toList.flatMap writeChar ++ '"' :: rest) = some (s.toList, rest) :=
  readString_flatMap s.toList [] rest

/-! ## White space -/

theorem skipSpace_append {space : List Char} (h : ∀ c ∈ space, isSpace c = true)
    (text : List Char) : skipSpace (space ++ text) = skipSpace text :=
  List.dropWhile_append_of_pos h

theorem skipSpace_skipSpace (text : List Char) : skipSpace (skipSpace text) = skipSpace text :=
  List.dropWhile_idempotent _ _

theorem readValue_skipSpace (steps levels : Nat) (text : List Char) :
    readValue steps levels (skipSpace text) = readValue steps levels text := by
  cases steps with
  | zero => rw [readValue, readValue]
  | succ steps => rw [readValue, readValue, skipSpace_skipSpace]

theorem readItems_skipSpace (steps levels : Nat) (text : List Char) :
    readItems steps levels (skipSpace text) = readItems steps levels text := by
  cases steps with
  | zero => rw [readItems, readItems]
  | succ steps => rw [readItems, readItems, readValue_skipSpace]

theorem readMembers_skipSpace (steps levels : Nat) (text : List Char) :
    readMembers steps levels (skipSpace text) = readMembers steps levels text := by
  cases steps with
  | zero => rw [readMembers, readMembers]
  | succ steps => rw [readMembers, readMembers, skipSpace_skipSpace]

/-! ## Layouts -/

/-- Where white space stands in a written value: before what is on a level, and after a colon. -/
structure Layout where
  line : Nat → List Char
  gap : List Char
  isSpace_line : ∀ level, ∀ c ∈ line level, isSpace c = true
  isSpace_gap : ∀ c ∈ gap, isSpace c = true

/-- No white space. -/
def Layout.compact : Layout where
  line _ := []
  gap := []
  isSpace_line _ _ h := nomatch h
  isSpace_gap _ h := nomatch h

/-- One item or member a line. -/
def Layout.lines : Layout where
  line := newLine
  gap := [' ']
  isSpace_line level c h := by
    rcases List.mem_cons.1 h with rfl | h
    · rfl
    · rw [List.eq_of_mem_replicate h]
      rfl
  isSpace_gap c h := by
    rw [List.mem_singleton.1 h]
    rfl

mutual

/-- The text of a value on a level in a layout. -/
def layOut (layout : Layout) (level : Nat) : Json → List Char
  | .array [] => ['[', ']']
  | .object [] => ['{', '}']
  | .array items => '[' :: layOutItems layout (level + 1) items ++ layout.line level ++ [']']
  | .object members =>
      '{' :: layOutMembers layout (level + 1) members ++ layout.line level ++ ['}']
  | .null => ['n', 'u', 'l', 'l']
  | .bool true => ['t', 'r', 'u', 'e']
  | .bool false => ['f', 'a', 'l', 's', 'e']
  | .number n => writeNumber n
  | .string s => writeString s

/-- The items of an array in a layout. -/
def layOutItems (layout : Layout) (level : Nat) : List Json → List Char
  | [] => []
  | [item] => layout.line level ++ layOut layout level item
  | item :: items =>
      layout.line level ++ layOut layout level item ++ ',' :: layOutItems layout level items

/-- The members of an object in a layout. -/
def layOutMembers (layout : Layout) (level : Nat) : List (String × Json) → List Char
  | [] => []
  | [(name, value)] =>
      layout.line level ++ writeString name ++ ':' :: layout.gap ++ layOut layout level value
  | (name, value) :: members =>
      layout.line level ++ writeString name ++ ':' :: layout.gap ++ layOut layout level value ++
        ',' :: layOutMembers layout level members

end

mutual

theorem write_eq_layOut (level : Nat) : ∀ json : Json, json.write = json.layOut .compact level
  | .array [] => rfl
  | .object [] => rfl
  | .array (item :: items) => by
      simp [write, layOut, writeItems_eq_layOut (level + 1) (item :: items), Layout.compact]
  | .object (member :: members) => by
      simp [write, layOut, writeMembers_eq_layOut (level + 1) (member :: members), Layout.compact]
  | .null => rfl
  | .bool true => rfl
  | .bool false => rfl
  | .number _ => rfl
  | .string _ => rfl

theorem writeItems_eq_layOut (level : Nat) :
    ∀ items : List Json, writeItems items = layOutItems .compact level items
  | [] => rfl
  | [item] => by simp [writeItems, layOutItems, write_eq_layOut level item, Layout.compact]
  | item :: next :: items => by
      simp [writeItems, layOutItems, write_eq_layOut level item,
        writeItems_eq_layOut level (next :: items), Layout.compact]

theorem writeMembers_eq_layOut (level : Nat) :
    ∀ members : List (String × Json), writeMembers members = layOutMembers .compact level members
  | [] => rfl
  | [(name, value)] => by
      simp [writeMembers, layOutMembers, write_eq_layOut level value, Layout.compact]
  | (name, value) :: next :: members => by
      simp [writeMembers, layOutMembers, write_eq_layOut level value,
        writeMembers_eq_layOut level (next :: members), Layout.compact]

end

mutual

theorem writePretty_eq_layOut (level : Nat) :
    ∀ json : Json, json.writePretty level = json.layOut .lines level
  | .array [] => rfl
  | .object [] => rfl
  | .array (item :: items) => by
      simp [writePretty, layOut, writePrettyItems_eq_layOut (level + 1) (item :: items),
        Layout.lines]
  | .object (member :: members) => by
      simp [writePretty, layOut, writePrettyMembers_eq_layOut (level + 1) (member :: members),
        Layout.lines]
  | .null => rfl
  | .bool true => rfl
  | .bool false => rfl
  | .number _ => rfl
  | .string _ => rfl

theorem writePrettyItems_eq_layOut (level : Nat) :
    ∀ items : List Json, writePrettyItems level items = layOutItems .lines level items
  | [] => rfl
  | [item] => by
      simp [writePrettyItems, layOutItems, writePretty_eq_layOut level item, Layout.lines]
  | item :: next :: items => by
      simp [writePrettyItems, layOutItems, writePretty_eq_layOut level item,
        writePrettyItems_eq_layOut level (next :: items), Layout.lines]

theorem writePrettyMembers_eq_layOut (level : Nat) :
    ∀ members : List (String × Json),
      writePrettyMembers level members = layOutMembers .lines level members
  | [] => rfl
  | [(name, value)] => by
      simp [writePrettyMembers, layOutMembers, writePretty_eq_layOut level value, Layout.lines]
  | (name, value) :: next :: members => by
      simp [writePrettyMembers, layOutMembers, writePretty_eq_layOut level value,
        writePrettyMembers_eq_layOut level (next :: members), Layout.lines]

end

/-! ## Values without numbers -/

mutual

/-- Whether there is no number in a value. -/
def isNumberFree : Json → Bool
  | number _ => false
  | array items => itemsNumberFree items
  | object members => membersNumberFree members
  | _ => true

/-- Whether there is no number in an item. -/
def itemsNumberFree : List Json → Bool
  | [] => true
  | item :: items => isNumberFree item && itemsNumberFree items

/-- Whether there is no number in the value of a member. -/
def membersNumberFree : List (String × Json) → Bool
  | [] => true
  | (_, value) :: members => isNumberFree value && membersNumberFree members

end

/-- A value does not start with white space, or with what ends an array. -/
theorem layOut_head (layout : Layout) (level : Nat) {json : Json}
    (h : json.isNumberFree = true) :
    ∃ c rest, json.layOut layout level = c :: rest ∧ isSpace c = false ∧ c ≠ ']' := by
  cases json with
  | null => exact ⟨_, _, rfl, rfl, by decide⟩
  | bool b => cases b <;> exact ⟨_, _, rfl, rfl, by decide⟩
  | number n => cases h
  | string s => exact ⟨_, _, rfl, rfl, by decide⟩
  | array items => cases items <;> exact ⟨_, _, rfl, rfl, by decide⟩
  | object members => cases members <;> exact ⟨_, _, rfl, rfl, by decide⟩

/-! ## Reading items and members -/

section

variable {steps levels : Nat} {text rest : List Char}

/-- The last item: the array ends after it, if it can be read. -/
theorem readItems_last {p : Prop} [Decidable p] {item : Json} {space : List Char}
    (hspace : ∀ c ∈ space, isSpace c = true)
    (h : readValue steps levels text =
      if p then some (item, space ++ ']' :: rest) else none) :
    readItems (steps + 1) levels text = if p then some ([item], rest) else none := by
  have hend : skipSpace (space ++ ']' :: rest) = ']' :: rest := skipSpace_append hspace _
  by_cases hp : p
  · rw [if_pos hp] at h ⊢
    simp only [readItems, h, hend]
  · rw [if_neg hp] at h ⊢
    simp only [readItems, h]

/-- An item with others after it: all of them are read, if each can be. -/
theorem readItems_more {p q r : Prop} [Decidable p] [Decidable q] [Decidable r] {item : Json}
    {items : List Json} {more : List Char}
    (h : readValue steps levels text = if p then some (item, ',' :: rest) else none)
    (hitems : readItems steps levels rest = if q then some (items, more) else none)
    (hall : r ↔ p ∧ q) :
    readItems (steps + 1) levels text = if r then some (item :: items, more) else none := by
  have hcomma : skipSpace (',' :: rest) = ',' :: rest := rfl
  by_cases hp : p
  · rw [if_pos hp] at h
    simp only [readItems, h, hcomma, hitems, hall, hp, true_and]
    split <;> rfl
  · rw [if_neg hp] at h
    rw [if_neg fun hr => hp (hall.1 hr).1]
    simp only [readItems, h]

/-- A member starts with its name; what follows its value tells whether it is the last one. -/
theorem readMembers_name (name : String) :
    readMembers (steps + 1) levels (writeString name ++ ':' :: text) =
      (readValue steps levels text).bind fun (value, rest) =>
        match skipSpace rest with
        | '}' :: rest => some ([(name, value)], rest)
        | ',' :: rest =>
            (readMembers steps levels rest).map fun (members, rest) =>
              ((name, value) :: members, rest)
        | _ => none := by
  have hname : skipSpace (writeString name ++ ':' :: text) =
      '"' :: (name.toList.flatMap writeChar ++ '"' :: ':' :: text) := by
    simp [writeString, skipSpace, isSpace]
  have hcolon : skipSpace (':' :: text) = ':' :: text := rfl
  simp only [readMembers, hname, readString_write, hcolon, String.ofList_toList]
  cases readValue steps levels text <;> rfl

theorem readMembers_last {p : Prop} [Decidable p] {name : String} {value : Json}
    {space : List Char} (hspace : ∀ c ∈ space, isSpace c = true)
    (h : readValue steps levels text =
      if p then some (value, space ++ '}' :: rest) else none) :
    readMembers (steps + 1) levels (writeString name ++ ':' :: text) =
      if p then some ([(name, value)], rest) else none := by
  have hend : skipSpace (space ++ '}' :: rest) = '}' :: rest := skipSpace_append hspace _
  rw [readMembers_name, h]
  by_cases hp : p
  · simp only [if_pos hp, Option.bind_some, hend]
  · simp only [if_neg hp, Option.bind_none]

theorem readMembers_more {p q r : Prop} [Decidable p] [Decidable q] [Decidable r] {name : String}
    {value : Json} {members : List (String × Json)} {more : List Char}
    (h : readValue steps levels text = if p then some (value, ',' :: rest) else none)
    (hmembers : readMembers steps levels rest = if q then some (members, more) else none)
    (hall : r ↔ p ∧ q) :
    readMembers (steps + 1) levels (writeString name ++ ':' :: text) =
      if r then some ((name, value) :: members, more) else none := by
  have hcomma : skipSpace (',' :: rest) = ',' :: rest := rfl
  by_cases hp : p
  · rw [if_pos hp] at h
    simp only [readMembers_name, h, Option.bind_some, hcomma, hmembers, hall, hp, true_and]
    split <;> rfl
  · rw [readMembers_name, h, if_neg hp, if_neg fun hr => hp (hall.1 hr).1, Option.bind_none]

/-! ## Reading values -/

theorem readValue_append {space : List Char} (h : ∀ c ∈ space, isSpace c = true) :
    readValue steps levels (space ++ text) = readValue steps levels text := by
  rw [← readValue_skipSpace, skipSpace_append h, readValue_skipSpace]

theorem readMembers_append {space : List Char} (h : ∀ c ∈ space, isSpace c = true) :
    readMembers steps levels (space ++ text) = readMembers steps levels text := by
  rw [← readMembers_skipSpace, skipSpace_append h, readMembers_skipSpace]

/-- An array that does not end at once has items. -/
theorem readValue_array {c : Char} {more : List Char} (h : skipSpace text = c :: more)
    (hc : c ≠ ']') :
    readValue (steps + 1) (levels + 1) ('[' :: text) =
      (readItems steps levels text).map fun (items, rest) => (.array items, rest) := by
  have hopen : skipSpace ('[' :: text) = '[' :: text := rfl
  rw [← readItems_skipSpace, h]
  simp only [readValue, hopen, h]
  split
  case h_1 heq => exact absurd (List.cons.inj heq).1 hc
  case h_2 => rfl

/-- An object that does not end at once has members. -/
theorem readValue_object {c : Char} {more : List Char} (h : skipSpace text = c :: more)
    (hc : c ≠ '}') :
    readValue (steps + 1) (levels + 1) ('{' :: text) =
      (readMembers steps levels text).map fun (members, rest) => (.object members, rest) := by
  have hopen : skipSpace ('{' :: text) = '{' :: text := rfl
  rw [← readMembers_skipSpace, h]
  simp only [readValue, hopen, h]
  split
  case h_1 heq => exact absurd (List.cons.inj heq).1 hc
  case h_2 => rfl

theorem readValue_string (s : String) :
    readValue (steps + 1) levels (writeString s ++ rest) = some (.string s, rest) := by
  have hopen : skipSpace (writeString s ++ rest) =
      '"' :: (s.toList.flatMap writeChar ++ '"' :: rest) := by
    simp [writeString, skipSpace, isSpace]
  have hscalar : readScalar ('"' :: (s.toList.flatMap writeChar ++ '"' :: rest)) =
      some (.string s, rest) := by
    simp only [readScalar, readString_write, Option.map_some, String.ofList_toList]
  simp only [readValue, hopen]
  exact hscalar

end

/-! ## Reading what is laid out -/

theorem layOut_array (layout : Layout) (level : Nat) (item : Json) (items : List Json)
    (rest : List Char) :
    layOut layout level (.array (item :: items)) ++ rest =
      '[' :: (layOutItems layout (level + 1) (item :: items) ++
        (layout.line level ++ ']' :: rest)) := by
  simp [layOut]

theorem layOut_object (layout : Layout) (level : Nat) (member : String × Json)
    (members : List (String × Json)) (rest : List Char) :
    layOut layout level (.object (member :: members)) ++ rest =
      '{' :: (layOutMembers layout (level + 1) (member :: members) ++
        (layout.line level ++ '}' :: rest)) := by
  simp [layOut]

theorem layOut_length_pos (layout : Layout) (level : Nat) {json : Json}
    (h : json.isNumberFree = true) : 0 < (json.layOut layout level).length := by
  obtain ⟨c, rest, heq, -, -⟩ := layOut_head layout level h
  rw [heq]
  exact Nat.succ_pos _

/-- The items of an array start with an item. -/
theorem layOutItems_head (layout : Layout) (level : Nat) {item : Json}
    (h : item.isNumberFree = true) (items : List Json) (more : List Char) :
    ∃ c rest, skipSpace (layOutItems layout level (item :: items) ++ more) = c :: rest ∧
      c ≠ ']' := by
  obtain ⟨c, rest, heq, hspace, hc⟩ := layOut_head layout level h
  cases items with
  | nil =>
      refine ⟨c, rest ++ more, ?_, hc⟩
      rw [layOutItems, List.append_assoc, skipSpace_append (layout.isSpace_line level), heq]
      simp [skipSpace, hspace]
  | cons next items =>
      refine ⟨c, rest ++ (',' :: layOutItems layout level (next :: items)) ++ more, ?_, hc⟩
      simp only [layOutItems, List.append_assoc, skipSpace_append (layout.isSpace_line level), heq]
      simp [skipSpace, hspace]

/-- The members of an object start with a name. -/
theorem layOutMembers_head (layout : Layout) (level : Nat) (member : String × Json)
    (members : List (String × Json)) (more : List Char) :
    ∃ rest, skipSpace (layOutMembers layout level (member :: members) ++ more) = '"' :: rest := by
  cases members with
  | nil =>
      simp only [layOutMembers, writeString, List.append_assoc,
        skipSpace_append (layout.isSpace_line level)]
      exact ⟨_, rfl⟩
  | cons next members =>
      simp only [layOutMembers, writeString, List.append_assoc,
        skipSpace_append (layout.isSpace_line level)]
      exact ⟨_, rfl⟩

-- The induction is on the value.  As many steps suffice as its text has characters: each array and
-- each item takes a step besides those of its parts, and writes a bracket or a comma.
mutual

/-- A written value is read back, unless it nests too deeply. -/
theorem readValue_layOut (layout : Layout) :
    ∀ (json : Json) (level steps levels : Nat) (rest : List Char), json.isNumberFree = true →
      (json.layOut layout level).length ≤ steps + 1 →
      readValue (steps + 1) levels (json.layOut layout level ++ rest) =
        if json.height ≤ levels then some (json, rest) else none
  | .null, _, _, levels, _, _, _ => (if_pos (Nat.zero_le levels)).symm
  | .bool true, _, _, levels, _, _, _ => (if_pos (Nat.zero_le levels)).symm
  | .bool false, _, _, levels, _, _, _ => (if_pos (Nat.zero_le levels)).symm
  | .string s, _, _, levels, _, _, _ =>
      (readValue_string s).trans (if_pos (Nat.zero_le levels)).symm
  | .array [], _, _, 0, _, _, _ => rfl
  | .object [], _, _, 0, _, _, _ => rfl
  | .array [], _, _, levels + 1, _, _, _ => (if_pos (Nat.succ_le_succ (Nat.zero_le levels))).symm
  | .object [], _, _, levels + 1, _, _, _ => (if_pos (Nat.succ_le_succ (Nat.zero_le levels))).symm
  | .array (item :: items), level, steps, levels, rest, h, hsteps => by
      rw [layOut_array]
      have hlength := congrArg List.length (layOut_array layout level item items [])
      simp only [List.length_append, List.length_cons, List.length_nil] at hlength
      obtain _ | levels := levels
      · -- No level is left for the array, whatever its items are.
        rfl
      obtain ⟨steps, rfl⟩ : ∃ n, steps = n + 1 := ⟨steps - 1, by omega⟩
      obtain ⟨c, more, hhead, hc⟩ := layOutItems_head layout (level + 1)
        (Bool.and_eq_true_iff.1 h).1 items (layout.line level ++ ']' :: rest)
      rw [readValue_array hhead hc,
        readItems_layOut layout (item :: items) (level + 1) steps levels (layout.line level) rest
          (List.cons_ne_nil item items) h (by omega) (layout.isSpace_line level)]
      simp only [height, Nat.succ_le_succ_iff]
      split <;> rfl
  | .object (member :: members), level, steps, levels, rest, h, hsteps => by
      rw [layOut_object]
      have hlength := congrArg List.length (layOut_object layout level member members [])
      simp only [List.length_append, List.length_cons, List.length_nil] at hlength
      obtain _ | levels := levels
      · rfl
      obtain ⟨steps, rfl⟩ : ∃ n, steps = n + 1 := ⟨steps - 1, by omega⟩
      obtain ⟨more, hhead⟩ := layOutMembers_head layout (level + 1) member members
        (layout.line level ++ '}' :: rest)
      rw [readValue_object hhead (by decide),
        readMembers_layOut layout (member :: members) (level + 1) steps levels (layout.line level)
          rest (List.cons_ne_nil member members) h (by omega) (layout.isSpace_line level)]
      simp only [height, Nat.succ_le_succ_iff]
      split <;> rfl

/-- The written items of an array are read back up to the bracket after them. -/
theorem readItems_layOut (layout : Layout) :
    ∀ (items : List Json) (level steps levels : Nat) (space rest : List Char), items ≠ [] →
      itemsNumberFree items = true → (layOutItems layout level items).length ≤ steps →
      (∀ c ∈ space, isSpace c = true) →
      readItems (steps + 1) levels (layOutItems layout level items ++ (space ++ ']' :: rest)) =
        if itemsHeight items ≤ levels then some (items, rest) else none
  | [], _, _, _, _, _, hne, _, _, _ => absurd rfl hne
  | [item], level, steps, levels, space, rest, _, h, hsteps, hspace => by
      have hitem : item.isNumberFree = true := (Bool.and_eq_true_iff.1 h).1
      have hpos := layOut_length_pos layout level hitem
      simp only [layOutItems, List.length_append] at hsteps
      obtain ⟨steps, rfl⟩ : ∃ n, steps = n + 1 := ⟨steps - 1, by omega⟩
      have hread := readValue_layOut layout item level steps levels (space ++ ']' :: rest) hitem
        (by omega)
      -- The white space before the item is passed over by what reads the item.
      rw [← readValue_append (layout.isSpace_line level), ← List.append_assoc] at hread
      simp only [itemsHeight, Nat.max_zero, layOutItems]
      exact readItems_last hspace hread
  | item :: next :: items, level, steps, levels, space, rest, _, h, hsteps, hspace => by
      have hitem : item.isNumberFree = true := (Bool.and_eq_true_iff.1 h).1
      have hitems : itemsNumberFree (next :: items) = true := (Bool.and_eq_true_iff.1 h).2
      have hpos := layOut_length_pos layout level hitem
      simp only [layOutItems, List.length_append, List.length_cons] at hsteps
      obtain ⟨steps, rfl⟩ : ∃ n, steps = n + 1 := ⟨steps - 1, by omega⟩
      have hread := readValue_layOut layout item level steps levels
        (',' :: (layOutItems layout level (next :: items) ++ (space ++ ']' :: rest))) hitem
        (by omega)
      rw [← readValue_append (layout.isSpace_line level)] at hread
      have hrest := readItems_layOut layout (next :: items) level steps levels space rest
        (List.cons_ne_nil next items) hitems (by omega) hspace
      simp only [layOutItems, List.append_assoc, List.cons_append]
      exact readItems_more hread hrest Nat.max_le

/-- The written members of an object are read back up to the brace after them. -/
theorem readMembers_layOut (layout : Layout) :
    ∀ (members : List (String × Json)) (level steps levels : Nat) (space rest : List Char),
      members ≠ [] → membersNumberFree members = true →
      (layOutMembers layout level members).length ≤ steps → (∀ c ∈ space, isSpace c = true) →
      readMembers (steps + 1) levels
          (layOutMembers layout level members ++ (space ++ '}' :: rest)) =
        if membersHeight members ≤ levels then some (members, rest) else none
  | [], _, _, _, _, _, hne, _, _, _ => absurd rfl hne
  | [(name, value)], level, steps, levels, space, rest, _, h, hsteps, hspace => by
      have hvalue : value.isNumberFree = true := (Bool.and_eq_true_iff.1 h).1
      have hpos := layOut_length_pos layout level hvalue
      simp only [layOutMembers, List.length_append, List.length_cons] at hsteps
      obtain ⟨steps, rfl⟩ : ∃ n, steps = n + 1 := ⟨steps - 1, by omega⟩
      have hread := readValue_layOut layout value level steps levels (space ++ '}' :: rest) hvalue
        (by omega)
      rw [← readValue_append layout.isSpace_gap] at hread
      simp only [layOutMembers, List.append_assoc, List.cons_append, membersHeight, Nat.max_zero]
      rw [readMembers_append (layout.isSpace_line level)]
      exact readMembers_last hspace hread
  | (name, value) :: next :: members, level, steps, levels, space, rest, _, h, hsteps, hspace => by
      have hvalue : value.isNumberFree = true := (Bool.and_eq_true_iff.1 h).1
      have hmembers : membersNumberFree (next :: members) = true := (Bool.and_eq_true_iff.1 h).2
      have hpos := layOut_length_pos layout level hvalue
      simp only [layOutMembers, List.length_append, List.length_cons] at hsteps
      obtain ⟨steps, rfl⟩ : ∃ n, steps = n + 1 := ⟨steps - 1, by omega⟩
      have hread := readValue_layOut layout value level steps levels
        (',' :: (layOutMembers layout level (next :: members) ++ (space ++ '}' :: rest))) hvalue
        (by omega)
      rw [← readValue_append layout.isSpace_gap] at hread
      have hrest := readMembers_layOut layout (next :: members) level steps levels space rest
        (List.cons_ne_nil next members) hmembers (by omega) hspace
      simp only [layOutMembers, List.append_assoc, List.cons_append]
      rw [readMembers_append (layout.isSpace_line level)]
      exact readMembers_more hread hrest Nat.max_le

end

/-! ## Whole texts -/

/-- A text in a layout is read back, unless it nests too deeply. -/
theorem readChars?_layOut (layout : Layout) {json : Json} (h : json.isNumberFree = true) :
    readChars? (json.layOut layout 0) = if json.height ≤ maxNesting then some json else none := by
  have hread := readValue_layOut layout json 0 (2 * (json.layOut layout 0).length) maxNesting [] h
    (by omega)
  rw [List.append_nil] at hread
  rw [readChars?, hread]
  split_ifs <;> rfl

theorem read?_render {json : Json} (h : json.isNumberFree = true) :
    read? json.render = if json.height ≤ maxNesting then some json else none := by
  rw [read?, render, String.toList_ofList, write_eq_layOut 0]
  exact readChars?_layOut .compact h

theorem read?_renderPretty {json : Json} (h : json.isNumberFree = true) :
    read? json.renderPretty = if json.height ≤ maxNesting then some json else none := by
  rw [read?, renderPretty, String.toList_ofList, writePretty_eq_layOut 0]
  exact readChars?_layOut .lines h

end Json
end Xacml
