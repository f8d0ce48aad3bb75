import Mathlib.Algebra.Ring.Parity
import Mathlib.Data.List.Induction
import Xacml.Name.Distinguished
import Xacml.Proofs.Lexical.LetterCase
import Xacml.Proofs.Typing.Ending

/-!
# The form of distinguished names

A name is written as types and values with an equals sign between them, and with separators between
one such pair and the next.  White space may stand around each of these, and a backslash takes the
meaning of a separator away.

* `EndsEscaping` tells whether a backslash at the end of a text takes the meaning of the character
  that follows; it is what the reader has to remember of the characters before,
* `Divides` cuts a text at the separators that are not escaped, and `split_eq_iff` shows that the
  reader does so,
* `Form` are the texts in which types and values are spelled, and `read_eq_ok_iff` shows that these
  and no others are read,
* `Form.append`: what is spelled by two texts with a separator between them,
* `form_append_blanks` and `read_trim_iff`: white space around a name does not count,
* `SpelledAlike.exists_components`: texts with the same types and values, up to the case of ASCII
  letters, are read as the same components.
-/

namespace Xacml
namespace DistinguishedName

variable {text front part rest before after : List Char} {parts : List (List Char)}
  {c mark : Char}

/-! ## Escapes -/

/-- Whether a text ends in a backslash that no other one escapes: the backslashes that it ends in
are odd in number. -/
def EndsEscaping (text : List Char) : Prop :=
  Odd (text.reverse.takeWhile (· == '\\')).length

instance : DecidablePred EndsEscaping := fun _ => inferInstanceAs (Decidable (Odd _))

theorem not_endsEscaping_nil : ¬EndsEscaping [] := by
  decide

/-- The next character escapes the one behind it if it is a backslash and is not escaped itself. -/
theorem endsEscaping_concat : EndsEscaping (text ++ [c]) ↔ c = '\\' ∧ ¬EndsEscaping text := by
  have hreverse : (text ++ [c]).reverse = c :: text.reverse := by simp
  rw [EndsEscaping, hreverse]
  by_cases hc : c = '\\'
  · subst hc
    rw [List.takeWhile_cons_of_pos rfl, List.length_cons, Nat.odd_add_one]
    exact ⟨fun h => ⟨rfl, h⟩, fun h => h.2⟩
  · rw [List.takeWhile_cons_of_neg (by simpa using hc)]
    exact ⟨fun h => absurd h not_endsEscaping_nil, fun h => absurd h.1 hc⟩

theorem ne_backslash_of_isSeparator (h : isSeparator mark = true) : mark ≠ '\\' := by
  rintro rfl
  cases h

/-- A text that escapes nothing is forgotten at the first character behind it that does not
either. -/
theorem endsEscaping_append_iff (hfront : front = [] ∨ ∃ c ∈ front.getLast?, c ≠ '\\') :
    EndsEscaping (front ++ text) ↔ EndsEscaping text := by
  induction text using List.reverseRecOn with
  | nil =>
      rw [List.append_nil]
      rcases hfront with rfl | ⟨c, hlast, hc⟩
      · rfl
      · obtain ⟨start, rfl⟩ := List.getLast?_eq_some_iff.1 hlast
        rw [endsEscaping_concat]
        exact ⟨fun h => absurd h.1 hc, fun h => absurd h not_endsEscaping_nil⟩
  | append_singleton text c ih =>
      rw [← List.append_assoc, endsEscaping_concat, endsEscaping_concat, ih]

/-! ## Parts -/

/-- Whether every separator in a part is escaped. -/
def Undivided (part : List Char) : Prop :=
  ∀ front mark rest, part = front ++ mark :: rest → isSeparator mark = true → EndsEscaping front

theorem undivided_nil : Undivided [] := by
  intro front mark rest h
  simp at h

theorem undivided_concat :
    Undivided (part ++ [c]) ↔ Undivided part ∧ (isSeparator c = true → EndsEscaping part) := by
  constructor
  · intro h
    refine ⟨fun front mark rest heq => h front mark (rest ++ [c]) ?_, h part c [] rfl⟩
    rw [heq, List.append_assoc, List.cons_append]
  · rintro ⟨hpart, hlast⟩ front mark rest heq
    -- The separator is the last character, or it stands in front of that one.
    rcases List.eq_nil_or_concat rest with rfl | ⟨rest, d, rfl⟩
    · obtain ⟨rfl, hsingle⟩ := List.append_inj' heq rfl
      cases hsingle
      exact hlast
    · rw [List.concat_eq_append, ← List.cons_append, ← List.append_assoc] at heq
      exact hpart front mark rest (List.append_inj' heq rfl).1

/-- Characters that are no separators divide nothing. -/
theorem Undivided.append (h : Undivided part) (hafter : ∀ c ∈ after, isSeparator c = false) :
    Undivided (part ++ after) := by
  induction after using List.reverseRecOn with
  | nil => rwa [List.append_nil]
  | append_singleton after c ih =>
      have hc : isSeparator c = false := hafter c (by simp)
      rw [← List.append_assoc, undivided_concat, hc]
      exact ⟨ih fun d hd => hafter d (List.mem_append_left _ hd), fun h => nomatch h⟩

/-- How a text is cut into parts: at every separator that is not escaped. -/
inductive Divides : List (List Char) → List Char → Prop
  | last {part : List Char} (hpart : Undivided part) : Divides [part] part
  | more {part rest : List Char} {parts : List (List Char)} {mark : Char}
      (hpart : Undivided part) (hend : ¬EndsEscaping part) (hmark : isSeparator mark = true)
      (hrest : Divides parts rest) : Divides (part :: parts) (part ++ mark :: rest)

/-- Every text is cut into parts. -/
theorem exists_divides (hpart : Undivided part) (text : List Char) :
    ∃ parts, Divides parts (part ++ text) := by
  -- The part grows with every character but the separators that end it.
  induction text generalizing part with
  | nil => exact ⟨[part], by simpa using Divides.last hpart⟩
  | cons c rest ih =>
      by_cases hc : isSeparator c = true ∧ ¬EndsEscaping part
      · obtain ⟨parts, hparts⟩ := ih undivided_nil
        exact ⟨part :: parts, .more hpart hc.2 hc.1 hparts⟩
      · have hmore : Undivided (part ++ [c]) := by
          refine undivided_concat.2 ⟨hpart, fun hmark => ?_⟩
          by_contra hend
          exact hc ⟨hmark, hend⟩
        simpa using ih hmore

namespace Divides

/-- The texts before and behind a separator are cut for themselves. -/
theorem append {more : List (List Char)} (h : Divides parts text) (hmore : Divides more rest)
    (hend : ¬EndsEscaping text) (hmark : isSeparator mark = true) :
    Divides (parts ++ more) (text ++ mark :: rest) := by
  induction h with
  | last hpart => exact .more hpart hend hmark hmore
  | @more part text parts separator hpart hpartEnd hseparator hrest ih =>
      have hfront : EndsEscaping (part ++ separator :: text) ↔ EndsEscaping text := by
        rw [List.append_cons]
        exact endsEscaping_append_iff
          (.inr ⟨separator, by simp, ne_backslash_of_isSeparator hseparator⟩)
      rw [List.append_assoc, List.cons_append, List.cons_append]
      exact .more hpart hpartEnd hseparator (ih (hfront.not.1 hend))

end Divides

/-! ## Splitting -/

/-- What the reader remembers of an undivided part is whether it ends in an open escape. -/
theorem split_append (h : Undivided part) (rest : List Char) :
    split (part ++ rest) = splitFrom (decide (EndsEscaping part)) part.reverse rest := by
  induction part using List.reverseRecOn generalizing rest with
  | nil => rfl
  | append_singleton part c ih =>
      obtain ⟨hpart, hc⟩ := undivided_concat.1 h
      have hstep : decide (EndsEscaping (part ++ [c])) =
          decide (c = '\\' ∧ ¬EndsEscaping part) := by
        simp only [endsEscaping_concat]
      rw [List.append_assoc, List.singleton_append, ih hpart, splitFrom, hstep,
        List.reverse_append, List.reverse_singleton, List.singleton_append]
      by_cases hbackslash : c = '\\' ∧ ¬EndsEscaping part
      · simp [hbackslash]
      · have hmark : ¬(isSeparator c = true ∧ ¬EndsEscaping part) := fun h => h.2 (hc h.1)
        rw [if_neg (by simpa using hbackslash), if_neg (by simpa using hmark),
          decide_eq_false hbackslash]

namespace Divides

theorem split_eq (h : Divides parts text) : split text = parts := by
  induction h with
  | @last part hpart =>
      have hsplit := split_append hpart []
      rw [List.append_nil, splitFrom, List.reverse_reverse] at hsplit
      exact hsplit
  | @more part rest parts mark hpart hend hmark hrest ih =>
      have hbackslash : mark ≠ '\\' := ne_backslash_of_isSeparator hmark
      rw [split_append hpart, decide_eq_false hend, splitFrom, if_neg (by simp [hbackslash]),
        if_pos (by simp [hmark]), List.reverse_reverse, ← split, ih]

end Divides

/-- The reader cuts a text at the separators that are not escaped. -/
theorem split_eq_iff : split text = parts ↔ Divides parts text := by
  constructor
  · rintro rfl
    obtain ⟨parts, hparts⟩ := exists_divides undivided_nil text
    rw [List.nil_append] at hparts
    rwa [hparts.split_eq]
  · exact Divides.split_eq

/-! ## Components -/

/-- A type and a value as they are spelled, without the white space around them. -/
structure Spelling where
  type : List Char
  value : List Char
  type_ne_nil : type ≠ []
  trim_type : Text.trim type = type
  sign_notMem : '=' ∉ type
  trim_value : Text.trim value = value

namespace Spelling

/-- The component that is spelled. -/
def relativeName (spelling : Spelling) : RelativeName :=
  ⟨Text.upperAscii spelling.type, Text.lowercase spelling.value⟩

/-- The parts in which a type and a value are spelled: white space may stand around both. -/
inductive Part (spelling : Spelling) : List Char → Prop
  | spaced {beforeType afterType beforeValue afterValue : List Char}
      (hbeforeType : Text.AllBlank beforeType) (hafterType : Text.AllBlank afterType)
      (hbeforeValue : Text.AllBlank beforeValue) (hafterValue : Text.AllBlank afterValue) :
      Part spelling (beforeType ++ (spelling.type ++ afterType) ++
        '=' :: (beforeValue ++ (spelling.value ++ afterValue)))

end Spelling

theorem sign_notMem_of_allBlank {blanks : List Char} (h : Text.AllBlank blanks) :
    '=' ∉ blanks := by
  intro hmem
  exact absurd (h '=' hmem) (by decide)

theorem isSeparator_of_allBlank {blanks : List Char} (h : Text.AllBlank blanks) :
    ∀ c ∈ blanks, isSeparator c = false := by
  intro c hc
  have hblank := h c hc
  by_contra hmark
  have hmark : c = ',' ∨ c = ';' := by simpa [isSeparator, or_iff_not_imp_left] using hmark
  rcases hmark with rfl | rfl <;> exact absurd hblank (by decide)

/-- A part is cut at its first equals sign, and white space around either half is left out. -/
theorem Spelling.part_iff {spelling : Spelling} :
    spelling.Part part ↔
      (Text.cut? '=' part).map (fun halves => (Text.trim halves.1, Text.trim halves.2)) =
        some (spelling.type, spelling.value) := by
  constructor
  · intro h
    cases h with
    | @spaced beforeType afterType beforeValue afterValue h₁ h₂ h₃ h₄ =>
        have hsign : '=' ∉ beforeType ++ (spelling.type ++ afterType) := by
          simp [sign_notMem_of_allBlank h₁, sign_notMem_of_allBlank h₂, spelling.sign_notMem]
        rw [Text.cut?_append hsign, Option.map_some, Text.trim_append_blanks h₁ h₂,
          Text.trim_append_blanks h₃ h₄, spelling.trim_type, spelling.trim_value]
  · intro h
    obtain ⟨⟨type, value⟩, hcut, hhalves⟩ := Option.map_eq_some_iff.1 h
    obtain ⟨htype, hvalue⟩ := Prod.mk.inj hhalves
    obtain ⟨beforeType, afterType, h₁, h₂, heqType⟩ := Text.exists_eq_append_trim type
    obtain ⟨beforeValue, afterValue, h₃, h₄, heqValue⟩ := Text.exists_eq_append_trim value
    rw [htype] at heqType
    rw [hvalue] at heqValue
    rw [Text.eq_append_of_cut? hcut, heqType, heqValue]
    exact .spaced h₁ h₂ h₃ h₄

instance (spelling : Spelling) : DecidablePred spelling.Part := fun _ =>
  decidable_of_iff _ Spelling.part_iff.symm

theorem readComponent_eq_ok_iff {component : RelativeName} :
    readComponent part = .ok component ↔
      ∃ spelling : Spelling, spelling.Part part ∧ spelling.relativeName = component := by
  constructor
  · intro h
    unfold readComponent at h
    split at h
    case h_1 type value hcut =>
      split at h
      case isTrue => cases h
      case isFalse hne =>
        cases h
        have hsign : '=' ∉ Text.trim type := fun hmem =>
          Text.not_mem_of_cut? hcut (Text.mem_of_mem_trim hmem)
        have hne : Text.trim type ≠ [] := by simpa using hne
        refine ⟨⟨Text.trim type, Text.trim value, hne, Text.trim_trim type, hsign,
          Text.trim_trim value⟩, Spelling.part_iff.2 ?_, rfl⟩
        rw [hcut, Option.map_some]
    case h_2 => cases h
  · rintro ⟨spelling, hpart, rfl⟩
    obtain ⟨⟨type, value⟩, hcut, hhalves⟩ := Option.map_eq_some_iff.1 (Spelling.part_iff.1 hpart)
    obtain ⟨htype, hvalue⟩ := Prod.mk.inj hhalves
    have hne : ¬spelling.type.isEmpty = true := by simpa using spelling.type_ne_nil
    simp only [readComponent, hcut, htype, hvalue]
    rw [if_neg hne]
    rfl

/-! ## Names -/

/-- The texts in which types and values are spelled: they are cut into a part for each. -/
def Form (spellings : List Spelling) (text : List Char) : Prop :=
  ∃ parts, Divides parts text ∧ List.Forall₂ Spelling.Part spellings parts

theorem form_iff {spellings : List Spelling} :
    Form spellings text ↔ List.Forall₂ Spelling.Part spellings (split text) := by
  constructor
  · rintro ⟨parts, hparts, hspellings⟩
    rwa [hparts.split_eq]
  · intro hspellings
    exact ⟨split text, split_eq_iff.1 rfl, hspellings⟩

instance (spellings : List Spelling) : DecidablePred (Form spellings) := fun _ =>
  decidable_of_iff _ form_iff.symm

theorem mapM_readComponent_eq_ok_iff {components : List RelativeName} :
    parts.mapM readComponent = .ok components ↔
      ∃ spellings, List.Forall₂ Spelling.Part spellings parts ∧
        spellings.map Spelling.relativeName = components := by
  constructor
  · intro h
    have hall := forall₂_of_mapM h
    clear h
    induction hall with
    | nil => exact ⟨[], .nil, rfl⟩
    | cons hpart _ ih =>
        obtain ⟨spelling, hspelling, rfl⟩ := readComponent_eq_ok_iff.1 hpart
        obtain ⟨spellings, hspellings, rfl⟩ := ih
        exact ⟨spelling :: spellings, .cons hspelling hspellings, rfl⟩
  · rintro ⟨spellings, hspellings, rfl⟩
    apply mapM_of_forall₂
    rw [List.forall₂_map_right_iff]
    exact hspellings.flip.imp fun part spelling h => readComponent_eq_ok_iff.2 ⟨spelling, h, rfl⟩

/-- The texts that are read are those in which types and values are spelled. -/
theorem read_eq_ok_iff {name : DistinguishedName} :
    read text = .ok name ↔
      name.text = text ∧
        ∃ spellings, Form spellings text ∧
          spellings.map Spelling.relativeName = name.components := by
  rcases name with ⟨components, written⟩
  simp only [form_iff, ← mapM_readComponent_eq_ok_iff]
  constructor
  · intro h
    obtain ⟨components, hcomponents, heq⟩ := exists_of_map_eq_ok h
    cases heq
    exact ⟨rfl, hcomponents⟩
  · rintro ⟨rfl, hcomponents⟩
    rw [read, hcomponents]
    rfl

/-- The types and values that are spelled before and behind a separator follow each other. -/
theorem Form.append {spellings more : List Spelling} (h : Form spellings text)
    (hmore : Form more rest) (hend : ¬EndsEscaping text) (hmark : isSeparator mark = true) :
    Form (spellings ++ more) (text ++ mark :: rest) := by
  obtain ⟨parts, hparts, hspellings⟩ := h
  obtain ⟨moreParts, hmoreParts, hmoreSpellings⟩ := hmore
  exact ⟨parts ++ moreParts, hparts.append hmoreParts hend hmark,
    List.rel_append hspellings hmoreSpellings⟩

/-! ## White space around names -/

/-- White space in front of a text escapes nothing in it. -/
theorem endsEscaping_append_iff_of_allBlank (hbefore : Text.AllBlank before) :
    EndsEscaping (before ++ text) ↔ EndsEscaping text := by
  have hbackslash : ∀ c ∈ before, c ≠ '\\' := by
    rintro c hc rfl
    exact absurd (hbefore _ hc) (by decide)
  apply endsEscaping_append_iff
  cases hlast : before.getLast? with
  | none => exact .inl (List.getLast?_eq_none_iff.1 hlast)
  | some c => exact .inr ⟨c, rfl, hbackslash c (List.mem_of_getLast? hlast)⟩

/-- White space in front of a part divides nothing and leaves its escapes where they are. -/
theorem Undivided.append_left (h : Undivided part) (hbefore : Text.AllBlank before) :
    Undivided (before ++ part) := by
  induction part using List.reverseRecOn with
  | nil =>
      rw [List.append_nil]
      exact undivided_nil.append (isSeparator_of_allBlank hbefore)
  | append_singleton part c ih =>
      obtain ⟨hfront, hc⟩ := undivided_concat.1 h
      rw [← List.append_assoc, undivided_concat, endsEscaping_append_iff_of_allBlank hbefore]
      exact ⟨ih hfront, hc⟩

/-- White space around a part changes nothing about what it spells. -/
theorem Spelling.part_append_blanks {spelling : Spelling} (hbefore : Text.AllBlank before)
    (hafter : Text.AllBlank after) :
    spelling.Part (before ++ (part ++ after)) ↔ spelling.Part part := by
  rw [Spelling.part_iff, Spelling.part_iff]
  cases hcut : Text.cut? '=' part with
  | none =>
      have hsign : '=' ∉ before ++ (part ++ after) := by
        simp [sign_notMem_of_allBlank hbefore, sign_notMem_of_allBlank hafter,
          Text.not_mem_of_cut?_eq_none hcut]
      rw [Text.cut?_eq_none hsign]
  | some halves =>
      obtain ⟨type, value⟩ := halves
      have hsign : '=' ∉ before ++ type := by
        simp [sign_notMem_of_allBlank hbefore, Text.not_mem_of_cut? hcut]
      have hspaced : Text.cut? '=' (before ++ (part ++ after)) =
          some (before ++ type, value ++ after) := by
        rw [Text.eq_append_of_cut? hcut]
        simpa using Text.cut?_append hsign (value ++ after)
      have htype : Text.trim (before ++ type) = Text.trim type := by
        simpa using Text.trim_append_blanks hbefore (List.forall_mem_nil _) type
      have hvalue : Text.trim (value ++ after) = Text.trim value :=
        Text.trim_append_blanks (List.forall_mem_nil _) hafter value
      rw [hspaced, Option.map_some, Option.map_some, htype, hvalue]

/-- Two parts that spell the same. -/
def SamePart (part other : List Char) : Prop :=
  ∀ spelling : Spelling, spelling.Part part ↔ spelling.Part other

theorem forall₂_samePart_self (parts : List (List Char)) : List.Forall₂ SamePart parts parts :=
  List.forall₂_same.2 fun _ _ _ => Iff.rfl

/-- White space in front of a text goes to its first part. -/
theorem Divides.append_left (h : Divides parts text) (hbefore : Text.AllBlank before) :
    ∃ spaced, Divides spaced (before ++ text) ∧ List.Forall₂ SamePart parts spaced := by
  have hsame (part : List Char) : SamePart part (before ++ part) := by
    intro spelling
    simpa using (Spelling.part_append_blanks hbefore (List.forall_mem_nil _)).symm
  cases h with
  | last hpart => exact ⟨_, .last (hpart.append_left hbefore), .cons (hsame _) .nil⟩
  | @more part rest parts mark hpart hend hmark hrest =>
      have hspacedEnd : ¬EndsEscaping (before ++ part) :=
        (endsEscaping_append_iff_of_allBlank hbefore).not.2 hend
      refine ⟨(before ++ part) :: parts, ?_, .cons (hsame part) (forall₂_samePart_self parts)⟩
      rw [← List.append_assoc]
      exact .more (hpart.append_left hbefore) hspacedEnd hmark hrest

/-- White space behind a text goes to its last part. -/
theorem Divides.append_right (h : Divides parts text) (hafter : Text.AllBlank after) :
    ∃ spaced, Divides spaced (text ++ after) ∧ List.Forall₂ SamePart parts spaced := by
  have hsame (part : List Char) : SamePart part (part ++ after) := by
    intro spelling
    exact (@Spelling.part_append_blanks part [] after spelling (List.forall_mem_nil _) hafter).symm
  induction h with
  | last hpart =>
      exact ⟨_, .last (hpart.append (isSeparator_of_allBlank hafter)), .cons (hsame _) .nil⟩
  | @more part rest parts mark hpart hend hmark hrest ih =>
      obtain ⟨spaced, hspaced, hall⟩ := ih
      refine ⟨part :: spaced, ?_, .cons (fun _ => Iff.rfl) hall⟩
      rw [List.append_assoc, List.cons_append]
      exact .more hpart hend hmark hspaced

theorem forall₂_part_congr {spaced : List (List Char)} {spellings : List Spelling}
    (h : List.Forall₂ SamePart parts spaced) :
    List.Forall₂ Spelling.Part spellings parts ↔ List.Forall₂ Spelling.Part spellings spaced := by
  induction h generalizing spellings with
  | nil => rfl
  | cons hsame _ ih =>
      cases spellings with
      | nil => simp
      | cons spelling spellings =>
          rw [List.forall₂_cons, List.forall₂_cons, hsame spelling, ih]

/-- White space around a text changes nothing about what is spelled in it. -/
theorem form_append_blanks {spellings : List Spelling} (hbefore : Text.AllBlank before)
    (hafter : Text.AllBlank after) :
    Form spellings (before ++ (text ++ after)) ↔ Form spellings text := by
  have hparts : Divides (split text) text := split_eq_iff.1 rfl
  obtain ⟨spaced, hspaced, hsame⟩ := hparts.append_right hafter
  obtain ⟨both, hboth, hsame'⟩ := hspaced.append_left hbefore
  rw [form_iff, form_iff, hboth.split_eq]
  exact ((forall₂_part_congr hsame).trans (forall₂_part_congr hsame')).symm

/-- A text is read as a name with the components that it has without the white space around it. -/
theorem read_trim_iff {components : List RelativeName} :
    read (Text.trim text) = .ok ⟨components, Text.trim text⟩ ↔
      read text = .ok ⟨components, text⟩ := by
  obtain ⟨before, after, hbefore, hafter, htext⟩ := Text.exists_eq_append_trim text
  have hform (spellings : List Spelling) :
      Form spellings text ↔ Form spellings (Text.trim text) := by
    have hblanks := @form_append_blanks (Text.trim text) before after spellings hbefore hafter
    rwa [← htext] at hblanks
  simp only [read_eq_ok_iff, hform, true_and]

/-! ## Alike texts -/

/-- Whether two types are the same up to the case of ASCII letters, and two values as well. -/
def Spelling.SameUpToCase (spelling other : Spelling) : Prop :=
  Text.sameAscii spelling.type other.type = true ∧
    Text.sameAscii spelling.value other.value = true

theorem Spelling.SameUpToCase.relativeName_eq {spelling other : Spelling}
    (h : spelling.SameUpToCase other) : spelling.relativeName = other.relativeName := by
  rw [relativeName, relativeName, Text.upperAscii_eq_of_sameAscii h.1,
    Text.lowercase_eq_of_sameAscii h.2]

/-- Whether the same types and values are spelled in two texts, up to the case of ASCII letters.
What white space stands around the types, the values and the separators does not matter.  (It cannot
be left out where it keeps a backslash from escaping a separator: another value is spelled then.) -/
def SpelledAlike (text other : List Char) : Prop :=
  ∃ spellings others, Form spellings text ∧ Form others other ∧
    List.Forall₂ Spelling.SameUpToCase spellings others

/-- Texts that are spelled alike are read as names with the same components. -/
theorem SpelledAlike.exists_components {other : List Char} (h : SpelledAlike text other) :
    ∃ components, read text = .ok ⟨components, text⟩ ∧ read other = .ok ⟨components, other⟩ := by
  obtain ⟨spellings, others, htext, hother, hsame⟩ := h
  have hmap : spellings.map Spelling.relativeName = others.map Spelling.relativeName := by
    clear htext hother
    induction hsame with
    | nil => rfl
    | cons hfirst _ ih => rw [List.map_cons, List.map_cons, hfirst.relativeName_eq, ih]
  exact ⟨_, read_eq_ok_iff.2 ⟨rfl, spellings, htext, rfl⟩,
    read_eq_ok_iff.2 ⟨rfl, others, hother, hmap.symm⟩⟩

end DistinguishedName
end Xacml
