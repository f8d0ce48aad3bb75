import Mathlib.Data.List.Infix
import Xacml.Proofs.Function.Comparisons
import Xacml.Proofs.Lexical.NameForm

/-!
# Matching distinguished names

A distinguished name matches the names that end in its components.

* `Function.matchNames` is what the function that matches names gives, and `matchNames_eq` tells it
  by the components,
* `DistinguishedName.Matches` is an order of names up to equality,
* `DistinguishedName.names_compose`: two texts that are put together around a separator are read as
  the components of both, so that the second name matches the whole.
-/

namespace Xacml

/-! ## The function -/

/-- What the function that matches names gives. -/
def Function.matchNames (suffix name : DistinguishedName) : Except EvaluationError Datum :=
  (ofStrict (.matching .distinguishedName)).call
    [.single (.x500Name suffix), .single (.x500Name name)]

theorem Function.matchNames_eq (suffix name : DistinguishedName) :
    matchNames suffix name =
      .ok (.ofBool (decide (suffix.components <:+ name.components))) := by
  have hcall : matchNames suffix name = .ok (.ofBool (suffix.isTerminalOf name)) :=
    call_ofStrict (.of_fixed rfl)
  have hends : suffix.isTerminalOf name = decide (suffix.components <:+ name.components) := by
    rw [Bool.eq_iff_iff, decide_eq_true_eq]
    exact List.isSuffixOf_iff_suffix
  rw [hcall, hends]

namespace DistinguishedName

variable {a b c suffix name : DistinguishedName}

/-- Whether a name matches another one. -/
def Matches (suffix name : DistinguishedName) : Prop :=
  Function.matchNames suffix name = .ok (.ofBool true)

theorem matches_iff : suffix.Matches name ↔ suffix.components <:+ name.components := by
  rw [Matches, Function.matchNames_eq]
  simp [Datum.ofBool]

theorem holdsOf_equal_names_iff :
    (ComparisonOp.equal .x500Name).HoldsOf (.x500Name a) (.x500Name b) ↔
      a.components = b.components := by
  have hsame : (ComparisonOp.equal .x500Name).HoldsOf (.x500Name a) (.x500Name b) ↔
      (Value.x500Name a).same (.x500Name b) = true := holdsOf_equal_iff rfl rfl
  rw [hsame, Value.same_iff]
  simp [Value.normal]

/-- Names that match each other are equal. -/
theorem matches_and_matches_iff :
    a.Matches b ∧ b.Matches a ↔
      (ComparisonOp.equal .x500Name).HoldsOf (.x500Name a) (.x500Name b) := by
  rw [matches_iff, matches_iff, holdsOf_equal_names_iff]
  constructor
  · rintro ⟨hab, hba⟩
    exact hab.eq_of_length_le hba.length_le
  · intro h
    rw [h]
    exact ⟨List.suffix_rfl, List.suffix_rfl⟩

/-! ## Texts -/

/-- A text before a separator that it does not escape, and one behind it, are read as the components
of the one and those of the other. -/
theorem read_append {p s : List Char} {mark : Char} {first second : DistinguishedName}
    (hp : read p = .ok first) (hs : read s = .ok second) (hend : ¬EndsEscaping p)
    (hmark : isSeparator mark = true) :
    read (p ++ mark :: s) =
      .ok ⟨first.components ++ second.components, p ++ mark :: s⟩ := by
  obtain ⟨-, spellings, hspellings, hfirst⟩ := read_eq_ok_iff.1 hp
  obtain ⟨-, more, hmore, hsecond⟩ := read_eq_ok_iff.1 hs
  refine read_eq_ok_iff.2 ⟨rfl, spellings ++ more, hspellings.append hmore hend hmark, ?_⟩
  rw [List.map_append, hfirst, hsecond]

theorem matchNames_congr {other : DistinguishedName} (h : a.components = b.components) :
    Function.matchNames a other = Function.matchNames b other ∧
      Function.matchNames other a = Function.matchNames other b := by
  simp only [Function.matchNames_eq, h, and_self]

theorem read_x500Name_iff {text : String} :
    Value.read .x500Name text = .ok (.x500Name name) ↔
      name.text = Text.trim text.toList ∧
        read text.toList = .ok ⟨name.components, text.toList⟩ := by
  have hread : Value.read .x500Name text = .ok (.x500Name name) ↔
      read (Text.trim text.toList) = .ok name := by
    rw [Value.read, mapError_eq_ok_iff, Value.readForm, map_eq_ok_iff]
    simp [mapError_eq_ok_iff]
  rw [hread, ← read_trim_iff]
  rcases name with ⟨components, written⟩
  constructor
  · intro h
    obtain rfl : written = Text.trim text.toList := (read_eq_ok_iff.1 h).1
    exact ⟨rfl, h⟩
  · rintro ⟨rfl, h⟩
    exact h

/-- A name is read off two texts that stand around a separator if it is not escaped: it has the
components of the first text and then those of the second, so that the second name matches it.  A
name matches the names that end in its components, so that matching is reflexive and transitive and
holds both ways of equal names only.  What is read are the texts in which types and values are
spelled; neither the case of ASCII letters in them nor the white space around types, values and
separators matters for matching.  Values of the type of names are read alike. -/
theorem names_compose :
    (∀ p s first second, read p = .ok first → read s = .ok second → ¬EndsEscaping p →
        ∀ mark ∈ [',', ';'], ∃ name, read (p ++ mark :: s) = .ok name ∧
          name.components = first.components ++ second.components ∧ second.Matches name) ∧
      ((∀ suffix name, Function.matchNames suffix name =
          .ok (.ofBool (decide (suffix.components <:+ name.components)))) ∧
        (∀ a : DistinguishedName, a.Matches a) ∧
        (∀ a b c : DistinguishedName, a.Matches b → b.Matches c → a.Matches c) ∧
        ∀ a b : DistinguishedName, a.Matches b ∧ b.Matches a ↔
          (ComparisonOp.equal .x500Name).HoldsOf (.x500Name a) (.x500Name b)) ∧
      ((∀ text name, read text = .ok name ↔ name.text = text ∧
          ∃ spellings, Form spellings text ∧
            spellings.map Spelling.relativeName = name.components) ∧
        ∀ text other, SpelledAlike text other →
          ∃ name same, read text = .ok name ∧ read other = .ok same ∧
            name.components = same.components ∧
            ∀ third, Function.matchNames name third = Function.matchNames same third ∧
              Function.matchNames third name = Function.matchNames third same) ∧
      ∀ (text : String) (name : DistinguishedName),
        Value.read .x500Name text = .ok (.x500Name name) ↔
          name.text = Text.trim text.toList ∧
            read text.toList = .ok ⟨name.components, text.toList⟩ := by
  refine ⟨?_, ⟨Function.matchNames_eq, ?_, ?_, fun a b => matches_and_matches_iff⟩,
    ⟨fun text name => read_eq_ok_iff, ?_⟩, fun text name => read_x500Name_iff⟩
  · intro p s first second hp hs hend mark hmark
    have hmark : isSeparator mark = true := by
      simpa [isSeparator] using hmark
    refine ⟨_, read_append hp hs hend hmark, rfl, matches_iff.2 ?_⟩
    exact List.suffix_append first.components second.components
  · intro a
    exact matches_iff.2 List.suffix_rfl
  · intro a b c hab hbc
    exact matches_iff.2 ((matches_iff.1 hab).trans (matches_iff.1 hbc))
  · intro text other h
    obtain ⟨components, htext, hother⟩ := h.exists_components
    exact ⟨_, _, htext, hother, rfl, fun third => matchNames_congr rfl⟩

namespace Smith

/-- A name whose value has an escaped separator inside and an escaped backslash at its end. -/
def person : DistinguishedName :=
  ⟨[⟨"CN".toList, "smith\\, john\\\\".toList⟩], "CN=Smith\\, John\\\\".toList⟩

/-- The name of an organization. -/
def organization : DistinguishedName :=
  ⟨[⟨"O".toList, "acme".toList⟩], "O=Acme".toList⟩

/-- The person in the organization. -/
def member : List Char :=
  person.text ++ ',' :: organization.text

/-- The same with white space and in other letters. -/
def spacedMember : List Char :=
  " cn = SMITH\\, JOHN\\\\ ; o = ACME ".toList

/-- The number of the person, which may stand in front of the name. -/
def number : DistinguishedName :=
  ⟨[⟨"UID".toList, "7".toList⟩], "UID=7".toList⟩

/-- What is spelled in the name of the person in the organization. -/
def spellings : List Spelling :=
  [ ⟨"CN".toList, "Smith\\, John\\\\".toList, by decide +kernel, by decide +kernel,
      by decide +kernel, by decide +kernel⟩
  , ⟨"O".toList, "Acme".toList, by decide +kernel, by decide +kernel, by decide +kernel,
      by decide +kernel⟩ ]

/-- What is spelled there in other letters. -/
def otherSpellings : List Spelling :=
  [ ⟨"cn".toList, "SMITH\\, JOHN\\\\".toList, by decide +kernel, by decide +kernel,
      by decide +kernel, by decide +kernel⟩
  , ⟨"o".toList, "ACME".toList, by decide +kernel, by decide +kernel, by decide +kernel,
      by decide +kernel⟩ ]

theorem spelledAlike_member : SpelledAlike member spacedMember := by
  refine ⟨spellings, otherSpellings, by decide +kernel, by decide +kernel, ?_⟩
  exact .cons ⟨by decide +kernel, by decide +kernel⟩
    (.cons ⟨by decide +kernel, by decide +kernel⟩ .nil)

/-- The name of the person is read up to the separator behind it, although backslashes stand before
both of its separators.  The name of the organization matches the whole, also with something in
front of it, and also with white space and in other letters. -/
theorem names_compose_member :
    read person.text = .ok person ∧ read organization.text = .ok organization ∧
      read number.text = .ok number ∧ ¬EndsEscaping person.text ∧ ¬EndsEscaping number.text ∧
      SpelledAlike member spacedMember ∧
      ∃ name numbered spaced, read member = .ok name ∧
        read (number.text ++ ',' :: member) = .ok numbered ∧ read spacedMember = .ok spaced ∧
        name.components = person.components ++ organization.components ∧
        organization.Matches name ∧ name.Matches numbered ∧ organization.Matches numbered ∧
        Function.matchNames organization spaced = .ok (.ofBool true) := by
  have hperson : read person.text = .ok person := by decide +kernel
  have horganization : read organization.text = .ok organization := by decide +kernel
  have hnumber : read number.text = .ok number := by decide +kernel
  have hpersonEnd : ¬EndsEscaping person.text := by decide +kernel
  have hnumberEnd : ¬EndsEscaping number.text := by decide +kernel
  obtain ⟨hcompose, ⟨-, -, htrans, -⟩, ⟨-, halike⟩, -⟩ := names_compose
  obtain ⟨name, hname, hcomponents, hmatches⟩ :=
    hcompose _ _ _ _ hperson horganization hpersonEnd ',' (by decide)
  obtain ⟨numbered, hnumbered, -, hmatchesNumbered⟩ :=
    hcompose _ _ _ _ hnumber hname hnumberEnd ',' (by decide)
  obtain ⟨name', spaced, hname', hspaced, -, hmatching⟩ := halike _ _ spelledAlike_member
  obtain rfl : name = name' := Except.ok.inj (hname.symm.trans hname')
  exact ⟨hperson, horganization, hnumber, hpersonEnd, hnumberEnd, spelledAlike_member, name,
    numbered, spaced, hname, hnumbered, hspaced, hcomponents, hmatches, hmatchesNumbered,
    htrans _ _ _ hmatches hmatchesNumbered, (hmatching organization).2.symm.trans hmatches⟩

end Smith

end DistinguishedName

end Xacml
