import Xacml.Proofs.Lexical.Canonical

/-!
# Durations as values

* `durations_exact`: a text is a duration if it is that of components whose total is in range, the
  duration is that total, and durations are equal if they are printed alike.
-/

namespace Xacml

namespace Value

variable {text : String} {value : Value}

theorem read_dayTimeDuration_iff :
    read .dayTimeDuration text = .ok value ↔
      ∃ parts : DayTimeDuration.Parts, parts.IsForm ∧ parts.text = Text.trim text.toList ∧
        parts.total ≤ DayTimeDuration.maxNanos ∧
        value = .dayTimeDuration ⟨Duration.withSign parts.negative parts.total⟩ := by
  rw [read, mapError_eq_ok_iff, readForm_dayTimeDuration_iff]
  constructor
  · rintro ⟨duration, hread, rfl⟩
    rcases DayTimeDuration.read_eq_ok_iff.1 hread with ⟨parts, hform, htext, hrange, rfl⟩
    exact ⟨parts, hform, htext, hrange, rfl⟩
  · rintro ⟨parts, hform, htext, hrange, rfl⟩
    exact ⟨_, DayTimeDuration.read_eq_ok_iff.2 ⟨parts, hform, htext, hrange, rfl⟩, rfl⟩

theorem read_yearMonthDuration_iff :
    read .yearMonthDuration text = .ok value ↔
      ∃ parts : YearMonthDuration.Parts, parts.IsForm ∧ parts.text = Text.trim text.toList ∧
        parts.total ≤ Duration.maxCount ∧
        value = .yearMonthDuration ⟨Duration.withSign parts.negative parts.total⟩ := by
  rw [read, mapError_eq_ok_iff, readForm_yearMonthDuration_iff]
  constructor
  · rintro ⟨duration, hread, rfl⟩
    rcases YearMonthDuration.read_eq_ok_iff.1 hread with ⟨parts, hform, htext, hrange, rfl⟩
    exact ⟨parts, hform, htext, hrange, rfl⟩
  · rintro ⟨parts, hform, htext, hrange, rfl⟩
    exact ⟨_, YearMonthDuration.read_eq_ok_iff.2 ⟨parts, hform, htext, hrange, rfl⟩, rfl⟩

/-- Whether a value is a duration of either kind. -/
def IsDuration (value : Value) : Prop :=
  value.type = .dayTimeDuration ∨ value.type = .yearMonthDuration

theorem normal_of_isDuration (h : value.IsDuration) : value.normal = value := by
  cases value with
  | dayTimeDuration | yearMonthDuration => rfl
  | _ => rcases h with h | h <;> cases h

/-- Durations that were read are equal if they are printed alike. -/
theorem same_iff_text_eq {type : DataType} {other : String} {value' : Value}
    (hkind : type = .dayTimeDuration ∨ type = .yearMonthDuration)
    (h : read type text = .ok value) (h' : read type other = .ok value') :
    value.same value' = true ↔ value.text = value'.text := by
  have hdouble : type ≠ .double := by rcases hkind with rfl | rfl <;> decide
  have hnormal : value.normal = value :=
    normal_of_isDuration (by rwa [IsDuration, type_of_read h])
  have hnormal' : value'.normal = value' :=
    normal_of_isDuration (by rwa [IsDuration, type_of_read h'])
  rw [same_iff, hnormal, hnormal', eq_iff_text_eq hdouble h h']

end Value

/-- A text is a duration of days and times, or of years and months, if and only if it is that of
components whose total is in range, and then the duration is exactly that total with its sign.
Durations that were read are equal if and only if they are printed alike. -/
theorem durations_exact (text : String) :
    (∀ value, Value.read .dayTimeDuration text = .ok value ↔
      ∃ parts : DayTimeDuration.Parts, parts.IsForm ∧ parts.text = Text.trim text.toList ∧
        parts.total ≤ DayTimeDuration.maxNanos ∧
        value = .dayTimeDuration ⟨Duration.withSign parts.negative parts.total⟩) ∧
    (∀ value, Value.read .yearMonthDuration text = .ok value ↔
      ∃ parts : YearMonthDuration.Parts, parts.IsForm ∧ parts.text = Text.trim text.toList ∧
        parts.total ≤ Duration.maxCount ∧
        value = .yearMonthDuration ⟨Duration.withSign parts.negative parts.total⟩) ∧
    ∀ type, type = .dayTimeDuration ∨ type = .yearMonthDuration →
      ∀ value, Value.read type text = .ok value →
        ∀ other value', Value.read type other = .ok value' →
          (value.same value' = true ↔ value.text = value'.text) := by
  refine ⟨fun _ => Value.read_dayTimeDuration_iff, fun _ => Value.read_yearMonthDuration_iff, ?_⟩
  intro type hkind value h other value' h'
  exact Value.same_iff_text_eq hkind h h'

/-- A day is the same as twenty-three hours and sixty minutes. -/
theorem durations_exact_day :
    Value.read .dayTimeDuration "P1D" = .ok (.dayTimeDuration ⟨86400000000000⟩) ∧
      Value.read .dayTimeDuration " PT23H60M " = .ok (.dayTimeDuration ⟨86400000000000⟩) ∧
      ((Value.dayTimeDuration ⟨86400000000000⟩).same (.dayTimeDuration ⟨86400000000000⟩) = true ↔
        (Value.dayTimeDuration ⟨86400000000000⟩).text =
          (Value.dayTimeDuration ⟨86400000000000⟩).text) :=
  have hday : Value.read .dayTimeDuration "P1D" = .ok (.dayTimeDuration ⟨86400000000000⟩) :=
    ((durations_exact "P1D").1 _).2 ⟨⟨false, some ['1'], none, none, none⟩,
      ⟨by rintro _ ⟨⟩; decide, by simp, by simp, by simp, by simp, rfl⟩,
      by decide +kernel, by decide, by decide⟩
  have hhours : Value.read .dayTimeDuration " PT23H60M " =
      .ok (.dayTimeDuration ⟨86400000000000⟩) :=
    ((durations_exact " PT23H60M ").1 _).2 ⟨⟨false, none, some ['2', '3'], some ['6', '0'], none⟩,
      ⟨by simp, by rintro _ ⟨⟩; decide, by rintro _ ⟨⟩; decide, by simp, by simp, rfl⟩,
      by decide +kernel, by decide, by decide⟩
  ⟨hday, hhours, (durations_exact "P1D").2.2 .dayTimeDuration (.inl rfl) _ hday _ _ hhours⟩

end Xacml
