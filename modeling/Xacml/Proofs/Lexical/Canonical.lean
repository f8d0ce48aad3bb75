import Mathlib.Data.List.Basic
import Xacml.Proofs.Lexical.Duration
import Xacml.Proofs.Lexical.IntegerForm
import Xacml.Proofs.Lexical.Network
import Xacml.Proofs.Lexical.Octets
import Xacml.Proofs.Lexical.Temporal
import Xacml.Proofs.Typing.Strict
import Xacml.Value.Lexical

/-!
# Canonical texts

The canonical text of a value that was read is a lexical form of the value itself.

* `Value.ReadsBack` says so of one value,
* `Value.readsBack_of_read` shows it for every value but a double that was read from any text,
* `TypedValue.toValue_ofValue` adds that the typed form gives back the value with its category.
-/

namespace Xacml

/-! ## Mail names -/

namespace MailName

variable {name : MailName} {text : List Char}

/-- A text with one mark is cut there. -/
theorem splitOn_eq_pair {mark : Char} {before after : List Char}
    (h : text.splitOn mark = [before, after]) :
    text = before ++ mark :: after ∧ before.splitOn mark = [before] ∧
      after.splitOn mark = [after] := by
  have htext : text = before ++ mark :: after := by
    rw [← Text.join_splitOn mark text, h]
    simp [Text.join]
  have hsplit := h
  rw [htext, List.splitOn_append_cons_self] at hsplit
  -- Each side is cut into one part at least, and together they are two.
  cases hbefore : before.splitOn mark with
  | nil => exact absurd hbefore (List.splitOn_ne_nil mark before)
  | cons first firsts =>
      cases hafter : after.splitOn mark with
      | nil => exact absurd hafter (List.splitOn_ne_nil mark after)
      | cons second seconds =>
          rw [hbefore, hafter] at hsplit
          cases firsts with
          | nil =>
              simp only [List.singleton_append, List.cons.injEq] at hsplit
              rcases hsplit with ⟨rfl, rfl, rfl⟩
              exact ⟨htext, rfl, rfl⟩
          | cons next firsts =>
              have hlength := congrArg List.length hsplit
              simp at hlength

/-- A name that was read from a text without white space around it has none around it itself, and
reads back. -/
theorem read?_write (h : read? (Text.trim text) = some name) :
    Text.trim name.write = name.write ∧ read? name.write = some name := by
  rw [read?] at h
  split at h
  case h_1 localPart domain hsplit =>
    split at h
    case isTrue => cases h
    case isFalse hne =>
      cases h
      rcases splitOn_eq_pair hsplit with ⟨htext, hlocal, hdomain⟩
      have hends := Text.isBlank_ends_trim text
      rw [htext] at hends
      simp only [Bool.or_eq_true, not_or, List.isEmpty_iff] at hne
      rw [write]
      dsimp only
      constructor
      · refine Text.trim_eq_self ?_ ?_
        · cases localPart with
          | nil => exact absurd rfl hne.1
          | cons c rest => exact hends.1
        · intro c hc
          have hlast : (Text.lowerAscii domain).getLast? = some c := by
            rw [Option.mem_def, List.getLast?_append_of_ne_nil _ (List.cons_ne_nil _ _),
              List.getLast?_cons_of_ne_nil (by simpa [Text.lowerAscii] using hne.2)] at hc
            exact hc
          rw [Text.lowerAscii, List.getLast?_map] at hlast
          rcases Option.map_eq_some_iff.1 hlast with ⟨d, hd, rfl⟩
          refine Text.isBlank_toLower (hends.2 d ?_)
          rw [Option.mem_def, List.getLast?_append_of_ne_nil _ (List.cons_ne_nil _ _),
            List.getLast?_cons_of_ne_nil hne.2]
          exact hd
      · -- Neither part has an at sign, in lower case as before.
        have hlower : (localPart ++ '@' :: Text.lowerAscii domain).splitOn '@' =
            [localPart, Text.lowerAscii domain] := by
          rw [List.splitOn_append_cons_self, hlocal, Text.splitOn_lowerAscii (by decide), hdomain]
          rfl
        have hempty : Text.lowerAscii domain ≠ [] := by
          simpa [Text.lowerAscii] using hne.2
        rw [read?, hlower]
        dsimp only
        rw [if_neg (by simp [hne.1, hempty]), Text.lowerAscii_lowerAscii]
  case h_2 => cases h

end MailName

/-! ## Distinguished names -/

namespace DistinguishedName

theorem text_of_read {text : List Char} {name : DistinguishedName} (h : read text = .ok name) :
    name.text = text := by
  rcases exists_of_map_eq_ok h with ⟨components, _, rfl⟩
  rfl

end DistinguishedName

/-! ## White space around dates, times and durations -/

theorem Time.read_trim (text : List Char) : Time.read (Text.trim text) = Time.read text := by
  rw [Time.read, Text.trim_trim, Time.read]

theorem Date.read_trim (text : List Char) : Date.read (Text.trim text) = Date.read text := by
  rw [Date.read, Text.trim_trim, Date.read]

theorem DateTime.read_trim (text : List Char) :
    DateTime.read (Text.trim text) = DateTime.read text := by
  rw [DateTime.read, Text.trim_trim, DateTime.read]

theorem DayTimeDuration.read_trim (text : List Char) :
    DayTimeDuration.read (Text.trim text) = DayTimeDuration.read text := by
  rw [DayTimeDuration.read, Text.trim_trim, DayTimeDuration.read]

theorem YearMonthDuration.read_trim (text : List Char) :
    YearMonthDuration.read (Text.trim text) = YearMonthDuration.read text := by
  rw [YearMonthDuration.read, Text.trim_trim, YearMonthDuration.read]

/-! ## Values -/

namespace Value

variable {type : DataType} {value : Value}

/-! ### Dates, times and durations -/

section

variable {form : List Char}

theorem readForm_integer_iff :
    readForm .integer form = .ok value ↔
      ∃ n, Integer.read (Text.trim form) = .ok n ∧ .integer n = value := by
  simp only [readForm, map_eq_ok_iff, mapError_eq_ok_iff]

theorem readForm_time_iff :
    readForm .time form = .ok value ↔ ∃ t, Time.read form = .ok t ∧ .time t = value := by
  simp only [readForm, map_eq_ok_iff, mapError_eq_ok_iff, Time.read_trim]

theorem readForm_date_iff :
    readForm .date form = .ok value ↔ ∃ d, Date.read form = .ok d ∧ .date d = value := by
  simp only [readForm, map_eq_ok_iff, mapError_eq_ok_iff, Date.read_trim]

theorem readForm_dateTime_iff :
    readForm .dateTime form = .ok value ↔
      ∃ t, DateTime.read form = .ok t ∧ .dateTime t = value := by
  simp only [readForm, map_eq_ok_iff, mapError_eq_ok_iff, DateTime.read_trim]

theorem readForm_dayTimeDuration_iff :
    readForm .dayTimeDuration form = .ok value ↔
      ∃ d, DayTimeDuration.read form = .ok d ∧ .dayTimeDuration d = value := by
  simp only [readForm, map_eq_ok_iff, mapError_eq_ok_iff, DayTimeDuration.read_trim]

theorem readForm_yearMonthDuration_iff :
    readForm .yearMonthDuration form = .ok value ↔
      ∃ d, YearMonthDuration.read form = .ok d ∧ .yearMonthDuration d = value := by
  simp only [readForm, map_eq_ok_iff, mapError_eq_ok_iff, YearMonthDuration.read_trim]

end

/-! ### Reading back -/

theorem readBase64_encode (octets : List UInt8) :
    readBase64 (Base64.encode octets) = .ok octets := by
  have hfilter : (Base64.encode octets).filter (fun c => !Text.isBlank c) =
      Base64.encode octets :=
    List.filter_eq_self.2 fun c hc => by simp [Base64.isBlank_of_mem_encode octets c hc]
  rw [readBase64, hfilter, Base64.decode_encode]

/-- The canonical text of a value that was read is read as the value. -/
theorem readForm_write (hdouble : type ≠ .double) {text : List Char}
    (h : readForm type text = .ok value) : readForm type value.write = .ok value := by
  cases type with
  | string =>
      cases h
      simp only [readForm, write, String.toList_ofList]
  | boolean =>
      rcases exists_of_map_eq_ok h with ⟨_ | _, _, rfl⟩ <;> rfl
  | integer =>
      rcases exists_of_map_eq_ok h with ⟨n, -, rfl⟩
      have htrim : Text.trim (Integer.write n) = Integer.write n :=
        Text.trim_eq_self_of_forall fun c hc =>
          Text.isBlank_of_isDigit_or_mem (by decide) (Integer.mem_write hc)
      simp only [readForm, write, htrim, Integer.read_write, Except.mapError, Except.map]
  | double => exact absurd rfl hdouble
  | time =>
      rcases readForm_time_iff.1 h with ⟨t, ht, rfl⟩
      exact readForm_time_iff.2 ⟨t, Time.read_write (Time.isValid_of_read ht), rfl⟩
  | date =>
      rcases readForm_date_iff.1 h with ⟨d, hd, rfl⟩
      exact readForm_date_iff.2 ⟨d, Date.read_write (Date.isValid_of_read hd), rfl⟩
  | dateTime =>
      rcases readForm_dateTime_iff.1 h with ⟨t, ht, rfl⟩
      exact readForm_dateTime_iff.2 ⟨t, DateTime.read_write (DateTime.isValid_of_read ht), rfl⟩
  | dayTimeDuration =>
      rcases readForm_dayTimeDuration_iff.1 h with ⟨d, hd, rfl⟩
      have hback := DayTimeDuration.read_write (DayTimeDuration.isInRange_of_read hd)
      exact readForm_dayTimeDuration_iff.2 ⟨d, hback, rfl⟩
  | yearMonthDuration =>
      rcases readForm_yearMonthDuration_iff.1 h with ⟨d, hd, rfl⟩
      have hback := YearMonthDuration.read_write (YearMonthDuration.isInRange_of_read hd)
      exact readForm_yearMonthDuration_iff.2 ⟨d, hback, rfl⟩
  | anyUri =>
      simp only [readForm] at h
      split at h
      case isTrue => cases h
      case isFalse hblank =>
        cases h
        simp only [readForm, write, String.toList_ofList, Text.trim_trim, if_neg hblank]
  | hexBinary =>
      rcases exists_of_map_eq_ok h with ⟨octets, -, rfl⟩
      have htrim : Text.trim (Hex.encode octets) = Hex.encode octets :=
        Text.trim_eq_self_of_forall Hex.isBlank_of_mem_encode
      simp only [readForm, write, htrim, Hex.decode_encode, Except.mapError, Except.map]
  | base64Binary =>
      rcases exists_of_map_eq_ok h with ⟨octets, -, rfl⟩
      have htrim : Text.trim (Base64.encode octets) = Base64.encode octets :=
        Text.trim_eq_self_of_forall (Base64.isBlank_of_mem_encode octets)
      simp only [readForm, write, htrim, readBase64_encode, Except.mapError, Except.map]
  | rfc822Name =>
      simp only [readForm] at h
      split at h
      case h_1 name hname =>
        cases h
        rcases MailName.read?_write hname with ⟨htrim, hback⟩
        simp only [readForm, write, htrim, hback]
      case h_2 => cases h
  | x500Name =>
      rcases exists_of_map_eq_ok h with ⟨name, hname, rfl⟩
      have hread := eq_ok_of_mapError hname
      have htext := DistinguishedName.text_of_read hread
      simp only [readForm, write, htext, Text.trim_trim, hread, Except.mapError, Except.map]
  | ipAddress =>
      rcases exists_of_map_eq_ok h with ⟨address, haddress, rfl⟩
      have hvalid := NetworkAddress.isValid_of_read (eq_ok_of_mapError haddress)
      have htrim : Text.trim address.write = address.write :=
        Text.trim_eq_self_of_forall fun _ => NetworkAddress.isBlank_of_mem_write
      simp only [readForm, write, htrim, NetworkAddress.read_write hvalid, Except.mapError,
        Except.map]
  | dnsName =>
      rcases exists_of_map_eq_ok h with ⟨name, hname, rfl⟩
      have hvalid := HostName.isValid_of_read (eq_ok_of_mapError hname)
      have htrim : Text.trim name.write = name.write :=
        Text.trim_eq_self_of_forall fun _ => HostName.isBlank_of_mem_write hvalid
      simp only [readForm, write, htrim, HostName.read_write hvalid, Except.mapError, Except.map]
  | xpathExpression =>
      cases h
      simp only [readForm, write, String.toList_ofList]

/-- Whether the canonical text of a value is read as the value itself. -/
def ReadsBack (value : Value) : Prop :=
  read value.type value.text = .ok value

theorem readsBack_of_read (hdouble : type ≠ .double) {text : String}
    (h : read type text = .ok value) : value.ReadsBack := by
  have hform := readForm_write hdouble (eq_ok_of_mapError h)
  rw [ReadsBack, type_of_read h, read, Value.text, String.toList_ofList, hform]
  rfl

/-- Values of one type that were read are told apart by their canonical texts. -/
theorem eq_iff_text_eq (hdouble : type ≠ .double) {text other : String} {value' : Value}
    (h : read type text = .ok value) (h' : read type other = .ok value') :
    value = value' ↔ value.text = value'.text := by
  constructor
  · rintro rfl
    rfl
  · intro htext
    have hback : read value.type value.text = .ok value := readsBack_of_read hdouble h
    have hback' : read value'.type value'.text = .ok value' := readsBack_of_read hdouble h'
    rw [type_of_read h, htext, ← type_of_read h', hback'] at hback
    exact (Except.ok.inj hback).symm

end Value

/-! ## Typed values -/

namespace TypedValue

theorem ofUri?_uri (type : DataType) : DataType.ofUri? type.uri = some type := by
  cases type <;> decide

/-- The typed form of a value that reads back gives back the value. -/
theorem toValue_ofValue {value : Value} (h : value.ReadsBack) (category : Option String) :
    (ofValue (withCategory category value)).toValue = .ok (withCategory category value) := by
  have htype : (withCategory category value).type = value.type := by cases value <;> rfl
  have htext : (withCategory category value).text = value.text := by cases value <;> rfl
  have hcategory : withCategory (withCategory category value).category? value =
      withCategory category value := by cases value <;> rfl
  rw [ofValue, toValue]
  simp only [htype, htext, ofUri?_uri]
  rw [h, Except.map, hcategory]

end TypedValue

/-- The canonical text of a value that was read, a double apart, is read as the value itself, and
the typed form of the value gives it back with whatever category it has. -/
theorem canonical_text {type : DataType} (hdouble : type ≠ .double) {text : String} {value : Value}
    (h : Value.read type text = .ok value) :
    Value.read type value.text = .ok value ∧
      ∀ category, (TypedValue.ofValue (TypedValue.withCategory category value)).toValue =
        .ok (TypedValue.withCategory category value) := by
  have hback := Value.readsBack_of_read hdouble h
  refine ⟨?_, TypedValue.toValue_ofValue hback⟩
  rw [← Value.type_of_read h]
  exact hback

/-- A time of day is written in its own zone, not in universal time. -/
theorem canonical_text_time :
    Value.read .time (Value.time ⟨⟨66600, 500000000⟩, some (-19800)⟩).text =
        .ok (.time ⟨⟨66600, 500000000⟩, some (-19800)⟩) ∧
      ∀ category, (TypedValue.ofValue (TypedValue.withCategory category
        (.time ⟨⟨66600, 500000000⟩, some (-19800)⟩))).toValue =
          .ok (TypedValue.withCategory category (.time ⟨⟨66600, 500000000⟩, some (-19800)⟩)) :=
  have hread : Value.read .time " 13:00:00.5-05:30 " =
      .ok (.time ⟨⟨66600, 500000000⟩, some (-19800)⟩) := by decide +kernel
  canonical_text (by decide) hread

end Xacml
