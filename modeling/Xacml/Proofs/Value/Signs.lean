import Xacml.Proofs.Lexical.Canonical
import Xacml.Proofs.Lexical.Zoned

/-!
# Signs and zones in lexical forms

An integer is digits after a sign, and a zone is `Z` or a sign with two digits for the hours and two
for the minutes.  The readers take a few texts more, in all of which a sign follows another sign or
a colon.

* `Value.IsPlaced` relates a date or time without a zone to the one that it is in a zone,
* `Value.ReadsSigned` says which integers and zones are read, with a switch for the texts that are
  taken besides,
* `Value.readsSigned` shows it for every text, and without these texts for one that is not doubly
  signed.
-/

namespace Xacml

open Temporal

/-! ## Signs that follow each other -/

/-- Whether a sign directly follows a sign or a colon. -/
def Text.IsDoublySigned (text : List Char) : Prop :=
  ∃ pair ∈ text.zip text.tail, pair.1 ∈ ['+', '-', ':'] ∧ pair.2 ∈ ['+', '-']

instance : DecidablePred Text.IsDoublySigned := fun text =>
  inferInstanceAs (Decidable (∃ pair ∈ text.zip text.tail, _))

theorem Text.isDoublySigned_append {front rest : List Char} {mark sign : Char}
    (hmark : mark ∈ ['+', '-', ':']) (hsign : sign ∈ ['+', '-']) :
    IsDoublySigned (front ++ mark :: sign :: rest) := by
  refine ⟨(mark, sign), ?_, hmark, hsign⟩
  induction front with
  | nil => exact List.mem_cons_self
  | cons c front ih =>
      cases front with
      | nil => exact List.mem_cons_of_mem _ ih
      | cons d front => exact List.mem_cons_of_mem _ ih

theorem Integer.Form.strict {text : List Char} {m : Int} (h : Form true text m)
    (htext : ¬Text.IsDoublySigned text) : Form false text m := by
  cases h with
  | signed h => exact .signed h
  | again _ h =>
      cases h with
      | bare h => exact .signed (.plus h)
      | plus h | minus h =>
          exact absurd (@Text.isDoublySigned_append [] _ '+' _ (by decide) (by decide)) htext

namespace Temporal

variable {front rest field zone : List Char} {mark : Char} {n offset : Int}

theorem IsZoneField.strict (h : IsZoneField true field n) (hmark : mark ∈ ['+', '-', ':'])
    (htext : ¬Text.IsDoublySigned (front ++ mark :: (field ++ rest))) :
    IsZoneField false field n := by
  refine ⟨h.length, h.signed, fun _ => ?_⟩
  cases h.signed with
  | bare hdigits => exact hdigits.digits
  | plus | minus => exact absurd (Text.isDoublySigned_append hmark (by decide)) htext

theorem ZoneForm.strict (h : ZoneForm true zone offset)
    (htext : ¬Text.IsDoublySigned (front ++ zone)) : ZoneForm false zone offset := by
  have hminutes' {sign : Char} {hours minutes : List Char} {m : Int}
      (hminutes : IsZoneField true minutes m)
      (htext : ¬Text.IsDoublySigned (front ++ sign :: (hours ++ ':' :: minutes))) :
      IsZoneField false minutes m := by
    refine @IsZoneField.strict (front ++ sign :: hours) [] minutes ':' m hminutes (by decide) ?_
    simpa using htext
  cases h with
  | universal => exact .universal
  | east hhours hminutes hmaxHours hmaxMinutes =>
      exact .east (hhours.strict (by decide) htext) (hminutes' hminutes htext) hmaxHours hmaxMinutes
  | west hhours hminutes hmaxHours hmaxMinutes =>
      exact .west (hhours.strict (by decide) htext) (hminutes' hminutes htext) hmaxHours hmaxMinutes

end Temporal

/-! ## Values -/

namespace Value

variable {v : Value} {text : String} {type : DataType} {offset : Int}

/-- The zone that a time of day, a date or a date-time was written in. -/
def zone? : Value → Option Int
  | time t => t.zone
  | date d => d.zone
  | dateTime t => t.zone
  | _ => none

/-- Whether a value is what a local date or time is in the zone of an offset: a time of day and an
instant are the local ones less the offset. -/
inductive IsPlaced (offset : Int) : Value → Value → Prop
  | time (clock : Clock) :
      IsPlaced offset (.time ⟨clock, none⟩) (.time ⟨clock.before offset, some offset⟩)
  | date (date : CalendarDate) : IsPlaced offset (.date ⟨date, none⟩) (.date ⟨date, some offset⟩)
  | dateTime {count : Count}
      (hrange : DateTime.inRange ⟨count.seconds - offset, count.nanos⟩ = true) :
      IsPlaced offset (.dateTime ⟨count, none⟩)
        (.dateTime ⟨⟨count.seconds - offset, count.nanos⟩, some offset⟩)

/-- Which integers a text is read as, and which dates and times in a zone: a text of these is one
without a zone and the form of a zone. -/
structure ReadsSigned (lenient : Bool) (text : String) : Prop where
  integer : ∀ v, read .integer text = .ok v ↔
    ∃ n : Int64, Integer.Form lenient (Text.trim text.toList) n.toInt ∧ v = .integer n
  zone : ∀ type v offset, read type text = .ok v ∧ v.zone? = some offset ↔
    ∃ body zone v₀, Text.trim text.toList = body ++ zone ∧ Text.trim body = body ∧
      ZoneForm lenient zone offset ∧ read type (String.ofList body) = .ok v₀ ∧ IsPlaced offset v₀ v

theorem read_eq_ok_iff : read type text = .ok v ↔ readForm type text.toList = .ok v :=
  mapError_eq_ok_iff

theorem read_time_iff :
    read .time text = .ok v ↔ ∃ t, Time.read text.toList = .ok t ∧ .time t = v :=
  read_eq_ok_iff.trans readForm_time_iff

theorem read_date_iff :
    read .date text = .ok v ↔ ∃ d, Date.read text.toList = .ok d ∧ .date d = v :=
  read_eq_ok_iff.trans readForm_date_iff

theorem read_dateTime_iff :
    read .dateTime text = .ok v ↔ ∃ t, DateTime.read text.toList = .ok t ∧ .dateTime t = v :=
  read_eq_ok_iff.trans readForm_dateTime_iff

theorem read_integer_iff :
    read .integer text = .ok v ↔
      ∃ n : Int64, Integer.Form true (Text.trim text.toList) n.toInt ∧ v = .integer n := by
  rw [read_eq_ok_iff, readForm_integer_iff]
  exact exists_congr fun n => and_congr Integer.read_eq_ok_iff eq_comm

/-- A date or time in a zone is read from the text of the local one and that of the zone. -/
theorem exists_local_of_read (hread : read type text = .ok v) (hzone : v.zone? = some offset) :
    ∃ body zone v₀, Text.trim text.toList = body ++ zone ∧ Text.trim body = body ∧
      ZoneForm true zone offset ∧ read type (String.ofList body) = .ok v₀ ∧
        IsPlaced offset v₀ v := by
  have htype := type_of_read hread
  cases v with
  | time t =>
      obtain rfl : DataType.time = type := htype
      rcases t with ⟨utc, zone⟩
      obtain rfl : zone = some offset := hzone
      rcases read_time_iff.1 hread with ⟨_, hread, heq⟩
      cases heq
      rcases Time.read_zoned_iff.1 hread with ⟨body, zone, clock, htext, hbody, hform, hlocal, rfl⟩
      exact ⟨body, zone, _, htext, hbody, hform,
        read_time_iff.2 ⟨⟨clock, none⟩, by rwa [String.toList_ofList], rfl⟩, .time clock⟩
  | date d =>
      obtain rfl : DataType.date = type := htype
      rcases d with ⟨date, zone⟩
      obtain rfl : zone = some offset := hzone
      rcases read_date_iff.1 hread with ⟨_, hread, heq⟩
      cases heq
      rcases Date.read_zoned_iff.1 hread with ⟨body, zone, htext, hbody, hform, hlocal⟩
      exact ⟨body, zone, _, htext, hbody, hform,
        read_date_iff.2 ⟨⟨date, none⟩, by rwa [String.toList_ofList], rfl⟩, .date date⟩
  | dateTime t =>
      obtain rfl : DataType.dateTime = type := htype
      rcases t with ⟨instant, zone⟩
      obtain rfl : zone = some offset := hzone
      rcases read_dateTime_iff.1 hread with ⟨_, hread, heq⟩
      cases heq
      rcases DateTime.read_zoned_iff.1 hread with
        ⟨body, zone, count, htext, hbody, hform, hlocal, rfl, hrange⟩
      exact ⟨body, zone, _, htext, hbody, hform,
        read_dateTime_iff.2 ⟨⟨count, none⟩, by rwa [String.toList_ofList], rfl⟩,
        .dateTime hrange⟩
  | _ => cases hzone

theorem read_of_isPlaced {body zone : List Char} {v₀ : Value}
    (htext : Text.trim text.toList = body ++ zone) (hbody : Text.trim body = body)
    (hform : ZoneForm true zone offset) (hread : read type (String.ofList body) = .ok v₀)
    (hplaced : IsPlaced offset v₀ v) : read type text = .ok v ∧ v.zone? = some offset := by
  have htype := type_of_read hread
  cases hplaced with
  | time clock =>
      obtain rfl : DataType.time = type := htype
      refine ⟨?_, rfl⟩
      rcases read_time_iff.1 hread with ⟨_, hlocal, heq⟩
      cases heq
      rw [String.toList_ofList] at hlocal
      exact read_time_iff.2 ⟨_, Time.read_zoned_iff.2
        ⟨body, zone, clock, htext, hbody, hform, hlocal, rfl⟩, rfl⟩
  | date date =>
      obtain rfl : DataType.date = type := htype
      refine ⟨?_, rfl⟩
      rcases read_date_iff.1 hread with ⟨_, hlocal, heq⟩
      cases heq
      rw [String.toList_ofList] at hlocal
      exact read_date_iff.2
        ⟨_, Date.read_zoned_iff.2 ⟨body, zone, htext, hbody, hform, hlocal⟩, rfl⟩
  | dateTime hrange =>
      obtain rfl : DataType.dateTime = type := htype
      refine ⟨?_, rfl⟩
      rcases read_dateTime_iff.1 hread with ⟨_, hlocal, heq⟩
      cases heq
      rw [String.toList_ofList] at hlocal
      exact read_dateTime_iff.2 ⟨_, DateTime.read_zoned_iff.2
        ⟨body, zone, _, htext, hbody, hform, hlocal, rfl, hrange⟩, rfl⟩

theorem readsSigned_true (text : String) : ReadsSigned true text where
  integer v := read_integer_iff
  zone type v offset := by
    constructor
    · rintro ⟨hread, hzone⟩
      exact exists_local_of_read hread hzone
    · rintro ⟨body, zone, v₀, htext, hbody, hform, hread, hplaced⟩
      exact read_of_isPlaced htext hbody hform hread hplaced

/-- The integers and zones that are read are those of the lenient forms, and in a text without
doubled signs those of the strict ones. -/
theorem readsSigned (text : String) :
    ReadsSigned true text ∧
      (¬Text.IsDoublySigned (Text.trim text.toList) → ReadsSigned false text) := by
  have h := readsSigned_true text
  refine ⟨h, fun htext => ⟨fun v => ?_, fun type v offset => ?_⟩⟩
  · rw [h.integer]
    exact exists_congr fun n => and_congr_left' ⟨fun h => h.strict htext, fun h => h.of_strict⟩
  · rw [h.zone]
    refine exists_congr fun body => exists_congr fun zone => exists_congr fun v₀ => ?_
    refine and_congr_right fun hsplit => and_congr_right fun _ => and_congr_left' ?_
    exact ⟨fun h => h.strict (hsplit ▸ htext), fun h => h.of_strict⟩

/-- A second sign of an integer, and one among the digits of a zone, are read although no strict
form has them. -/
theorem readsSigned_doublySigned :
    (¬Text.IsDoublySigned (Text.trim "12:30:00+05:30".toList) ∧
      ReadsSigned false "12:30:00+05:30") ∧
    (read .integer "++1" = .ok (.integer 1) ∧ ¬ReadsSigned false "++1") ∧
    read .time "12:00:00+-1:05" = .ok (.time ⟨⟨46500, 0⟩, some (-3300)⟩) ∧
      ¬ReadsSigned false "12:00:00+-1:05" := by
  have hplain : ¬Text.IsDoublySigned (Text.trim "12:30:00+05:30".toList) := by decide +kernel
  have hinteger : read .integer "++1" = .ok (.integer 1) := by decide +kernel
  have htime : read .time "12:00:00+-1:05" = .ok (.time ⟨⟨46500, 0⟩, some (-3300)⟩) := by
    decide +kernel
  refine ⟨⟨hplain, (readsSigned _).2 hplain⟩, ⟨hinteger, fun h => ?_⟩, htime, fun h => ?_⟩
  · rcases (h.integer _).1 hinteger with ⟨n, hform, -⟩
    have htext : Text.trim "++1".toList = ['+', '+', '1'] := by decide +kernel
    rw [htext] at hform
    generalize n.toInt = m at hform
    cases hform with
    | signed h =>
        cases h with
        | bare h | plus h => exact absurd h (by decide)
    | again hlenient => cases hlenient
  · rcases (h.zone _ _ _).1 ⟨htime, rfl⟩ with ⟨body, zone, _, htext, -, hform, -, -⟩
    have hreverse : (Text.trim "12:00:00+-1:05".toList).reverse =
        ['5', '0', ':', '1', '-', '+', '0', '0', ':', '0', '0', ':', '2', '1'] := by decide +kernel
    rw [htext, List.reverse_append] at hreverse
    -- Counted from the end of the text, the first character of the hours is a sign.
    have hfields {sign : Char} {hours minutes : List Char} {m n : Int}
        (hhours : IsZoneField false hours n) (hminutes : IsZoneField false minutes m)
        (hzone : zone = sign :: (hours ++ ':' :: minutes)) : False := by
      rcases List.length_eq_two.1 hhours.length with ⟨a, b, rfl⟩
      rcases List.length_eq_two.1 hminutes.length with ⟨c, d, rfl⟩
      subst hzone
      simp only [List.reverse_cons, List.reverse_nil, List.nil_append, List.cons_append,
        List.cons.injEq] at hreverse
      obtain rfl : a = '-' := hreverse.2.2.2.2.1
      exact absurd (hhours.digits rfl '-' List.mem_cons_self) (by decide)
    generalize (-3300 : Int) = offset at hform
    cases hform with
    | universal => cases hreverse
    | east hhours hminutes | west hhours hminutes => exact hfields hhours hminutes rfl

end Value

end Xacml
