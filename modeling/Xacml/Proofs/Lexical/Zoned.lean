import Xacml.Proofs.Lexical.Expressible

/-!
# Local times and zones

Dates, times of day and date-times are read in one way: the zone is cut off, the rest is read as a
local date or time, and this is placed in the zone.  A text with a zone therefore is a text without
one, of which it is the same local date or time, and the form of a zone.

* `readZoned` is this way of reading, and `readZoned_eq_ok_iff` tells what it reads,
* `Clock.before` is local time less the offset, around midnight, and `Time.rotate_neg` shows that it
  is what is kept,
* `Time.read_zoned_iff`, `Date.read_zoned_iff` and `DateTime.read_zoned_iff` are the results.
-/

namespace Xacml

/-! ## Readers with zones -/

namespace Temporal

section

variable {α β : Type} {readLocal : List Char → Except Fault α}
  {place : Option Int → α → Except Fault β} {text : List Char} {b : β}

/-- Reads what stands before the zone, if there is one, and places it in the zone. -/
def readZoned (readLocal : List Char → Except Fault α) (place : Option Int → α → Except Fault β)
    (text : List Char) : Except Fault β := do
  let (body, zone) ← splitZone (Text.trim text)
  place zone (← readLocal body)

/-- Whether a reader takes texts only that end in a digit and in no zone. -/
def EndsUnzoned (readLocal : List Char → Except Fault α) : Prop :=
  ∀ body a, readLocal body = .ok a → Unzoned body ∧ ∃ c ∈ body.getLast?, c.isDigit = true

/-- The front of a trimmed text that ends in a digit has no white space around it. -/
theorem trim_of_append {body zone : List Char} (h : Text.trim text = body ++ zone)
    (hlast : ∃ c ∈ body.getLast?, c.isDigit = true) : Text.trim body = body := by
  rcases hlast with ⟨last, hmem, hdigit⟩
  refine Text.trim_eq_self (fun c hc => ?_) fun c hc => ?_
  · refine (Text.isBlank_ends_trim text).1 c ?_
    rw [h, List.head?_append, Option.mem_def.1 hc]
    rfl
  · obtain rfl : last = c := Option.some.inj ((Option.mem_def.1 hmem).symm.trans hc)
    exact Text.isBlank_of_isDigit hdigit

/-- A zone after a trimmed text leaves nothing to trim. -/
theorem trim_append_zone {body zone : List Char} {offset : Int} (hbody : Text.trim body = body)
    (hne : body ≠ []) (hzone : ZoneForm true zone offset) :
    Text.trim (body ++ zone) = body ++ zone := by
  rcases hzone.exists_last with ⟨last, hlast, hblank⟩
  refine Text.trim_eq_self (fun c hc => ?_) fun c hc => ?_
  · rw [List.head?_append_of_ne_nil _ hne] at hc
    exact (Text.isBlank_ends_trim body).1 c (hbody.symm ▸ hc)
  · rw [List.mem_getLast?_append_of_mem_getLast? hlast] at hc
    exact Option.some.inj hc ▸ hblank

/-- A text without a zone is a local text, and one with a zone is a local text before a zone. -/
theorem readZoned_eq_ok_iff (hlocal : EndsUnzoned readLocal) :
    readZoned readLocal place text = .ok b ↔
      (∃ a, readLocal (Text.trim text) = .ok a ∧ place none a = .ok b) ∨
        ∃ body zone offset a, Text.trim text = body ++ zone ∧ Text.trim body = body ∧
          ZoneForm true zone offset ∧ readLocal body = .ok a ∧ place (some offset) a = .ok b := by
  constructor
  · intro h
    -- Where no zone is found, the local text is the whole text.
    rcases exists_of_bind_eq_ok h with ⟨⟨body, _ | offset⟩, hzone, h⟩
    · rcases exists_of_bind_eq_ok h with ⟨a, ha, hb⟩
      exact .inl ⟨a, (unzoned_of_splitZone hzone).1 ▸ ha, hb⟩
    · rcases exists_of_bind_eq_ok h with ⟨a, ha, hb⟩
      rcases splitZone_eq_some_iff.1 hzone with ⟨zone, htext, hform⟩
      exact .inr ⟨body, zone, offset, a, htext, trim_of_append htext (hlocal body a ha).2, hform,
        ha, hb⟩
  · rintro (⟨a, ha, hb⟩ | ⟨body, zone, offset, a, htext, -, hform, ha, hb⟩)
    · rw [readZoned, splitZone_unzoned (hlocal _ a ha).1]
      simpa only [Bind.bind, Except.bind, ha] using hb
    · rw [readZoned, htext, splitZone_append hform]
      simpa only [Bind.bind, Except.bind, ha] using hb

end

/-! ## Local readers -/

/-- Reads a text up to its end. -/
def readWhole {α : Type} (reader : List Char → Except Fault (α × List Char)) (text : List Char) :
    Except Fault α := do
  let (a, rest) ← reader text
  atEnd rest
  return a

theorem readWhole_eq_ok_iff {α : Type} {reader : List Char → Except Fault (α × List Char)}
    {text : List Char} {a : α} : readWhole reader text = .ok a ↔ reader text = .ok (a, []) := by
  constructor
  · intro h
    rcases exists_of_bind_eq_ok h with ⟨⟨_, rest⟩, hread, h⟩
    rcases exists_of_bind_eq_ok h with ⟨_, hend, h⟩
    cases h
    cases rest with
    | nil => exact hread
    | cons => cases hend
  · intro h
    simp only [readWhole, h, Bind.bind, Except.bind, atEnd]
    rfl

end Temporal

open Temporal

/-! ## Times of day -/

/-- The time of day that many seconds before, counted around midnight.  A leap second comes before
midnight for a zone west of universal time, and after it for one east of it; it stays a leap second
in universal time only. -/
def Temporal.Clock.before (clock : Clock) (offset : Int) : Clock :=
  if clock.nanos < 1000000000 ∨ offset = 0 then
    ⟨((clock.seconds - offset) % 86400).toNat, clock.nanos⟩
  else if 0 < offset then
    ⟨((clock.seconds + 1 - offset) % 86400).toNat, clock.nanos - 1000000000⟩
  else ⟨((clock.seconds - offset) % 86400).toNat, clock.nanos - 1000000000⟩

namespace Time

variable {text : List Char} {clock utc : Clock} {offset : Int}

theorem rotate_neg (h : clock.InDay) (offset : Int) :
    rotate clock (-offset) = clock.before offset := by
  have hmod (seconds : Int) : Int.fmod seconds 86400 = seconds % 86400 :=
    Int.fmod_eq_emod_of_nonneg _ (by decide)
  rw [rotate, advance_seconds h.nanos, Clock.before]
  by_cases hlt : clock.nanos < 1000000000
  · rw [if_pos hlt, if_pos (.inl hlt), Count.clock, hmod]
    rfl
  · rw [if_neg hlt]
    rcases Int.lt_trichotomy offset 0 with hwest | rfl | heast
    · rw [if_pos (by omega), if_neg (by omega), if_neg (by omega), Count.clock, hmod,
        Clock.mk.injEq]
      exact ⟨rfl, by dsimp only; omega⟩
    · rw [if_neg (by decide), if_neg (by decide), if_pos (.inr rfl), Count.clock, hmod]
      simp
    · rw [if_neg (by omega), if_pos (by omega), if_neg (by omega), if_pos heast, Count.clock, hmod,
        Clock.mk.injEq]
      exact ⟨rfl, by dsimp only; omega⟩

theorem before_zero (h : clock.InDay) : clock.before 0 = clock := by
  rw [← rotate_neg h, Int.neg_zero, rotate_zero h]

theorem read_eq_readZoned (text : List Char) :
    read text = readZoned (readWhole readClock)
      (fun zone clock => .ok ⟨rotate clock (-(zone.getD 0)), zone⟩) text := by
  rw [read, readZoned]
  refine bind_congr fun parts => ?_
  simp only [readWhole, bind_assoc]
  rfl

theorem endsUnzoned : EndsUnzoned (readWhole readClock) := by
  intro body clock h
  have hread := readWhole_eq_ok_iff.1 h
  exact ⟨unzoned_of_readClock hread [], exists_last_of_readClock hread⟩

theorem place_eq_ok_iff {zone : Option Int} {time : Time} (h : clock.InDay) :
    (Except.ok ⟨rotate clock (-(zone.getD 0)), zone⟩ : Except Fault Time) = .ok time ↔
      time.utc = clock.before (zone.getD 0) ∧ time.zone = zone := by
  rw [rotate_neg h, Except.ok.injEq]
  constructor
  · rintro rfl
    exact ⟨rfl, rfl⟩
  · rintro ⟨hutc, rfl⟩
    rw [← hutc]

/-- A text without a zone is that of a time of day in universal time. -/
theorem read_local_iff :
    read text = .ok ⟨clock, none⟩ ↔ readClock (Text.trim text) = .ok (clock, []) := by
  rw [read_eq_readZoned, readZoned_eq_ok_iff endsUnzoned]
  simp only [readWhole_eq_ok_iff]
  constructor
  · rintro (⟨found, hfound, heq⟩ | ⟨_, _, _, _, _, _, _, _, heq⟩)
    · have hday := (Clock.isValid_of_readClock hfound).inDay
      have hutc : clock = found.before 0 := ((place_eq_ok_iff hday).1 heq).1
      rw [hutc, before_zero hday, hfound]
    · cases heq
  · intro h
    have hday := (Clock.isValid_of_readClock h).inDay
    exact .inl ⟨clock, h, (place_eq_ok_iff hday).2 ⟨(before_zero hday).symm, rfl⟩⟩

/-- A text with a zone is a local time of day before a zone, and denotes the time that many seconds
before. -/
theorem read_zoned_iff :
    read text = .ok ⟨utc, some offset⟩ ↔
      ∃ body zone clock, Text.trim text = body ++ zone ∧ Text.trim body = body ∧
        ZoneForm true zone offset ∧ read body = .ok ⟨clock, none⟩ ∧ utc = clock.before offset := by
  rw [read_eq_readZoned, readZoned_eq_ok_iff endsUnzoned]
  simp only [readWhole_eq_ok_iff, read_local_iff]
  constructor
  · rintro (⟨_, _, heq⟩ | ⟨body, zone, found, clock, htext, hbody, hform, hclock, heq⟩)
    · cases heq
    · have hday := (Clock.isValid_of_readClock hclock).inDay
      rcases (place_eq_ok_iff hday).1 heq with ⟨rfl, hzone⟩
      cases hzone
      exact ⟨body, zone, clock, htext, hbody, hform, hbody.symm ▸ hclock, rfl⟩
  · rintro ⟨body, zone, clock, htext, hbody, hform, hclock, rfl⟩
    rw [hbody] at hclock
    have hday := (Clock.isValid_of_readClock hclock).inDay
    exact .inr ⟨body, zone, offset, clock, htext, hbody, hform, hclock,
      (place_eq_ok_iff hday).2 ⟨rfl, rfl⟩⟩

end Time

/-! ## Dates -/

namespace Date

variable {text : List Char} {date : CalendarDate} {offset : Int}

/-- Reads a date without a zone. -/
def readLocal (body : List Char) : Except Fault CalendarDate := do
  (← readWhole readDateFields body).toDate

theorem read_eq_readZoned (text : List Char) :
    read text = readZoned readLocal (fun zone date => .ok ⟨date, zone⟩) text := by
  rw [read, readZoned]
  refine bind_congr fun parts => ?_
  simp only [readLocal, readWhole, bind_assoc]
  rfl

theorem endsUnzoned : EndsUnzoned readLocal := by
  intro body date h
  rcases exists_of_bind_eq_ok h with ⟨fields, hfields, -⟩
  have hread := readWhole_eq_ok_iff.1 hfields
  exact ⟨unzoned_of_readDateFields hread, exists_last_of_readDateFields hread⟩

theorem read_local_iff :
    read text = .ok ⟨date, none⟩ ↔ readLocal (Text.trim text) = .ok date := by
  rw [read_eq_readZoned, readZoned_eq_ok_iff endsUnzoned]
  constructor
  · rintro (⟨found, hfound, heq⟩ | ⟨_, _, _, _, _, _, _, _, heq⟩)
    · cases heq
      exact hfound
    · cases heq
  · exact fun h => .inl ⟨date, h, rfl⟩

/-- A text with a zone is a date before a zone, and denotes the same date. -/
theorem read_zoned_iff :
    read text = .ok ⟨date, some offset⟩ ↔
      ∃ body zone, Text.trim text = body ++ zone ∧ Text.trim body = body ∧
        ZoneForm true zone offset ∧ read body = .ok ⟨date, none⟩ := by
  simp only [read_local_iff]
  rw [read_eq_readZoned, readZoned_eq_ok_iff endsUnzoned]
  constructor
  · rintro (⟨_, _, heq⟩ | ⟨body, zone, found, local', htext, hbody, hform, hlocal, heq⟩)
    · cases heq
    · cases heq
      exact ⟨body, zone, htext, hbody, hform, hbody.symm ▸ hlocal⟩
  · rintro ⟨body, zone, htext, hbody, hform, hlocal⟩
    exact .inr ⟨body, zone, offset, date, htext, hbody, hform, hbody ▸ hlocal, rfl⟩

end Date

/-! ## Date-times -/

namespace DateTime

variable {text : List Char} {instant count : Count} {offset : Int}

/-- Reads a date with a time of day and without a zone. -/
def readLocal (body : List Char) : Except Fault Count := do
  let (fields, rest) ← readDateFields body
  let rest ← readMark 'T' rest
  let clock ← readWhole readClock rest
  let date ← fields.toDate
  return countOf date clock

theorem read_eq_readZoned (text : List Char) :
    read text = readZoned readLocal
      (fun zone count =>
        match ofLocal? count zone with
        | some dateTime => .ok dateTime
        | none => .error .instantRange) text := by
  rw [read, readZoned]
  refine bind_congr fun parts => ?_
  simp only [readLocal, readWhole, bind_assoc]
  rfl

theorem exists_of_readLocal {body : List Char} (h : readLocal body = .ok count) :
    (∃ front rest clock, body = front ++ rest ∧ readClock rest = .ok (clock, [])) ∧
      inRange count = true := by
  rcases exists_of_bind_eq_ok h with ⟨⟨fields, rest₁⟩, hfields, h⟩
  rcases exists_of_bind_eq_ok h with ⟨rest₂, hmark, h⟩
  rcases exists_of_bind_eq_ok h with ⟨clock, hclock, h⟩
  rcases exists_of_bind_eq_ok h with ⟨date, hdate, h⟩
  cases h
  have hread := readWhole_eq_ok_iff.1 hclock
  rcases exists_of_readDateFields hfields with ⟨front, day, rfl, -, -⟩
  cases eq_of_readMark hmark
  refine ⟨⟨front ++ (day ++ ['T']), rest₂, clock, by simp, hread⟩, ?_⟩
  rw [inRange_iff, dateOf_countOf (isValid_of_toDate hdate) (Clock.isValid_of_readClock hread)]
  exact isValid_of_toDate hdate

theorem endsUnzoned : EndsUnzoned readLocal := by
  intro body count h
  rcases exists_of_readLocal h with ⟨⟨front, rest, clock, rfl, hclock⟩, -⟩
  rcases exists_last_of_readClock hclock with ⟨c, hc, hdigit⟩
  exact ⟨unzoned_of_readClock hclock front, c, List.mem_getLast?_append_of_mem_getLast? hc, hdigit⟩

theorem place_eq_ok_iff {zone : Option Int} {dateTime : DateTime} :
    (match ofLocal? count zone with
      | some dateTime => .ok dateTime
      | none => .error .instantRange : Except Fault DateTime) = .ok dateTime ↔
      dateTime.instant = shift count (-(zone.getD 0)) ∧ dateTime.zone = zone ∧
        inRange dateTime.instant = true := by
  unfold ofLocal?
  dsimp only
  split
  case h_1 found hfound =>
    split at hfound
    case isTrue hrange =>
      cases hfound
      rw [Except.ok.injEq]
      constructor
      · rintro rfl
        exact ⟨rfl, rfl, hrange⟩
      · rintro ⟨hinstant, rfl, -⟩
        rw [← hinstant]
    case isFalse => cases hfound
  case h_2 hnone =>
    split at hnone
    case isTrue => cases hnone
    case isFalse hrange =>
      refine iff_of_false (by simp) ?_
      rintro ⟨hinstant, -, hinRange⟩
      exact hrange (hinstant ▸ hinRange)

/-- A text without a zone is that of an instant in universal time. -/
theorem read_local_iff :
    read text = .ok ⟨count, none⟩ ↔ readLocal (Text.trim text) = .ok count := by
  rw [read_eq_readZoned, readZoned_eq_ok_iff endsUnzoned]
  simp only [place_eq_ok_iff]
  have hzero (count : Count) : shift count (-(none.getD 0)) = count := by
    simp [shift]
  constructor
  · rintro (⟨found, hfound, hinstant, -, -⟩ | ⟨_, _, _, _, _, _, _, _, _, hzone, _⟩)
    · rw [hzero] at hinstant
      exact hinstant ▸ hfound
    · cases hzone
  · exact fun h => .inl ⟨count, h, (hzero count).symm, trivial, (exists_of_readLocal h).2⟩

/-- A text with a zone is a local date-time before a zone, and denotes the instant that many seconds
before, if that is supported. -/
theorem read_zoned_iff :
    read text = .ok ⟨instant, some offset⟩ ↔
      ∃ body zone count, Text.trim text = body ++ zone ∧ Text.trim body = body ∧
        ZoneForm true zone offset ∧ read body = .ok ⟨count, none⟩ ∧
          instant = ⟨count.seconds - offset, count.nanos⟩ ∧ inRange instant = true := by
  simp only [read_local_iff]
  rw [read_eq_readZoned, readZoned_eq_ok_iff endsUnzoned]
  simp only [place_eq_ok_iff]
  constructor
  · rintro (⟨_, _, _, hzone, _⟩ | ⟨body, zone, found, count, htext, hbody, hform, hlocal, hplace⟩)
    · cases hzone
    · rcases hplace with ⟨hinstant, hzone, hrange⟩
      cases hzone
      exact ⟨body, zone, count, htext, hbody, hform, hbody.symm ▸ hlocal, hinstant, hrange⟩
  · rintro ⟨body, zone, count, htext, hbody, hform, hlocal, hinstant, hrange⟩
    exact .inr ⟨body, zone, offset, count, htext, hbody, hform, hbody ▸ hlocal, hinstant, rfl,
      hrange⟩

end DateTime

end Xacml
