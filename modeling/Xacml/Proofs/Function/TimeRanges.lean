import Xacml.Proofs.Function.Times
import Xacml.Proofs.Lexical.Zoned

/-!
# Ranges of times of day

A range of times of day goes from its lower bound around the clock to its upper one.  It may pass
midnight, and whether it does depends on the zone, but which times it contains does not.

* `Clock.ahead` is how far one time of day is ahead of another, going around the clock, and
  `Time.inRange_iff` tells membership by it,
* `Clock.turned` moves a time of day around the clock, and `Clock.ahead_turned` shows that distances
  stay the same,
* `Time.read_append`: a local time is read in a zone as the time that is moved by the offset,
* `timeInRange_circular` is the result.
-/

namespace Xacml

open Temporal

/-! ## Around the clock -/

namespace Temporal

/-- The nanoseconds in a day. -/
def dayNanos : Int := 86400000000000

namespace Clock

variable {clock a b : Clock}

/-- Whether a time of day lies within the day and in no leap second. -/
structure IsOrdinary (clock : Clock) : Prop where
  seconds : clock.seconds < 86400
  nanos : clock.nanos < 1000000000

theorem IsOrdinary.inDay (h : clock.IsOrdinary) : clock.InDay :=
  ⟨h.seconds, Nat.lt_trans h.nanos (by decide)⟩

/-- The nanoseconds from midnight to a time of day. -/
def sinceMidnight (clock : Clock) : Int :=
  clock.seconds * 1000000000 + clock.nanos

theorem IsOrdinary.sinceMidnight_bounds (h : clock.IsOrdinary) :
    0 ≤ clock.sinceMidnight ∧ clock.sinceMidnight < dayNanos := by
  have hseconds := h.seconds
  have hnanos := h.nanos
  simp only [sinceMidnight, dayNanos]
  omega

/-- The nanoseconds from one time of day to the next occurrence of another. -/
def ahead (a b : Clock) : Int :=
  (b.sinceMidnight - a.sinceMidnight) % dayNanos

theorem ahead_self (a : Clock) : a.ahead a = 0 := by
  rw [ahead, Int.sub_self, Int.zero_emod]

theorem ahead_nonneg (a b : Clock) : 0 ≤ a.ahead b :=
  Int.emod_nonneg _ (by decide)

/-- The time of day that many nanoseconds later, counted around midnight. -/
def turned (clock : Clock) (delta : Int) : Clock :=
  (clock.count.advance delta).clock

theorem total_carry (seconds nanos : Int) :
    (Count.carry seconds nanos).seconds * 1000000000 + (Count.carry seconds nanos).nanos =
      seconds * 1000000000 + nanos := by
  have hsecond : (secondNanos : Int) = 1000000000 := rfl
  unfold Count.carry
  split
  · dsimp only
    omega
  · split
    · dsimp only
      omega
    · rfl

/-- Outside of leap seconds the count of all nanoseconds is what moves. -/
theorem total_advance (h : clock.IsOrdinary) (delta : Int) :
    0 ≤ (clock.count.advance delta).nanos ∧ (clock.count.advance delta).nanos < 1000000000 ∧
      (clock.count.advance delta).seconds * 1000000000 + (clock.count.advance delta).nanos =
        clock.sinceMidnight + delta := by
  have hsecond : (secondNanos : Int) = 1000000000 := rfl
  have hnanos := h.nanos
  have hsplit := Int.mul_tdiv_add_tmod delta 1000000000
  have hlt := Int.tmod_lt_of_pos delta (show (0 : Int) < 1000000000 by decide)
  have hgt := Int.lt_tmod_of_pos delta (show (0 : Int) < 1000000000 by decide)
  -- The branch for leap seconds is not taken, and at most one second is carried.
  have hadvance : clock.count.advance delta =
      Count.carry (clock.seconds + delta.tdiv 1000000000)
        (clock.nanos + delta.tmod 1000000000) := by
    rw [Count.advance]
    simp only [hsecond, count]
    rw [if_neg (by omega)]
  have htotal := total_carry (clock.seconds + delta.tdiv 1000000000)
    (clock.nanos + delta.tmod 1000000000)
  have hbounds := @Count.carry_spec (clock.seconds + delta.tdiv 1000000000)
    (clock.nanos + delta.tmod 1000000000) (by omega) (by omega)
  rw [hadvance, htotal, sinceMidnight]
  exact ⟨hbounds.1, hbounds.2, by omega⟩

theorem turned_spec (h : clock.IsOrdinary) (delta : Int) :
    (clock.turned delta).IsOrdinary ∧
      (clock.turned delta).sinceMidnight = (clock.sinceMidnight + delta) % dayNanos := by
  rcases total_advance h delta with ⟨hlow, hhigh, htotal⟩
  rw [← htotal, turned, Count.clock, Int.fmod_eq_emod_of_nonneg _ (by decide)]
  refine ⟨⟨?_, ?_⟩, ?_⟩
  · dsimp only
    omega
  · dsimp only
    omega
  · simp only [sinceMidnight, dayNanos]
    omega

/-- Turning both of two times of day keeps the distance between them. -/
theorem ahead_turned (ha : a.IsOrdinary) (hb : b.IsOrdinary) (delta : Int) :
    (a.turned delta).ahead (b.turned delta) = a.ahead b := by
  rw [ahead, (turned_spec ha delta).2, (turned_spec hb delta).2, ahead, dayNanos]
  omega

end Clock

end Temporal

/-! ## Ranges -/

namespace Time

variable {t lower upper a b : Time}

theorem atMost_iff (ha : a.utc.IsOrdinary) (hb : b.utc.IsOrdinary) :
    a.atMost b = true ↔ a.utc.sinceMidnight ≤ b.utc.sinceMidnight := by
  have hnanos := ha.nanos
  have hnanos' := hb.nanos
  rw [atMost, order, Count.order, Ordering.isLE_then_iff_or]
  simp only [Int.compare_eq_lt, Int.compare_eq_eq, Std.isLE_compare, Clock.count,
    Clock.sinceMidnight]
  omega

/-- A time is in a range if the lower bound does not pass the upper one on the way to it. -/
theorem inRange_iff (ht : t.utc.IsOrdinary) (hlower : lower.utc.IsOrdinary)
    (hupper : upper.utc.IsOrdinary) :
    t.inRange lower upper = true ↔ lower.utc.ahead t.utc ≤ lower.utc.ahead upper.utc := by
  have ht' := ht.sinceMidnight_bounds
  have hlower' := hlower.sinceMidnight_bounds
  have hupper' := hupper.sinceMidnight_bounds
  rw [inRange, Clock.ahead, Clock.ahead]
  simp only [dayNanos] at *
  by_cases hday : lower.atMost upper = true
  · -- Within one day a time before the lower bound is ahead of the upper one.
    rw [if_pos hday, Bool.and_eq_true, atMost_iff hlower ht, atMost_iff ht hupper]
    rw [atMost_iff hlower hupper] at hday
    omega
  · -- Over midnight a time after the lower bound is met before the upper one.
    rw [if_neg hday, Bool.or_eq_true, atMost_iff hlower ht, atMost_iff ht hupper]
    rw [atMost_iff hlower hupper] at hday
    omega

/-- A local time is read in a zone as the time that is moved back by the offset. -/
theorem read_append {text zone : List Char} {clock : Temporal.Clock} {offset : Int}
    (hread : read text = .ok ⟨clock, none⟩) (hzone : ZoneForm true zone offset) :
    read (Text.trim text ++ zone) = .ok ⟨clock.before offset, some offset⟩ := by
  have hne : Text.trim text ≠ [] := by
    rcases exists_last_of_readClock (read_local_iff.1 hread) with ⟨c, hc, -⟩
    rintro heq
    rw [heq] at hc
    cases hc
  have htrim := trim_append_zone (Text.trim_trim text) hne hzone
  rw [← read_trim] at hread
  exact read_zoned_iff.2 ⟨_, zone, clock, htrim, Text.trim_trim text, hzone, hread, rfl⟩

theorem before_eq_turned {clock : Temporal.Clock} (h : clock.IsOrdinary) (offset : Int) :
    clock.before offset = clock.turned (-offset * 1000000000) :=
  (rotate_neg h.inDay offset).symm

end Time

/-! ## The function -/

namespace Function

/-- What the function for ranges of times gives. -/
def timeInRange (t lower upper : Time) : Except EvaluationError Datum :=
  (ofStrict (.comparison .timeInRange)).call
    [.single (.time t), .single (.time lower), .single (.time upper)]

theorem timeInRange_eq (t lower upper : Time) :
    timeInRange t lower upper = .ok (.ofBool (t.inRange lower upper)) :=
  call_ofStrict (.of_fixed rfl)

variable {t lower upper : Time}

theorem timeInRange_eq_ahead (ht : t.utc.IsOrdinary) (hlower : lower.utc.IsOrdinary)
    (hupper : upper.utc.IsOrdinary) :
    timeInRange t lower upper =
      .ok (.ofBool (decide (lower.utc.ahead t.utc ≤ lower.utc.ahead upper.utc))) := by
  have hrange := Time.inRange_iff ht hlower hupper
  rw [timeInRange_eq, ← Bool.decide_coe (t.inRange lower upper)]
  simp only [hrange]

/-- Times that are all moved around the clock by one duration are in range as they were before,
whatever their zones. -/
theorem timeInRange_turned (ht : t.utc.IsOrdinary) (hlower : lower.utc.IsOrdinary)
    (hupper : upper.utc.IsOrdinary) (delta : Int) (zone zone₁ zone₂ : Option Int) :
    timeInRange ⟨t.utc.turned delta, zone⟩ ⟨lower.utc.turned delta, zone₁⟩
      ⟨upper.utc.turned delta, zone₂⟩ = timeInRange t lower upper := by
  rw [timeInRange_eq_ahead (Clock.turned_spec ht delta).1 (Clock.turned_spec hlower delta).1
    (Clock.turned_spec hupper delta).1, timeInRange_eq_ahead ht hlower hupper]
  dsimp only
  rw [Clock.ahead_turned hlower ht, Clock.ahead_turned hlower hupper]

/-- A time of day in no leap second is in a range if and only if it is not further ahead of the
lower bound than the upper bound is, going around the clock.  The bounds themselves are in the
range.  Moving all three times by one duration changes nothing, and neither does writing three local
times in one zone or in another. -/
theorem timeInRange_circular (ht : t.utc.IsOrdinary) (hlower : lower.utc.IsOrdinary)
    (hupper : upper.utc.IsOrdinary) :
    timeInRange t lower upper =
        .ok (.ofBool (decide (lower.utc.ahead t.utc ≤ lower.utc.ahead upper.utc))) ∧
      timeInRange lower lower upper = .ok (.ofBool true) ∧
      timeInRange upper lower upper = .ok (.ofBool true) ∧
      (∀ delta zone zone₁ zone₂,
        timeInRange ⟨t.utc.turned delta, zone⟩ ⟨lower.utc.turned delta, zone₁⟩
            ⟨upper.utc.turned delta, zone₂⟩ = timeInRange t lower upper) ∧
      ∀ a b c, Time.read a = .ok ⟨t.utc, none⟩ → Time.read b = .ok ⟨lower.utc, none⟩ →
        Time.read c = .ok ⟨upper.utc, none⟩ → ∀ zone offset, ZoneForm true zone offset →
          ∃ t' lower' upper', Time.read (Text.trim a ++ zone) = .ok t' ∧
            Time.read (Text.trim b ++ zone) = .ok lower' ∧
            Time.read (Text.trim c ++ zone) = .ok upper' ∧
            timeInRange t' lower' upper' = timeInRange t lower upper := by
  have hzero : lower.utc.ahead lower.utc ≤ lower.utc.ahead upper.utc := by
    have hupper' := Clock.ahead_nonneg lower.utc upper.utc
    rwa [Clock.ahead_self]
  refine ⟨timeInRange_eq_ahead ht hlower hupper, ?_, ?_,
    fun delta => timeInRange_turned ht hlower hupper delta, ?_⟩
  · rw [timeInRange_eq_ahead hlower hlower hupper, decide_eq_true hzero]
  · rw [timeInRange_eq_ahead hupper hlower hupper, decide_eq_true (Int.le_refl _)]
  · intro a b c ha hb hc zone offset hzone
    refine ⟨_, _, _, Time.read_append ha hzone, Time.read_append hb hzone,
      Time.read_append hc hzone, ?_⟩
    rw [Time.before_eq_turned ht, Time.before_eq_turned hlower, Time.before_eq_turned hupper]
    exact timeInRange_turned ht hlower hupper _ _ _ _

namespace Overnight

/-- Half past eleven at night. -/
def arrival : Time := ⟨⟨84600, 0⟩, none⟩

/-- Ten at night. -/
def opening : Time := ⟨⟨79200, 0⟩, none⟩

/-- Two in the morning. -/
def closing : Time := ⟨⟨7200, 0⟩, none⟩

/-- A range that passes midnight contains a time before midnight.  Read in a zone ten hours behind
universal time the range passes no midnight any more, and still contains the time. -/
theorem timeInRange_overnight :
    opening.atMost closing = false ∧ timeInRange arrival opening closing = .ok (.ofBool true) ∧
      ∃ arrival' opening' closing', Time.read "23:30:00-10:00".toList = .ok arrival' ∧
        Time.read "22:00:00-10:00".toList = .ok opening' ∧
        Time.read "02:00:00-10:00".toList = .ok closing' ∧ opening'.atMost closing' = true ∧
          timeInRange arrival' opening' closing' = .ok (.ofBool true) := by
  have hnight : timeInRange arrival opening closing = .ok (.ofBool true) := by
    rw [timeInRange_eq]
    rfl
  have hzone : ZoneForm true "-10:00".toList (-36000) :=
    .west (.of_isNumeral (show ['1', '0'].length = 2 from rfl) (by decide))
      (.of_isNumeral (show ['0', '0'].length = 2 from rfl) (by decide)) (by decide) (by decide)
  rcases (@timeInRange_circular arrival opening closing ⟨by decide, by decide⟩
    ⟨by decide, by decide⟩ ⟨by decide, by decide⟩).2.2.2.2 "23:30:00".toList "22:00:00".toList
    "02:00:00".toList (by decide +kernel) (by decide +kernel) (by decide +kernel) _ _ hzone with
    ⟨arrival', opening', closing', harrival, hopening, hclosing, heq⟩
  have hopening' : Time.read "22:00:00-10:00".toList = .ok ⟨⟨28800, 0⟩, some (-36000)⟩ := by
    decide +kernel
  have hclosing' : Time.read "02:00:00-10:00".toList = .ok ⟨⟨43200, 0⟩, some (-36000)⟩ := by
    decide +kernel
  cases hopening.symm.trans hopening'
  cases hclosing.symm.trans hclosing'
  exact ⟨rfl, hnight, arrival', _, _, harrival, hopening, hclosing, rfl, heq.trans hnight⟩

end Overnight

end Function

end Xacml
