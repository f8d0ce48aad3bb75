import Mathlib.Algebra.GroupWithZero.Nat
import Mathlib.Data.List.Basic
import Xacml.Temporal.Calendar

/-!
# Dates and day numbers

* `CalendarDate.ofDayNumber_dayNumber`: the date of the number of a date is the date,
* `CalendarDate.dayNumber_mem_year`: a date lies between the first days of its year and of the
  next one,
* `CalendarDate.dayNumber_ofDayNumber`: the number of the date of a number is the number, and
  `CalendarDate.isValid_ofDayNumber_iff` says which numbers have a supported date.
-/

namespace Xacml
namespace CalendarDate

variable {year : Int} {date : CalendarDate}

/-! ## Years -/

theorem daysBeforeYear_eq (year : Int) : daysBeforeYear year =
    365 * (year - 1) + (year - 1) / 4 - (year - 1) / 100 + (year - 1) / 400 := by
  simp only [daysBeforeYear, Int.fdiv_eq_ediv_of_nonneg _ (show (0 : Int) ≤ 4 by decide),
    Int.fdiv_eq_ediv_of_nonneg _ (show (0 : Int) ≤ 100 by decide),
    Int.fdiv_eq_ediv_of_nonneg _ (show (0 : Int) ≤ 400 by decide)]

/-- The number of days of a year. -/
def yearLength (year : Int) : Nat :=
  (monthLengths year).sum

theorem yearLength_eq (year : Int) : yearLength year = if isLeap year then 366 else 365 := by
  unfold yearLength monthLengths
  split <;> rfl

theorem isLeap_iff (year : Int) :
    isLeap year = true ↔ year % 4 = 0 ∧ (year % 100 ≠ 0 ∨ year % 400 = 0) := by
  simp only [isLeap, Bool.and_eq_true, Bool.or_eq_true, beq_iff_eq, bne_iff_ne]
  rfl

theorem daysBeforeYear_succ (year : Int) :
    daysBeforeYear (year + 1) = daysBeforeYear year + yearLength year := by
  rw [yearLength_eq, daysBeforeYear_eq, daysBeforeYear_eq]
  by_cases hleap : isLeap year = true
  · have hmod := (isLeap_iff year).1 hleap
    rw [if_pos hleap]
    omega
  · have hmod := mt (isLeap_iff year).2 hleap
    rw [if_neg hleap]
    omega

/-- The estimate is corrected to the year of the day. -/
theorem yearOf_eq {number : Int} (hlow : daysBeforeYear year ≤ number)
    (hhigh : number < daysBeforeYear (year + 1)) : yearOf number = year := by
  have hestimate : Int.fdiv (400 * number) 146097 + 1 = year ∨
      Int.fdiv (400 * number) 146097 + 1 = year - 1 := by
    rw [Int.fdiv_eq_ediv_of_nonneg _ (by decide)]
    rw [daysBeforeYear_eq] at hlow hhigh
    omega
  rcases hestimate with h | h
  · rw [yearOf, h, if_neg (by omega), if_neg (by omega)]
  · have hprevious : daysBeforeYear (year - 1) ≤ daysBeforeYear year := by
      have hsucc := daysBeforeYear_succ (year - 1)
      rw [Int.sub_add_cancel] at hsucc
      omega
    rw [yearOf, h, if_neg (by omega), Int.sub_add_cancel, if_pos hlow]

theorem daysBeforeYear_mono {year year' : Int} (h : year ≤ year') :
    daysBeforeYear year ≤ daysBeforeYear year' := by
  rw [daysBeforeYear_eq, daysBeforeYear_eq]
  omega

/-- A day lies in the year that is found for it. -/
theorem yearOf_spec (number : Int) :
    daysBeforeYear (yearOf number) ≤ number ∧ number < daysBeforeYear (yearOf number + 1) := by
  have hlow : daysBeforeYear (Int.fdiv (400 * number) 146097) ≤ number := by
    rw [Int.fdiv_eq_ediv_of_nonneg _ (by decide), daysBeforeYear_eq]
    omega
  have hhigh : number < daysBeforeYear (Int.fdiv (400 * number) 146097 + 1 + 1 + 1) := by
    rw [Int.fdiv_eq_ediv_of_nonneg _ (by decide), daysBeforeYear_eq]
    omega
  unfold yearOf
  dsimp only
  split
  case isTrue hbefore =>
    rw [Int.add_sub_cancel]
    exact ⟨hlow, hbefore⟩
  case isFalse =>
    split
    case isTrue hafter => exact ⟨hafter, hhigh⟩
    case isFalse => omega

/-! ## Months -/

/-- Days are located in the month that they lie in. -/
theorem locate_eq {lengths : List Nat} {index length days : Nat} (month : Nat)
    (hindex : lengths[index]? = some length) (hdays : days < length) :
    locate month lengths ((lengths.take index).sum + days) = (month + index, days + 1) := by
  induction lengths generalizing month index with
  | nil => cases hindex
  | cons first rest ih =>
      cases index with
      | zero =>
          cases hindex
          simp [locate, hdays]
      | succ index =>
          rw [List.getElem?_cons_succ] at hindex
          rw [locate, List.take_succ_cons, List.sum_cons, if_neg (by omega),
            show first + (rest.take index).sum + days - first = (rest.take index).sum + days by
              omega, ih (month + 1) hindex, Nat.add_assoc, Nat.add_comm 1]

/-- Days within the months are located in one of them. -/
theorem exists_locate {lengths : List Nat} {days : Nat} (month : Nat) (h : days < lengths.sum) :
    ∃ index length day, lengths[index]? = some length ∧ day < length ∧
      (lengths.take index).sum + day = days ∧
      locate month lengths days = (month + index, day + 1) := by
  induction lengths generalizing month days with
  | nil => cases h
  | cons first rest ih =>
      by_cases hfirst : days < first
      · exact ⟨0, first, days, rfl, hfirst, by simp, by simp [locate, hfirst]⟩
      · rw [List.sum_cons] at h
        rcases ih (month + 1) (show days - first < rest.sum by omega) with
          ⟨index, length, day, hlength, hday, hsum, hlocate⟩
        refine ⟨index + 1, length, day, hlength, hday, ?_, ?_⟩
        · rw [List.take_succ_cons, List.sum_cons]
          omega
        · rw [locate, if_neg hfirst, hlocate, Nat.add_assoc, Nat.add_comm 1]

theorem daysBeforeMonth_eq (year : Int) (month : Nat) :
    daysBeforeMonth year month = ((monthLengths year).take (month - 1)).sum :=
  List.sum_eq_foldl.symm

/-- A month that has a day is one of the twelve, and its length is that of the table. -/
theorem exists_month {month day : Nat} (hday : 1 ≤ day) (h : day ≤ daysInMonth year month) :
    ∃ index length, month = index + 1 ∧ (monthLengths year)[index]? = some length ∧
      day ≤ length := by
  cases month with
  | zero => exact absurd h (by simp [daysInMonth]; omega)
  | succ index =>
      rw [daysInMonth] at h
      cases hlength : (monthLengths year)[index]? with
      | none =>
          rw [hlength, Option.getD_none] at h
          omega
      | some length => exact ⟨index, length, rfl, hlength, by simpa [hlength] using h⟩

theorem sum_take_add_le {lengths : List Nat} {index length : Nat}
    (hindex : lengths[index]? = some length) :
    (lengths.take index).sum + length ≤ lengths.sum := by
  rcases List.getElem?_eq_some_iff.1 hindex with ⟨hlt, hlength⟩
  have hsplit := congrArg List.sum (List.take_append_drop index lengths)
  rw [List.sum_append, List.drop_eq_getElem_cons hlt, List.sum_cons, hlength] at hsplit
  omega

/-! ## Dates -/

/-- What the fields of a date lie between. -/
structure Bounds (date : CalendarDate) : Prop where
  minYear : CalendarDate.minYear ≤ date.year
  maxYear : date.year ≤ CalendarDate.maxYear
  minMonth : 1 ≤ date.month
  maxMonth : date.month ≤ 12
  minDay : 1 ≤ date.day
  maxDay : date.day ≤ 31

/-- The months that have days are twelve, and they have 31 at most. -/
theorem month_day_bounds (hday : 1 ≤ date.day) (h : date.day ≤ daysInMonth date.year date.month) :
    1 ≤ date.month ∧ date.month ≤ 12 ∧ date.day ≤ 31 := by
  rcases exists_month hday h with ⟨index, length, hmonth, hlength, hle⟩
  have hindex : index < 12 := (List.getElem?_eq_some_iff.1 hlength).1
  have hmax : length ≤ 31 := by
    have hmem := List.mem_of_getElem? hlength
    simp only [monthLengths, List.mem_cons, List.not_mem_nil, or_false] at hmem
    split at hmem <;> omega
  omega

theorem bounds_of_isValid (h : date.isValid = true) : date.Bounds := by
  simp only [isValid, Bool.and_eq_true, decide_eq_true_eq] at h
  rcases h with ⟨⟨⟨hlow, hhigh⟩, hday⟩, h⟩
  rcases month_day_bounds hday h with ⟨hmonth, hmonth', hday'⟩
  exact ⟨hlow, hhigh, hmonth, hmonth', hday, hday'⟩

/-- A date lies between the first days of its year and of the next one. -/
theorem dayNumber_mem_year (hday : 1 ≤ date.day)
    (h : date.day ≤ daysInMonth date.year date.month) :
    daysBeforeYear date.year ≤ date.dayNumber ∧
      date.dayNumber < daysBeforeYear (date.year + 1) := by
  rcases exists_month hday h with ⟨index, length, hmonth, hlength, hle⟩
  have hsum := sum_take_add_le hlength
  have hmonths : daysBeforeMonth date.year date.month =
      ((monthLengths date.year).take index).sum := by
    rw [daysBeforeMonth_eq, hmonth, Nat.add_sub_cancel]
  rw [daysBeforeYear_succ, dayNumber, hmonths, yearLength]
  omega

/-- The date of the number of a date is the date. -/
theorem ofDayNumber_dayNumber (hvalid : date.isValid = true) :
    ofDayNumber date.dayNumber = date := by
  simp only [isValid, Bool.and_eq_true, decide_eq_true_eq] at hvalid
  rcases hvalid with ⟨⟨-, hday⟩, h⟩
  rcases exists_month hday h with ⟨index, length, hmonth, hlength, hle⟩
  have hyear : yearOf date.dayNumber = date.year :=
    yearOf_eq (dayNumber_mem_year hday h).1 (dayNumber_mem_year hday h).2
  have hdays : (date.dayNumber - daysBeforeYear date.year).toNat =
      ((monthLengths date.year).take index).sum + (date.day - 1) := by
    rw [dayNumber, daysBeforeMonth_eq, hmonth, Nat.add_sub_cancel]
    omega
  rw [ofDayNumber]
  simp only [hyear, hdays, locate_eq 1 hlength (show date.day - 1 < length by omega)]
  rcases date with ⟨year, month, day⟩
  simp only at hmonth hday ⊢
  rw [hmonth, Nat.add_comm 1, Nat.sub_add_cancel hday]

/-! ## Days -/

/-- The parts of the date of a day. -/
theorem ofDayNumber_spec (number : Int) :
    (ofDayNumber number).year = yearOf number ∧ 1 ≤ (ofDayNumber number).day ∧
      (ofDayNumber number).day ≤
        daysInMonth (ofDayNumber number).year (ofDayNumber number).month ∧
      (ofDayNumber number).dayNumber = number := by
  have hyear := yearOf_spec number
  have hdays : (number - daysBeforeYear (yearOf number)).toNat <
      (monthLengths (yearOf number)).sum := by
    have hsucc := daysBeforeYear_succ (yearOf number)
    rw [yearLength] at hsucc
    omega
  rcases exists_locate 1 hdays with ⟨index, length, day, hlength, hday, hsum, hlocate⟩
  have hdate : ofDayNumber number = ⟨yearOf number, 1 + index, day + 1⟩ := by
    rw [ofDayNumber]
    simp only [hlocate]
  have hmonth : daysInMonth (yearOf number) (1 + index) = length := by
    rw [Nat.add_comm, daysInMonth, hlength, Option.getD_some]
  rw [hdate, dayNumber, daysBeforeMonth_eq]
  simp only [Nat.add_sub_cancel_left, hmonth]
  refine ⟨trivial, by omega, by omega, by omega⟩

/-- The number of the date of a number is the number. -/
theorem dayNumber_ofDayNumber (number : Int) : (ofDayNumber number).dayNumber = number :=
  (ofDayNumber_spec number).2.2.2

/-- The date of a day has a supported year if and only if the day is supported. -/
theorem isValid_ofDayNumber_iff (number : Int) :
    (ofDayNumber number).isValid = true ↔ firstDay ≤ number ∧ number ≤ lastDay := by
  rcases ofDayNumber_spec number with ⟨hyear, hday, hday', -⟩
  rcases yearOf_spec number with ⟨hlow, hhigh⟩
  have hfirst : minYear ≤ yearOf number ↔ firstDay ≤ number := by
    constructor
    · exact fun h => Int.le_trans (daysBeforeYear_mono h) hlow
    · intro h
      by_contra hbefore
      have hmono := daysBeforeYear_mono (show yearOf number + 1 ≤ minYear by omega)
      rw [firstDay] at h
      omega
  have hlast : yearOf number ≤ maxYear ↔ number ≤ lastDay := by
    constructor
    · intro h
      have hmono := daysBeforeYear_mono (show yearOf number + 1 ≤ maxYear + 1 by omega)
      rw [lastDay]
      omega
    · intro h
      by_contra hafter
      have hmono := daysBeforeYear_mono (show maxYear + 1 ≤ yearOf number by omega)
      rw [lastDay] at h
      omega
  simp only [isValid, hyear, Bool.and_eq_true, decide_eq_true_eq, hfirst, hlast]
  rw [hyear] at hday'
  tauto

end CalendarDate
end Xacml
