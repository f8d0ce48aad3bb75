import Mathlib.Data.List.Basic
import Xacml.Proofs.Lexical.Text
import Xacml.Temporal.Duration

/-!
# Looking characters up

The category of a character is looked up in a table of runs by bisection.  This module shows that
the look-up finds the run that holds the code point, and draws from it what reading durations needs
to know about ASCII:

* `Runs.value?_ofLengths`: the value at a code point is that of the run that it lies in,
* `isDigit_of_ascii`, `isDigit_of_capital` and `isDigit_point`: of the ASCII characters in a
  duration the digits are digits, the others are not.
-/

namespace Xacml
namespace Text
namespace Runs

variable {α : Type}

/-! ## The table -/

/-- The runs with the code points that they start at. -/
def starts (next : Nat) : List (α × Nat) → List (Nat × α)
  | [] => []
  | (value, count) :: rest => (next, value) :: starts (next + count) rest

/-- The number of code points in runs. -/
def extent (runs : List (α × Nat)) : Nat :=
  (runs.map Prod.snd).sum

theorem toList_ofLengths (lengths : List (α × Nat)) :
    (ofLengths lengths).toList = starts 0 lengths := by
  have hfold (table : Runs α) (next : Nat) :
      (lengths.foldl (fun state run => (state.1.push (state.2, run.1), state.2 + run.2))
        (table, next)).1.toList = table.toList ++ starts next lengths := by
    induction lengths generalizing table next with
    | nil => simp [starts]
    | cons run rest ih =>
        rcases run with ⟨value, count⟩
        rw [List.foldl_cons, ih]
        simp [starts]
  exact (hfold #[] 0).trans (List.nil_append _)

theorem starts_append (next : Nat) (runs more : List (α × Nat)) :
    starts next (runs ++ more) = starts next runs ++ starts (next + extent runs) more := by
  induction runs generalizing next with
  | nil => simp [starts, extent]
  | cons run rest ih =>
      rcases run with ⟨value, count⟩
      simp only [List.cons_append, starts, ih, extent, List.map_cons, List.sum_cons, Nat.add_assoc]

/-- Runs start in order. -/
theorem mem_starts {next : Nat} {runs : List (α × Nat)} {entry : Nat × α}
    (h : entry ∈ starts next runs) : next ≤ entry.1 ∧ entry.1 ≤ next + extent runs := by
  induction runs generalizing next with
  | nil => cases h
  | cons run rest ih =>
      rcases run with ⟨value, count⟩
      have hextent : extent ((value, count) :: rest) = count + extent rest := by simp [extent]
      rw [hextent]
      rcases List.mem_cons.1 h with rfl | h
      · exact ⟨Nat.le_refl next, Nat.le_add_right next _⟩
      · have hrest := ih h
        omega

/-! ## Bisection -/

/-- Bisection ends at the last run that does not start after the code point. -/
theorem search?_eq_some {runs : Runs α} {code start : Nat} {value : α}
    {before after : List (Nat × α)} (hruns : runs.toList = before ++ (start, value) :: after)
    (hbefore : ∀ entry ∈ before, entry.1 ≤ code) (hstart : start ≤ code)
    (hafter : ∀ entry ∈ after, code < entry.1) (lo hi : Nat) (hlo : lo ≤ before.length)
    (hhi : before.length < hi) (hsize : hi ≤ runs.size) : search? runs code lo hi = some value := by
  have hget (i : Nat) : runs[i]? = (before ++ (start, value) :: after)[i]? := by
    rw [← hruns, Array.getElem?_toList]
  fun_induction search? runs code lo hi with
  | case1 lo hi hle =>
      have hlast : lo = before.length := by omega
      rw [hget, hlast, List.getElem?_append_right (Nat.le_refl _)]
      simp
  | case2 lo hi hlt middle hcode ih =>
      refine ih ?_ hhi hsize
      -- A run after the right one would start after the code point.
      by_contra hbeyond
      have hmiddle : middle < runs.size := by omega
      have hentry : runs[middle] ∈ after := by
        have hlookup : runs[middle]? = some runs[middle] := Array.getElem?_eq_getElem hmiddle
        rw [hget, List.getElem?_append_right (by omega), List.getElem?_cons,
          if_neg (by omega)] at hlookup
        exact List.mem_of_getElem? hlookup
      have hlate := hafter _ hentry
      rw [Array.getElem?_eq_getElem hmiddle] at hcode
      simp only [Option.map_some, Option.getD_some] at hcode
      omega
  | case3 lo hi hlt middle hcode ih =>
      refine ih hlo ?_ (by omega)
      -- A run up to the right one starts at or before the code point.
      by_contra hearly
      have hmiddle : middle < runs.size := by omega
      rw [Array.getElem?_eq_getElem hmiddle] at hcode
      simp only [Option.map_some, Option.getD_some] at hcode
      have hlookup : runs[middle]? = some runs[middle] := Array.getElem?_eq_getElem hmiddle
      rw [hget] at hlookup
      rcases Nat.lt_or_eq_of_le (Nat.le_of_not_lt hearly) with hless | heq
      · rw [List.getElem?_append_left hless] at hlookup
        exact hcode (hbefore _ (List.mem_of_getElem? hlookup))
      · rw [List.getElem?_append_right (by omega), show middle - before.length = 0 by omega,
          List.getElem?_cons_zero] at hlookup
        rw [← Option.some.inj hlookup] at hcode
        exact hcode hstart

/-- The value at a code point is that of the run that it lies in. -/
theorem value?_ofLengths {before after : List (α × Nat)} {value : α} {count code : Nat}
    (hstart : extent before ≤ code) (hend : code < extent before + count) :
    (ofLengths (before ++ (value, count) :: after)).value? code = some value := by
  have hruns : (ofLengths (before ++ (value, count) :: after)).toList =
      starts 0 before ++ (extent before, value) :: starts (extent before + count) after := by
    rw [toList_ofLengths, starts_append, Nat.zero_add, starts]
  have hsize : (ofLengths (before ++ (value, count) :: after)).size =
      (starts 0 before).length + ((starts (extent before + count) after).length + 1) := by
    rw [← Array.length_toList, hruns, List.length_append, List.length_cons]
  refine search?_eq_some hruns ?_ hstart ?_ 0 _ (Nat.zero_le _) (by omega) (Nat.le_refl _)
  · intro entry hentry
    have := (mem_starts hentry).2
    omega
  · intro entry hentry
    have := (mem_starts hentry).1
    omega

end Runs

/-! ## ASCII -/

namespace Category

/-- The runs of the first line of the table. -/
def firstRuns : List (Category × Nat) :=
  [ (control, 32), (spaceSeparator, 1), (otherPunctuation, 3), (currencySymbol, 1)
  , (otherPunctuation, 3), (openPunctuation, 1), (closePunctuation, 1), (otherPunctuation, 1)
  , (mathSymbol, 1), (otherPunctuation, 1), (dashPunctuation, 1), (otherPunctuation, 2)
  , (decimalNumber, 10), (otherPunctuation, 2), (mathSymbol, 3), (otherPunctuation, 2)
  , (uppercaseLetter, 26), (openPunctuation, 1), (otherPunctuation, 1), (closePunctuation, 1)
  , (modifierSymbol, 1), (connectorPunctuation, 1), (modifierSymbol, 1), (lowercaseLetter, 26)
  , (openPunctuation, 1), (mathSymbol, 1) ]

theorem exists_runs_eq : ∃ rest, runs = .ofLengths (firstRuns ++ rest) := by
  have hfirst : ((runText.headD "").toList.splitOn ' ').map readRun = firstRuns := by decide
  refine ⟨((runText.tail.flatMap fun line => line.toList.splitOn ' ').map readRun) ++
    [(unassigned, 1)], ?_⟩
  rw [← hfirst, ← List.append_assoc, ← List.map_append]
  rfl

/-- ASCII is laid out by the first line of the table. -/
theorem ofChar_of_firstRuns {before after : List (Category × Nat)} {category : Category}
    {count : Nat} {c : Char} (h : firstRuns = before ++ (category, count) :: after)
    (hstart : Runs.extent before ≤ c.toNat) (hend : c.toNat < Runs.extent before + count) :
    ofChar c = category := by
  rcases exists_runs_eq with ⟨rest, hruns⟩
  rw [ofChar, hruns, h, List.append_assoc, List.cons_append, Runs.value?_ofLengths hstart hend]
  rfl

theorem ofChar_of_capital {c : Char} (h : 65 ≤ c.toNat) (h' : c.toNat ≤ 90) :
    ofChar c = .uppercaseLetter := by
  have hextent : Runs.extent (firstRuns.take 16) = 65 := by decide
  have hlayout : firstRuns =
      firstRuns.take 16 ++ (.uppercaseLetter, 26) :: firstRuns.drop 17 := rfl
  exact ofChar_of_firstRuns hlayout (by omega) (by omega)

theorem ofChar_of_small {c : Char} (h : 97 ≤ c.toNat) (h' : c.toNat ≤ 122) :
    ofChar c = .lowercaseLetter := by
  have hextent : Runs.extent (firstRuns.take 23) = 97 := by decide
  have hlayout : firstRuns =
      firstRuns.take 23 ++ (.lowercaseLetter, 26) :: firstRuns.drop 24 := rfl
  exact ofChar_of_firstRuns hlayout (by omega) (by omega)

end Category

end Text

namespace Duration

theorem isDigit_of_ascii {c : Char} (h : c.isDigit = true) : isDigit c = true := by
  have hrange := Text.toNat_of_isDigit h
  have hextent : Text.Runs.extent (Text.Category.firstRuns.take 12) = 48 := by decide
  have hlayout : Text.Category.firstRuns = Text.Category.firstRuns.take 12 ++
      (.decimalNumber, 10) :: Text.Category.firstRuns.drop 13 := rfl
  have hcategory : Text.Category.ofChar c = .decimalNumber :=
    Text.Category.ofChar_of_firstRuns hlayout (by omega) (by omega)
  simp [isDigit, hcategory]

/-- The units of durations, capital letters all, are no digits. -/
theorem isDigit_of_capital {c : Char} (h : 65 ≤ c.toNat) (h' : c.toNat ≤ 90) :
    isDigit c = false := by
  simp [isDigit, Text.Category.ofChar_of_capital h h']

theorem isDigit_point : isDigit '.' = false := by
  have hlayout : Text.Category.firstRuns = Text.Category.firstRuns.take 11 ++
      (.otherPunctuation, 2) :: Text.Category.firstRuns.drop 12 := rfl
  have hcategory : Text.Category.ofChar '.' = .otherPunctuation :=
    Text.Category.ofChar_of_firstRuns hlayout (by decide) (by decide)
  simp [isDigit, hcategory]

end Duration

end Xacml
