/-!
# Tables of code points

A property of characters is constant over long runs of consecutive code points, so a table of it
lists the runs in order.

* `Runs` is such a table, `Runs.ofLengths` builds it from the lengths of the runs,
* `Runs.value?` looks a code point up in it,
* `rangesOfGaps` reads a set of code points that is written as gaps and lengths.
-/

namespace Xacml
namespace Text

/-- The value of every run, with the code point the run starts at, in order. -/
abbrev Runs (α : Type) := Array (Nat × α)

namespace Runs

variable {α : Type}

/-- The table of the runs that follow each other from U+0000 on, of the given lengths. -/
def ofLengths (lengths : List (α × Nat)) : Runs α :=
  (lengths.foldl
    (fun (table, start) (value, count) => (table.push (start, value), start + count))
    ((#[] : Runs α), 0)).1

/-- The value of the last run among `lo … hi - 1` that starts at or before `code`. -/
def search? (runs : Runs α) (code lo hi : Nat) : Option α :=
  if hi ≤ lo + 1 then
    (runs[lo]?).map Prod.snd
  else
    let middle := (lo + hi) / 2
    if ((runs[middle]?).map Prod.fst).getD 0 ≤ code then search? runs code middle hi
    else search? runs code lo middle
  termination_by hi - lo

def value? (runs : Runs α) (code : Nat) : Option α :=
  search? runs code 0 runs.size

end Runs

/-! ## Sets of code points -/

/-- Whether a code point lies in one of the ranges, both ends included. -/
def inRanges (ranges : List (Nat × Nat)) (code : Nat) : Bool :=
  ranges.any fun r => r.1 ≤ code && code ≤ r.2

/-- The range that a word stands for, `next` being the first code point that is left: the length of
the gap before it and, behind a plus sign, its own length unless it is one. -/
def readGap (next : Nat) (word : List Char) : Nat × Nat :=
  let gap := word.takeWhile (· ≠ '+')
  let first := next + Nat.ofDigitChars 10 gap 0
  match word.dropWhile (· ≠ '+') with
  | _ :: length => (first, first + Nat.ofDigitChars 10 length 0 - 1)
  | [] => (first, first)

/-- The ranges that a list of gaps and lengths stands for. -/
def rangesOfGaps (lines : List String) : List (Nat × Nat) :=
  ((lines.flatMap fun line => line.toList.splitOn ' ').foldl
    (fun (ranges, next) word =>
      let range := readGap next word
      (range :: ranges, range.2 + 1))
    (([] : List (Nat × Nat)), 0)).1.reverse

end Text
end Xacml
