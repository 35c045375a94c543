/-
# Sets of code points

A set of code points is held as sorted, disjoint, inclusive ranges, the way the
character properties of the Unicode Standard are published.  Membership is a
binary search, so a property of some eight hundred ranges costs ten comparisons.
-/

namespace MailMerge
namespace Text

/-- A set of code points, as sorted, disjoint, inclusive ranges. -/
structure RangeSet where
  ranges : Array (Nat × Nat)

namespace RangeSet

/-- The value of a hexadecimal digit, 0 for any other character. -/
def hexDigit (c : Char) : Nat :=
  if '0' ≤ c ∧ c ≤ '9' then c.toNat - '0'.toNat
  else if 'a' ≤ c ∧ c ≤ 'f' then c.toNat - 'a'.toNat + 10
  else 0

/-- The number a hexadecimal numeral denotes. -/
def hexNumber (cs : List Char) : Nat :=
  cs.foldl (fun n c => 16 * n + hexDigit c) 0

/-- The pieces of `cs` between the characters `sep`. -/
def pieces (sep : Char) : List Char → List (List Char)
  | [] => [[]]
  | c :: cs =>
    if c = sep then [] :: pieces sep cs
    else match pieces sep cs with
      | [] => [[c]]
      | p :: ps => (c :: p) :: ps

/-- The code points `first`, `first + step`, … up to `last`, each as a range of its own. -/
def singles (first last step : Nat) : List (Nat × Nat) :=
  (List.range ((last - first) / step + 1)).map fun k => (first + step * k, first + step * k)

/-- One range as it is written in a table: `41-5a`, or `aa` for a single code point. -/
def readRange (cs : List Char) : Nat × Nat :=
  match pieces '-' cs with
  | [lo, hi] => (hexNumber lo, hexNumber hi)
  | _ => (hexNumber cs, hexNumber cs)

/-- The ranges of one entry of a table: a range, or `100-12e/2` for every second code point. -/
def readEntry (cs : List Char) : List (Nat × Nat) :=
  match pieces '/' cs with
  | [range, step] => singles (readRange range).1 (readRange range).2 (hexNumber step)
  | _ => [readRange cs]

/-- Reads a table of entries in hexadecimal, separated by single spaces in each line. -/
def ofTable (table : List String) : RangeSet :=
  ⟨(table.flatMap fun line => (pieces ' ' line.toList).flatMap readEntry).toArray⟩

/-- Looks for `n` among the ranges from `lo` up to, not including, `hi`. -/
def search (ranges : Array (Nat × Nat)) (n lo hi : Nat) : Bool :=
  if lo < hi then
    let mid := (lo + hi) / 2
    match ranges[mid]? with
    | none => false
    | some (first, last) =>
      if n < first then search ranges n lo mid
      else if last < n then search ranges n (mid + 1) hi
      else true
  else false
termination_by hi - lo

/-- Whether the set holds the code point `n`. -/
def contains (s : RangeSet) (n : Nat) : Bool :=
  search s.ranges n 0 s.ranges.size

/-- Two rows of ranges as one row in the order of their starts. -/
def merge : List (Nat × Nat) → List (Nat × Nat) → List (Nat × Nat)
  | [], ts => ts
  | r :: rs, [] => r :: rs
  | r :: rs, t :: ts =>
    if r.1 ≤ t.1 then r :: merge rs (t :: ts) else t :: merge (r :: rs) ts
termination_by rs ts => rs.length + ts.length

/-- Ranges in the order of their starts, behind the range from `first` to `last`, with those
that overlap or touch joined. -/
def joinBehind (first last : Nat) : List (Nat × Nat) → List (Nat × Nat)
  | [] => [(first, last)]
  | r :: rs =>
    if r.1 ≤ last + 1 then joinBehind first (max last r.2) rs
    else (first, last) :: joinBehind r.1 r.2 rs

/-- Ranges in the order of their starts, with those that overlap or touch joined. -/
def join : List (Nat × Nat) → List (Nat × Nat)
  | [] => []
  | r :: rs => joinBehind r.1 r.2 rs

/-- The gaps between ranges, from `start` up to the last code point. -/
def gaps (start : Nat) : List (Nat × Nat) → List (Nat × Nat)
  | [] => if start ≤ 0x10ffff then [(start, 0x10ffff)] else []
  | r :: rs =>
    if start < r.1 then (start, r.1 - 1) :: gaps (r.2 + 1) rs else gaps (r.2 + 1) rs

/-- The set without code points. -/
def empty : RangeSet := ⟨#[]⟩

/-- The code points from `first` to `last`. -/
def range (first last : Nat) : RangeSet := ⟨#[(first, last)]⟩

/-- The code points of either set. -/
def union (s t : RangeSet) : RangeSet := ⟨(join (merge s.ranges.toList t.ranges.toList)).toArray⟩

/-- The code points of any of the sets. -/
def unions (sets : List RangeSet) : RangeSet := sets.foldl union empty

/-- The code points that are not in the set. -/
def compl (s : RangeSet) : RangeSet := ⟨(gaps 0 (join s.ranges.toList)).toArray⟩

/-- The code points of the first set that are not in the second. -/
def diff (s t : RangeSet) : RangeSet := (s.compl.union t).compl

end RangeSet

end Text
end MailMerge
