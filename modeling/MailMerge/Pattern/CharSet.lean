/-
# Sets of characters in patterns

A bracket expression is kept as it was built, and membership is asked of it.  A
set under the case-insensitive flag holds every character that differs in case
only from one of its own.
-/

import MailMerge.Property.CaseOrbit

namespace MailMerge
namespace Pattern

/-- A set of characters. -/
inductive CharSet where
  | range (first last : Nat)
  | table (set : Text.RangeSet)
  | none
  | union (s t : CharSet)
  | inter (s t : CharSet)
  | diff (s t : CharSet)
  | symmDiff (s t : CharSet)
  | compl (s : CharSet)
  | anyCase (s : CharSet)

namespace CharSet

/-- Whether the set holds a character. -/
def mem : CharSet → Char → Bool
  | range first last, c => first ≤ c.toNat && c.toNat ≤ last
  | table set, c => set.contains c.toNat
  | none, _ => false
  | union s t, c => s.mem c || t.mem c
  | inter s t, c => s.mem c && t.mem c
  | diff s t, c => s.mem c && !t.mem c
  | symmDiff s t, c => s.mem c != t.mem c
  | compl s, c => !s.mem c
  | anyCase s, c => (Property.caseOrbit c).any s.mem

/-- The set of one character. -/
def single (c : Char) : CharSet := range c.toNat c.toNat

/-- The set of a row of ranges. -/
def ofRanges (rs : List (Nat × Nat)) : CharSet :=
  rs.foldl (fun s r => union s (range r.1 r.2)) none

/-- All characters. -/
def all : CharSet := range 0 0x10ffff

/-- The characters of a set as ranges, where a set for any case counts with the case it is
written in. -/
def ranges : CharSet → Text.RangeSet
  | range first last => .range first last
  | table set => set
  | none => .empty
  | union s t => s.ranges.union t.ranges
  | inter s t => s.ranges.diff t.ranges.compl
  | diff s t => s.ranges.diff t.ranges
  | symmDiff s t => (s.ranges.diff t.ranges).union (t.ranges.diff s.ranges)
  | compl s => s.ranges.compl
  | anyCase s => s.ranges

/-- The characters of ASCII. -/
def ascii : CharSet := range 0 0x7f

/-- The sets that stand between `[:` and `:]`. -/
def ofPosixName? : String → Option CharSet
  | "alnum" => some (ofRanges [(0x30, 0x39), (0x41, 0x5a), (0x61, 0x7a)])
  | "alpha" => some (ofRanges [(0x41, 0x5a), (0x61, 0x7a)])
  | "ascii" => some (range 0 0x7f)
  | "blank" => some (ofRanges [(0x09, 0x09), (0x20, 0x20)])
  | "cntrl" => some (ofRanges [(0, 0x1f), (0x7f, 0x7f)])
  | "digit" => some (range 0x30 0x39)
  | "graph" => some (range 0x21 0x7e)
  | "lower" => some (range 0x61 0x7a)
  | "print" => some (range 0x20 0x7e)
  | "punct" => some (ofRanges [(0x21, 0x2f), (0x3a, 0x40), (0x5b, 0x60), (0x7b, 0x7e)])
  | "space" => some (ofRanges [(0x09, 0x0d), (0x20, 0x20)])
  | "upper" => some (range 0x41 0x5a)
  | "word" => some (ofRanges [(0x30, 0x39), (0x41, 0x5a), (0x5f, 0x5f), (0x61, 0x7a)])
  | "xdigit" => some (ofRanges [(0x30, 0x39), (0x41, 0x46), (0x61, 0x66)])
  | _ => Option.none

end CharSet

end Pattern
end MailMerge
