/-
# Operations on text

Texts are worked on as lists of characters.  This module holds what every reader
and writer of the library needs: trimming, searching, replacing, splitting and
joining.  Blank always means the Unicode property `White_Space`.
-/

import MailMerge.Text.CharClass

namespace MailMerge
namespace Text

/-- `cs` without the blanks at its start. -/
def trimStart (cs : List Char) : List Char := cs.dropWhile isBlank

/-- `cs` without the blanks at its end. -/
def trimEnd (cs : List Char) : List Char := (cs.reverse.dropWhile isBlank).reverse

/-- `cs` without the blanks at either end. -/
def trim (cs : List Char) : List Char := trimEnd (trimStart cs)

/-- Whether `cs` holds nothing but blanks. -/
def isAllBlank (cs : List Char) : Bool := cs.all isBlank

/-- What follows `lead` in `cs`, if `cs` starts with `lead`. -/
def dropLead? : List Char → List Char → Option (List Char)
  | [], cs => some cs
  | _ :: _, [] => none
  | p :: ps, c :: cs => if p = c then dropLead? ps cs else none

/-- Whether `cs` starts with `lead`. -/
def startsWith (lead cs : List Char) : Bool := (dropLead? lead cs).isSome

/-- What precedes `tail` in `cs`, if `cs` ends in `tail`. -/
def dropTail? (tail cs : List Char) : Option (List Char) :=
  (dropLead? tail.reverse cs.reverse).map List.reverse

/-- Splits `cs` around the first place where `needle` occurs. -/
def splitAround? (needle : List Char) : List Char → Option (List Char × List Char)
  | [] => (dropLead? needle []).map ([], ·)
  | c :: cs =>
    match dropLead? needle (c :: cs) with
    | some rest => some ([], rest)
    | none => (splitAround? needle cs).map fun (before, rest) => (c :: before, rest)

/-- Whether `needle` occurs in `cs`. -/
def contains (needle : List Char) : List Char → Bool
  | [] => needle.isEmpty
  | c :: cs => startsWith needle (c :: cs) || contains needle cs

/-- The pieces of `cs` between the characters `sep`; one empty piece for the empty text. -/
def splitOn (sep : Char) (cs : List Char) : List (List Char) := RangeSet.pieces sep cs

/-- `cs` split at its first `sep`. -/
def splitOnce? (sep : Char) (cs : List Char) : Option (List Char × List Char) :=
  splitAround? [sep] cs

/-- Copies `cs`, leaving out the next `skip` characters and putting `new` for the first
`limit` occurrences of the non-empty text `old`. -/
def replaceText (old new : List Char) (limit skip : Nat) : List Char → List Char
  | [] => []
  | c :: cs =>
    match skip with
    | k + 1 => replaceText old new limit k cs
    | 0 =>
      match limit with
      | 0 => c :: cs
      | l + 1 =>
        if startsWith old (c :: cs) then new ++ replaceText old new l (old.length - 1) cs
        else c :: replaceText old new (l + 1) 0 cs

/-- Puts `new` at the first `limit` of the places before, between and after characters. -/
def replaceGaps (new : List Char) : Nat → List Char → List Char
  | 0, cs => cs
  | _ + 1, [] => new
  | l + 1, c :: cs => new ++ c :: replaceGaps new l cs

/-- `cs` with the first `limit` occurrences of `old`, from the left and not overlapping,
replaced by `new`; the empty text occurs in every gap. -/
def replaceFirst (old new : List Char) (limit : Nat) (cs : List Char) : List Char :=
  if old.isEmpty then replaceGaps new limit cs else replaceText old new limit 0 cs

/-- `cs` with every occurrence of `old` replaced by `new`. -/
def replaceAll (old new cs : List Char) : List Char :=
  replaceFirst old new (cs.length + 1) cs

/-- The parts in a row, with `sep` between neighbours. -/
def joinWith (sep : List Char) : List (List Char) → List Char
  | [] => []
  | [p] => p
  | p :: ps => p ++ sep ++ joinWith sep ps

end Text

/-- The parts in a row, with `sep` between neighbours. -/
def joinStrings (sep : String) : List String → String
  | [] => ""
  | [p] => p
  | p :: ps => p ++ sep ++ joinStrings sep ps

end MailMerge
