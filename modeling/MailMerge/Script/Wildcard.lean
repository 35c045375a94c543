/-
# Wildcards

In a pattern `*` stands for any text, `?` for any character and a bracket for one of
its characters; what was in quotes stands for itself.  A pattern of a path stands for
the files and folders whose names match, in order.
-/

import MailMerge.Script.State

namespace MailMerge
namespace Script

/-- The characters of a word that is being expanded, each with whether it was in quotes. -/
abbrev Field := List (Char × Bool)

/-- The text of a field. -/
def Field.text (f : Field) : Bytes := f.map Prod.fst

namespace Wildcard

/-- An element of a pattern. -/
inductive Element where
  | any
  | one
  | among (negated : Bool) (ranges : List (Char × Char))
  | char (c : Char)

/-- The ranges of characters in a bracket. -/
def ranges : List Char → List (Char × Char)
  | a :: '-' :: b :: rest => (a, b) :: ranges rest
  | c :: rest => (c, c) :: ranges rest
  | [] => []

/-- What a bracket holds, and what follows it. -/
def bracket? (f : Field) : Option (Element × Field) :=
  let (negated, f) := match f with
    | ('!', false) :: rest => (true, rest)
    | ('^', false) :: rest => (true, rest)
    | f => (false, f)
  let (first, rest) := match f with
    | (']', q) :: rest => ([(']', q)], rest)
    | f => ([], f)
  let inside := rest.takeWhile (· != (']', false))
  match rest.drop inside.length with
  | _ :: behind => some (.among negated (ranges ((first ++ inside).map Prod.fst)), behind)
  | [] => none

/-- The elements of a pattern. -/
def elements : Nat → Field → List Element
  | 0, _ => []
  | _, [] => []
  | fuel + 1, ('*', false) :: rest => .any :: elements fuel rest
  | fuel + 1, ('?', false) :: rest => .one :: elements fuel rest
  | fuel + 1, ('[', false) :: rest =>
    match bracket? rest with
    | some (e, behind) => e :: elements fuel behind
    | none => .char '[' :: elements fuel rest
  | fuel + 1, (c, _) :: rest => .char c :: elements fuel rest

/-- The pattern of a field. -/
def ofField (f : Field) : List Element := elements (f.length + 1) f

/-- Whether a character is as an element wants it. -/
def Element.accepts (c : Char) : Element → Bool
  | any => true
  | one => true
  | among negated rs => (rs.any fun r => r.1 ≤ c && c ≤ r.2) != negated
  | char d => c == d

/-- Whether a text matches a pattern. -/
def fits : List Element → Bytes → Bool
  | [], cs => cs.isEmpty
  | .any :: es, [] => fits es []
  | .any :: es, c :: cs => fits es (c :: cs) || fits (.any :: es) cs
  | _ :: _, [] => false
  | e :: es, c :: cs => e.accepts c && fits es cs
termination_by es cs => es.length + cs.length

/-- Whether a field has wildcards. -/
def isPattern (f : Field) : Bool := f.any fun c => !c.2 && "*?[".toList.contains c.1

/-- The segments of a field between slashes. -/
def segments : Field → List Field
  | [] => [[]]
  | (c, q) :: rest =>
    match segments rest with
    | [] => [[(c, q)]]
    | s :: ss => if c = '/' then [] :: s :: ss else ((c, q) :: s) :: ss

/-- The names in the folder at a place, in order. -/
def namesAt (t : FileTree) (place : Location) : List String :=
  let names := t.items.filterMap fun p =>
    if p.1.dropLast = place ∧ p.1 ≠ [] then p.1.getLast? else none
  names.mergeSort fun a b => a ≤ b

/-- The paths that match segments, behind a path that has been matched. -/
def paths (t : FileTree) : Bytes → List Field → List Bytes
  | before, [] => [before]
  | before, [last] =>
    if isPattern last then namesMatching before last
    else
      let path := before ++ last.text
      if t.occupied (toText path) then [path] else []
  | before, segment :: rest =>
    if isPattern segment then
      (namesMatching before segment).flatMap fun path => paths t (path ++ ['/']) rest
    else paths t (before ++ segment.text ++ ['/']) rest
where
  /-- the paths to the matching names in a folder -/
  namesMatching (before : Bytes) (segment : Field) : List Bytes :=
    let folder := if before.isEmpty then "." else toText before
    match t.folder folder with
    | .error _ => []
    | .ok place =>
      let dotted := segment.head?.map Prod.fst == some '.'
      ((namesAt t place).map ofText).filterMap fun name =>
        if (dotted || name.head? != some '.') && fits (ofField segment) name then
          some (before ++ name)
        else none

/-- The arguments a field stands for: the paths that match it, or its text if none does. -/
def expand (t : FileTree) (f : Field) : List Bytes :=
  if isPattern f then
    match paths t [] (segments f) with
    | [] => [f.text]
    | found => found
  else [f.text]

end Wildcard

end Script
end MailMerge
