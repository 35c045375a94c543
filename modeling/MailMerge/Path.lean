/-
# Paths

A path is text with segments between slashes.  Empty segments and `.` segments say
nothing, except that a path may start with `.`; `..` segments stay.
-/

import MailMerge.Text.Basic

namespace MailMerge
namespace Path

/-- The segments of a path that name something: neither empty nor `.`. -/
def segments (cs : List Char) : List (List Char) :=
  (Text.splitOn '/' cs).filter fun seg => !(seg.isEmpty || seg == ['.'])

/-- Whether a path starts at the root. -/
def isAbsolute (cs : List Char) : Bool := cs.head? == some '/'

/-- Whether the first segment of a path is `.`. -/
def startsHere (cs : List Char) : Bool := (Text.splitOn '/' cs).head? == some ['.']

/-- The path `name` as seen from `base`: an absolute path stands for itself. -/
def join (base name : String) : String :=
  if isAbsolute name.toList then name
  else if base.isEmpty || base.toList.getLast? == some '/' then base ++ name
  else base ++ "/" ++ name

/-- A component of a path: the root, the folder it starts from, the folder above, or a name. -/
inductive Component where
  | root
  | here
  | above
  | named (name : List Char)
  deriving DecidableEq, Repr

namespace Component

/-- How a component is written. -/
def text : Component → String
  | root => "/"
  | here => "."
  | above => ".."
  | named name => String.ofList name

/-- The component that a segment is, if it says anything. -/
def ofSegment? (seg : List Char) : Option Component :=
  if seg.isEmpty || seg == ['.'] then none
  else if seg == ['.', '.'] then some above
  else some (named seg)

end Component

/-- The components of a path.  A `.` is one only at the start, and not behind the root. -/
def components (cs : List Char) : List Component :=
  let start : List Component :=
    if isAbsolute cs then [.root] else if startsHere cs then [.here] else []
  start ++ (Text.splitOn '/' cs).filterMap Component.ofSegment?

/-- The path of components, each seen from the path of those before it. -/
def ofComponents (parts : List Component) : String :=
  parts.foldl (fun path part => join path part.text) ""

/-- A path put together again from its components; where there are none it is `.`. -/
def normalize (s : String) : String :=
  if s.isEmpty then "."
  else
    let path := ofComponents (components s.toList)
    if path.isEmpty then "." else path

/-- A path in its normal form. -/
def normalizeChars (cs : List Char) : List Char := (normalize (String.ofList cs)).toList

/-- A path without the slashes and `.` segments it ends in.  Its first character stays, so
that the root stays the root and a lone `.` stays as it is. -/
def trimEnd (cs : List Char) : List Char :=
  let rec go : Nat → List Char → List Char
    | 0, back => back
    | fuel + 1, back =>
      match back with
      | '/' :: c :: rest => go fuel (c :: rest)
      | '.' :: '/' :: rest => if rest.isEmpty then ['/'] else go fuel ('/' :: rest)
      | back => back
  (go cs.length cs.reverse).reverse

/-- The path without its last segment, if it has one. -/
def parent? (s : String) : Option String :=
  let back := (trimEnd s.toList).reverse
  if back.isEmpty || back == ['/'] then none
  else some (String.ofList (trimEnd (back.dropWhile (· ≠ '/')).reverse))

/-- The last segment of a path, unless it is `..`. -/
def fileName? (cs : List Char) : Option (List Char) :=
  match (segments cs).getLast? with
  | some name => if name == ['.', '.'] then none else some name
  | none => none

/-- What follows the last dot of a file name that does not start with it. -/
def suffix? (cs : List Char) : Option (List Char) := do
  let name ← fileName? cs
  let back := name.reverse
  let ext := back.takeWhile (· ≠ '.')
  match back.drop ext.length with
  | '.' :: _ :: _ => some ext.reverse
  | _ => none

end Path
end MailMerge
