/-
# File trees

The regular files and folders below the root, each at the names that lead to it,
and the folder that relative paths start from.  There are no links, so a place has
one way to it.  A path is walked name by name: every name but the last has to lead
to a folder, `..` leads to the folder above, and what the last name leads to need
not exist yet.  Changes touch one place at a time.
-/

import MailMerge.Path

namespace MailMerge

/-- What stands at a place of a file tree. -/
inductive FileItem where
  | file (content : ByteArray)
  | folder

/-- The names that lead from the root to a place. -/
abbrev Location := List String

/-- The files and folders below the root, and the folder that relative paths start from. -/
structure FileTree where
  here : Location := []
  items : List (Location × FileItem) := []

/-- Why an operation on a file tree is refused. -/
inductive FileError where
  | notFound
  | alreadyExists
  | notAFolder
  | isAFolder
  | folderNotEmpty
  | nameTooLong
  | invalidName
  | notText
  deriving DecidableEq, Repr

/-- The wording of a refusal. -/
def FileError.message : FileError → String
  | notFound => "No such file or directory (os error 2)"
  | alreadyExists => "File exists (os error 17)"
  | notAFolder => "Not a directory (os error 20)"
  | isAFolder => "Is a directory (os error 21)"
  | folderNotEmpty => "Directory not empty (os error 39)"
  | nameTooLong => "File name too long (os error 36)"
  | invalidName => "file name contained an unexpected NUL byte"
  | notText => "stream did not contain valid UTF-8"

namespace FileTree

/-- How many bytes a name may have. -/
def nameLimit : Nat := 255

/-- What stands at a place; the root is a folder. -/
def item? (t : FileTree) (place : Location) : Option FileItem :=
  if place.isEmpty then some .folder else t.items.lookup place

/-- The content of the regular file at a place. -/
def contentAt? (t : FileTree) (place : Location) : Option ByteArray :=
  match t.item? place with
  | some (.file content) => some content
  | _ => none

/-- Goes from a place, which has to be a folder, by one name. -/
def enter (t : FileTree) (place : Location) (name : String) : Except FileError Location :=
  match t.item? place with
  | none => .error .notFound
  | some (.file _) => .error .notAFolder
  | some .folder =>
    if name = "." then .ok place
    else if name = ".." then .ok place.dropLast
    else if nameLimit < name.utf8ByteSize then .error .nameTooLong
    else .ok (place ++ [name])

/-- Goes from a place by names in turn. -/
def walk (t : FileTree) : Location → List String → Except FileError Location
  | place, [] => .ok place
  | place, name :: names =>
    match t.enter place name with
    | .ok next => walk t next names
    | .error e => .error e

/-- The names on a path; a slash at its end says that it leads to a folder, as a final `.`
does. -/
def namesOf (cs : List Char) : List String :=
  let names := ((Text.splitOn '/' cs).filter fun name => !name.isEmpty).map String.ofList
  if cs.getLast? = some '/' then names ++ ["."] else names

/-- The place a path leads to, whether or not something stands there. -/
def locate (t : FileTree) (path : String) : Except FileError Location :=
  let cs := path.toList
  if cs.isEmpty then .error .notFound
  else if cs.contains (Char.ofNat 0) then .error .invalidName
  else t.walk (if Path.isAbsolute cs then [] else t.here) (namesOf cs)

/-- The item a path leads to. -/
def find? (t : FileTree) (path : String) : Option FileItem :=
  match t.locate path with
  | .ok place => t.item? place
  | .error _ => none

/-- Whether something stands where a path leads. -/
def occupied (t : FileTree) (path : String) : Bool := (t.find? path).isSome

/-- Whether a path leads to a regular file. -/
def hasFile (t : FileTree) (path : String) : Bool :=
  match t.find? path with
  | some (.file _) => true
  | _ => false

/-- Whether a path leads to a folder. -/
def hasFolder (t : FileTree) (path : String) : Bool :=
  match t.find? path with
  | some .folder => true
  | _ => false

/-- The content of the regular file that a path leads to. -/
def read (t : FileTree) (path : String) : Except FileError ByteArray :=
  match t.locate path with
  | .error e => .error e
  | .ok place =>
    match t.item? place with
    | some (.file content) => .ok content
    | some .folder => .error .isAFolder
    | none => .error .notFound

/-- The text of the regular file that a path leads to. -/
def readText (t : FileTree) (path : String) : Except FileError String :=
  match t.read path with
  | .error e => .error e
  | .ok content =>
    match String.fromUTF8? content with
    | some text => .ok text
    | none => .error .notText

/-- Sets what stands at a place. -/
def put (t : FileTree) (place : Location) (item : FileItem) : FileTree :=
  if (t.items.lookup place).isSome then
    { t with items := t.items.map fun p => if p.1 = place then (place, item) else p }
  else { t with items := t.items ++ [(place, item)] }

/-- Clears a place. -/
def clear (t : FileTree) (place : Location) : FileTree :=
  { t with items := t.items.filter fun p => p.1 ≠ place }

/-- Writes a regular file, new or in place of the one there. -/
def write (t : FileTree) (path : String) (content : ByteArray) : Except FileError FileTree :=
  match t.locate path with
  | .error e => .error e
  | .ok place =>
    match t.item? place with
    | some .folder => .error .isAFolder
    | _ => .ok (t.put place (.file content))

/-- A path without the slashes it ends in, unless it is the root. -/
def dropSlashes (path : String) : String :=
  match path.toList.reverse.dropWhile (· == '/') with
  | [] => if path.isEmpty then "" else "/"
  | back => String.ofList back.reverse

/-- Makes a folder where nothing stands, in a folder that exists. -/
def makeFolder (t : FileTree) (path : String) : Except FileError FileTree :=
  match t.locate (dropSlashes path) with
  | .error e => .error e
  | .ok place =>
    match t.item? place with
    | some _ => .error .alreadyExists
    | none => .ok (t.put place .folder)

/-- Makes a folder and the folders on the way to it, as far as they are missing.  What was
made stays when a later step is refused. -/
def makeFolders (t : FileTree) : Nat → String → FileTree × Except FileError Unit
  | 0, _ => (t, .error .notFound)
  | fuel + 1, path =>
    if path.isEmpty then (t, .ok ())
    else
      match t.makeFolder path with
      | .ok t => (t, .ok ())
      | .error .notFound =>
        match Path.parent? path with
        | none => (t, .error .notFound)
        | some above =>
          match makeFolders t fuel above with
          | (t, .error e) => (t, .error e)
          | (t, .ok ()) =>
            match t.makeFolder path with
            | .ok t => (t, .ok ())
            | .error e => if t.hasFolder path then (t, .ok ()) else (t, .error e)
      | .error e => if t.hasFolder path then (t, .ok ()) else (t, .error e)

/-- Makes every missing folder on a path. -/
def ensureFolder (t : FileTree) (path : String) : FileTree × Except FileError Unit :=
  t.makeFolders (path.length + 1) path

/-- Removes the regular file that a path leads to. -/
def removeFile (t : FileTree) (path : String) : Except FileError FileTree :=
  match t.locate path with
  | .error e => .error e
  | .ok place =>
    match t.item? place with
    | some (.file _) => .ok (t.clear place)
    | some .folder => .error .isAFolder
    | none => .error .notFound

/-- The folder that a path leads to. -/
def folder (t : FileTree) (path : String) : Except FileError Location :=
  match t.locate path with
  | .error e => .error e
  | .ok place =>
    match t.item? place with
    | some .folder => .ok place
    | some (.file _) => .error .notAFolder
    | none => .error .notFound

/-- The absolute path of a place. -/
def pathOf (place : Location) : String :=
  if place.isEmpty then "/" else "/" ++ joinStrings "/" place

/-- The absolute path of the folder that relative paths start from. -/
def workingPath (t : FileTree) : String := pathOf t.here

end FileTree

end MailMerge
