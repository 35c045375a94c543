/-
# The program on a machine

The program works on a tree of files in memory.  Here that tree is filled before a run
and brought back behind it: it holds what lies below the folder the program starts in
and below the folders of the files that its arguments name.  Only what a run has
changed is written.
-/

import MailMerge.Program
import MailMerge.Script.Exec

namespace MailMerge
namespace Machine

/-- How many folders deep the files are read. -/
def depthLimit : Nat := 64

/-- The place that an absolute path stands for. -/
def placeOf (path : String) : Location := (Path.segments path.toList).map String.ofList

/-- What lies below a folder, a folder always before its content.  What cannot be read is left
out, and so are links that lead to folders, which could lead back. -/
def itemsBelow : Nat → Location → IO (List (Location × FileItem))
  | 0, _ => return []
  | fuel + 1, place => do
    let folder ← IO.FS.realPath (FileTree.pathOf place)
    let entries ← try folder.readDir catch _ => pure #[]
    let found ← entries.toList.mapM fun entry => do
      let inner := place ++ [entry.fileName]
      try
        match (← entry.path.symlinkMetadata).type with
        | .dir => return (inner, .folder) :: (← itemsBelow fuel inner)
        | _ =>
          match (← entry.path.metadata).type with
          | .file => return [(inner, .file (← IO.FS.readBinFile entry.path))]
          | _ => return []
      catch _ => return []
    return found.flatten

/-- The folder of the file that an argument names, if it names one. -/
def folderOf? (arg : String) : IO (Option Location) := do
  try
    let path ← IO.FS.realPath arg
    match (← path.metadata).type with
    | .file => return some (placeOf path.toString).dropLast
    | _ => return none
  catch _ => return none

/-- The places between the root and a place, from the root on. -/
def above (place : Location) : List Location :=
  (List.range (place.length - 1)).map fun n => place.take (n + 1)

/-- The files that a run with these arguments can reach. -/
def filesFor (args : List String) : IO FileTree := do
  let here := placeOf (← IO.currentDir).toString
  let named ← args.filterMapM folderOf?
  let roots := (here :: named).eraseDups
  let outer := roots.filter fun r => !roots.any fun o => o ≠ r && o.isPrefixOf r
  let found ← outer.mapM (itemsBelow depthLimit)
  let folders := (outer.flatMap fun r => r :: above r).eraseDups
  return { here := here, items := folders.map (·, .folder) ++ found.flatten }

/-- Whether the same kind of thing stands at a place of another tree. -/
def keepsKind (t : FileTree) (place : Location) : FileItem → Bool
  | .file _ => (t.contentAt? place).isSome
  | .folder => (t.item? place).isSome && (t.contentAt? place).isNone

/-- Brings the changes of a run back: what is gone is removed from the inside out, and then what
is new or changed is written. -/
def store (before after : FileTree) : IO Unit := do
  for (place, item) in before.items.reverse do
    if !keepsKind after place item then
      match item with
      | .file _ => IO.FS.removeFile (FileTree.pathOf place)
      | .folder => IO.FS.removeDir (FileTree.pathOf place)
  for (place, item) in after.items do
    match item with
    | .folder => IO.FS.createDirAll (FileTree.pathOf place)
    | .file content =>
      if before.contentAt? place != some content then
        IO.FS.createDirAll (FileTree.pathOf place.dropLast)
        IO.FS.writeBinFile (FileTree.pathOf place) content

/-- The variables of the environment. -/
def environ : IO (List (String × String)) := do
  try
    let bytes ← IO.FS.readBinFile "/proc/self/environ"
    let text := (String.fromUTF8? bytes).getD ""
    return (Text.splitOn (Char.ofNat 0) text.toList).filterMap fun assignment =>
      (Text.splitOnce? '=' assignment).map fun (name, value) =>
        (String.ofList name, String.ofList value)
  catch _ => return []

/-- What is said about a command line that is not followed. -/
def usageText : UsageFault → String
  | .invalidValue => "error: a value is required for this option"
  | .unknownArgument => "error: unexpected argument"
  | .argumentConflict => "error: this option cannot be used multiple times"
  | .valueValidation => "error: an extra variable is not of the form KEY=VALUE"
  | .tooManyValues => "error: this option takes no value"
  | .displayHelp =>
    "Usage: rowjinja [OPTIONS]\n\n" ++
    "  -c, --config <CONFIG>              YAML config file\n" ++
    "  -i, --input <FILE>                 input spreadsheet; repeatable\n" ++
    "  -t, --template <TEMPLATE>          template file path\n" ++
    "  -o, --output <OUTPUT>              output file path\n" ++
    "  -f, --force                        overwrite existing output files\n" ++
    "      --delete                       delete each output after the post hook ran\n" ++
    "      --pre-hook <PRE_HOOK>          command run before rendering each row\n" ++
    "      --post-hook <POST_HOOK>        command run after writing each output\n" ++
    "      --skip <SKIP>                  template deciding whether a row is skipped\n" ++
    "      --csv-delimiter <CHARACTER>    character separating CSV fields\n" ++
    "      --header-row-column <ROW,COL>  header position, zero-based\n" ++
    "  -e, --extra-vars <KEY=VALUE>...    extra template variables\n" ++
    "      --continue-on-error            log failing rows and keep going\n" ++
    "  -v, --verbose...                   more output per occurrence\n" ++
    "  -h, --help                         print help\n" ++
    "  -V, --version                      print version"
  | .displayVersion => "rowjinja 0.1.0"

/-- Whether a text about the command line is an answer and not a complaint. -/
def isAnswer (fault : UsageFault) : Bool := Program.usageCode fault == 0

end Machine
end MailMerge

open MailMerge in
/-- Runs the program on the machine's files.  Log lines go to standard error. -/
def main (args : List String) : IO UInt32 := do
  let environ ← Machine.environ
  let before ← Machine.filesFor args
  let ending := Program.run (Script.shell environ) .none args environ before
  match ending.usage with
  | some fault =>
    if Machine.isAnswer fault then IO.println (Machine.usageText fault)
    else IO.eprintln (Machine.usageText fault)
  | none => pure ()
  for event in ending.logged do
    IO.eprintln event.line
  Machine.store before ending.files
  return ending.exitCode.toUInt32
