/-
# Input files

An input file is either text or a spreadsheet in a binary format, and its name says
which.  A file is binary if a zero byte stands near its start.
-/

import MailMerge.Event
import MailMerge.Sheet.Delimited
import MailMerge.Sheet.Workbook

namespace MailMerge
namespace InputFile

/-- The endings of names of binary spreadsheets. -/
def binarySuffixes : List String := ["ods", "xlsx", "xlsm", "xls"]

/-- Whether the name on a path is that of a binary spreadsheet. -/
def expectsBinary (path : String) : Bool :=
  match Path.suffix? path.toList with
  | some suffix => binarySuffixes.contains (String.ofList (Text.asciiLower suffix))
  | none => false

/-- How many bytes at the start of a file tell whether it is binary. -/
def sampleSize : Nat := 8000

/-- Whether a content is binary. -/
def isBinary (content : ByteArray) : Bool := (content.toList.take sampleSize).contains 0

/-- What is wrong with the file at a path, if `binary` says whether it has to be binary. -/
def fault? (t : FileTree) (path : String) (binary : Bool) : Option InputFault :=
  match t.find? path with
  | none => some .missing
  | some .folder => some .notAFile
  | some (.file content) =>
    match binary, isBinary content with
    | true, false => some .notBinary
    | false, true => some .binary
    | _, _ => none

/-- Refuses a file that is missing, not regular, or not of the kind it has to be. -/
def check (path : String) (binary : Bool) : Action Unit := do
  match fault? (← Action.files) path binary with
  | some fault => throw (.input path fault)
  | none => pure ()

/-- The text of a file that has to be a text file. -/
def readText (path : String) : Action String := do
  check path false
  Action.ofExcept (fun e => .input path (.unreadable e)) ((← Action.files).readText path)

/-- The rows of a file. -/
def rawRows (books : WorkbookReader) (t : FileTree) (delimiter : Char) (path : String) :
    Except InputFault (List (List Value)) :=
  match t.read path with
  | .error e => .error (.unreadable e)
  | .ok content =>
    if expectsBinary path then
      match books path content with
      | .error reason => .error (.undecodable reason)
      | .ok workbook => workbook.rows
    else
      match Delimited.values? delimiter content with
      | some rows => .ok rows
      | none => .error (.unreadable .notText)

/-- The sheet in a file. -/
def readSheet (books : WorkbookReader) (path : String) (layout : SheetLayout) : Action Sheet := do
  let rows ← Action.ofExcept (.input path)
    (rawRows books (← Action.files) layout.delimiter path)
  Action.report (.sheetRead path rows.length)
  Action.reportAll ((Sheet.duplicateHeaders layout rows).map .duplicateHeader)
  Action.ofExcept (.sheet (some path)) (Sheet.ofRows layout rows)

end InputFile
end MailMerge
