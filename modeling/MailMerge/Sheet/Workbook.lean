/-
# Workbooks

A binary spreadsheet holds worksheets of typed cells.  What decodes its bytes is left open
here: a reader gives the worksheets of a file, or says why it has none to give.  Of a workbook
only the first worksheet counts.
-/

import MailMerge.Failure

namespace MailMerge

/-- A cell of a worksheet. -/
inductive WorkbookCell where
  | int (n : Int64)
  | float (x : Float)
  | text (s : String)
  | bool (b : Bool)
  /-- a date and time, as a number of days -/
  | dateTime (days : Float)
  | isoDateTime (s : String)
  | isoDuration (s : String)
  /-- an error, as it is displayed -/
  | error (display : String)
  | empty

namespace WorkbookCell

/-- Whether a number is whole and less than `10 ^ 15` in size. -/
def isWhole (x : Float) : Bool := x.floor == x && x.abs < 1e15

/-- The value of a cell. -/
def value : WorkbookCell → Value
  | int n => .int n
  | float x => if isWhole x then .int x.toInt64 else .float x
  | text s => .str s
  | bool b => .bool b
  | dateTime days => .float days
  | isoDateTime s => .str s
  | isoDuration s => .str s
  | error display => .str display
  | empty => .str ""

end WorkbookCell

/-- A decoded spreadsheet: its worksheets in order, each with its rows, or why it has none. -/
structure Workbook where
  sheets : List (Except String (List (List WorkbookCell)))

/-- What decodes spreadsheets, from the path and the content of a file. -/
abbrev WorkbookReader := String → ByteArray → Except String Workbook

/-- A reader that decodes nothing. -/
def WorkbookReader.none : WorkbookReader := fun _ _ => .error "no workbook can be decoded"

/-- The rows of the first worksheet. -/
def Workbook.rows (workbook : Workbook) : Except InputFault (List (List Value)) :=
  match workbook.sheets.head? with
  | none => .error .noWorksheet
  | some (.error reason) => .error (.undecodable reason)
  | some (.ok rows) => .ok (rows.map fun row => row.map WorkbookCell.value)

end MailMerge
