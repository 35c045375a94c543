/-
# Sheets

A sheet is a table whose columns have names.  It is built from raw rows: the rows
above the header and the columns left of it are cut off, rows without a filled cell
are left out, and the first row that remains names the columns.  A column without a
name is dropped.  Names are normalised so that a template can use them.
-/

import MailMerge.Value.Display
import MailMerge.Text.Case

namespace MailMerge

/-- Named columns and rows with one cell for each. -/
structure Sheet where
  headers : List String
  rows : List (List Value)

/-- Where the header of a sheet is, and what separates the cells of a text file. -/
structure SheetLayout where
  delimiter : Char := ','
  headerRow : Nat := 0
  headerColumn : Nat := 0

/-- What keeps rows from being a sheet. -/
inductive SheetFault where
  | noHeader
  | unusableHeader (text : String)
  deriving DecidableEq, Repr

/-- The wording of a fault. -/
def SheetFault.message : SheetFault → String
  | noHeader => "missing a proper column header"
  | unusableHeader text =>
    "column header '" ++ text ++ "' does not contain a usable name"

namespace Sheet

/-- Whether a cell is empty. -/
def isEmptyCell : Value → Bool
  | .str s => s.isEmpty
  | .null => true
  | _ => false

/-- Whether a character may stand in a column name. -/
def isHeaderChar (c : Char) : Bool := c.isAlphanum || c == '_'

/-- Whether a character may start a column name. -/
def isHeaderStart (c : Char) : Bool := c.isAlpha || c == '_'

/-- Puts one underscore for each run of characters that a column name cannot hold.  `inRun`
says whether the character before belonged to such a run. -/
def joinRuns (inRun : Bool) : List Char → List Char
  | [] => []
  | c :: cs =>
    if isHeaderChar c then c :: joinRuns false cs
    else if inRun then joinRuns true cs
    else '_' :: joinRuns true cs

/-- The column name of a header text, as characters. -/
def headerChars (cs : List Char) : List Char :=
  (joinRuns false (Text.lower cs)).dropWhile fun c => !isHeaderStart c

/-- The column name of a header text: in lower case, with an underscore for each run of other
characters, from the first character on that can start a name. -/
def normalizeHeader (s : String) : String := String.ofList (headerChars s.toList)

/-- The rows and columns that belong to the sheet: without those above and left of the header,
and without empty rows. -/
def region (layout : SheetLayout) (rows : List (List Value)) : List (List Value) :=
  ((rows.drop layout.headerRow).map (·.drop layout.headerColumn)).filter
    fun row => !row.all isEmptyCell

/-- The index and name of each column that has a header. -/
def columns : Nat → List Value → Except SheetFault (List (Nat × String))
  | _, [] => .ok []
  | i, cell :: cells =>
    if isEmptyCell cell then columns (i + 1) cells
    else
      let name := normalizeHeader cell.display
      if name.isEmpty then .error (.unusableHeader cell.display)
      else (columns (i + 1) cells).map ((i, name) :: ·)

/-- The cells of a row under the given columns; what a short row lacks is empty. -/
def cellsUnder (cols : List (Nat × String)) (row : List Value) : List Value :=
  cols.map fun col => (row[col.1]?).getD (.str "")

/-- The sheet of raw rows. -/
def ofRows (layout : SheetLayout) (rows : List (List Value)) : Except SheetFault Sheet :=
  match region layout rows with
  | [] => .error .noHeader
  | header :: data =>
    (columns 0 header).map fun cols =>
      { headers := cols.map Prod.snd, rows := data.map (cellsUnder cols) }

/-- The names among `names` that occurred before, each as often as it recurs. -/
def recurring (before : List String) : List String → List String
  | [] => []
  | name :: names =>
    if before.contains name then name :: recurring before names
    else recurring (name :: before) names

/-- The column names that raw rows give more than once, up to the first unusable one. -/
def duplicateHeaders (layout : SheetLayout) (rows : List (List Value)) : List String :=
  match region layout rows with
  | [] => []
  | header :: _ =>
    let names := (header.filter fun cell => !isEmptyCell cell).map fun cell =>
      normalizeHeader cell.display
    recurring [] (names.takeWhile fun name => !name.isEmpty)

/-- One mapping from column names to cells for each row; of columns with one name, the
rightmost counts. -/
def records (s : Sheet) : List (Dict Value) := s.rows.map fun row => Dict.ofList (s.headers.zip row)

end Sheet

end MailMerge
