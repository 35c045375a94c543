/-
# Tables in text files

A file is read byte by byte.  A delimiter ends a cell, a line break ends a row, and
empty lines are no rows.  A quote at the start of a cell protects delimiters and line
breaks up to the next quote; inside it two quotes stand for one.  What follows the
closing quote belongs to the cell as it is.  A cell that reads as a number is one.
-/

import MailMerge.Sheet.Basic

namespace MailMerge
namespace Delimited

/-- Where in a row the next byte stands. -/
inductive Position where
  /-- before a row -/
  | row
  /-- before a cell -/
  | cell
  /-- in a cell -/
  | bare
  /-- in a quoted part -/
  | quoted
  /-- behind a quote in a quoted part -/
  | quote
  deriving DecidableEq, Repr

/-- What has been read: the bytes of the cell, the cells of the row and the rows, each with
the latest first. -/
structure Scan where
  position : Position := .row
  cell : List UInt8 := []
  cells : List (List UInt8) := []
  rows : List (List (List UInt8)) := []

/-- The byte of a double quote. -/
def quoteByte : UInt8 := 0x22

/-- Whether a byte ends a line. -/
def isLineEnd (b : UInt8) : Bool := b == 0x0a || b == 0x0d

namespace Scan

/-- Takes a byte into the cell. -/
def take (s : Scan) (position : Position) (b : UInt8) : Scan :=
  { s with position := position, cell := b :: s.cell }

/-- Ends the cell. -/
def endCell (s : Scan) : Scan :=
  { s with position := .cell, cell := [], cells := s.cell.reverse :: s.cells }

/-- Ends the row. -/
def endRow (s : Scan) : Scan :=
  let s := s.endCell
  { s with position := .row, cells := [], rows := s.cells.reverse :: s.rows }

/-- Takes a byte outside of quotes. -/
def plain (delimiter : UInt8) (s : Scan) (b : UInt8) : Scan :=
  if b = delimiter then s.endCell else if isLineEnd b then s.endRow else s.take .bare b

/-- Takes a byte at the start of a cell. -/
def start (delimiter : UInt8) (s : Scan) (b : UInt8) : Scan :=
  if b = quoteByte then { s with position := .quoted } else s.plain delimiter b

/-- Takes a byte. -/
def step (delimiter : UInt8) (s : Scan) (b : UInt8) : Scan :=
  match s.position with
  | .row => if isLineEnd b then s else s.start delimiter b
  | .cell => s.start delimiter b
  | .bare => s.plain delimiter b
  | .quoted => if b = quoteByte then { s with position := .quote } else s.take .quoted b
  | .quote => if b = quoteByte then s.take .quoted b else s.plain delimiter b

/-- The rows at the end of the file, where the last row needs no line break. -/
def finish (s : Scan) : List (List (List UInt8)) :=
  (if s.position = .row then s.rows else s.endRow.rows).reverse

end Scan

/-- The bytes of a file behind the mark that may precede text. -/
def dropMark : List UInt8 → List UInt8
  | 0xef :: 0xbb :: 0xbf :: rest => rest
  | bytes => bytes

/-- The cells of each row of a file. -/
def rows (delimiter : UInt8) (bytes : List UInt8) : List (List (List UInt8)) :=
  ((dropMark bytes).foldl (Scan.step delimiter) {}).finish

/-- The text of a cell. -/
def text? (bytes : List UInt8) : Option String := String.fromUTF8? ⟨bytes.toArray⟩

/-- Whether a text is made of the characters of numbers and has a digit. -/
def looksNumeric (cs : List Char) : Bool :=
  cs.any Char.isDigit && cs.all fun c => c.isDigit || "+-.eE".toList.contains c

/-- The value of a cell: an integer, another number, or the text. -/
def cellValue (s : String) : Value :=
  let cs := s.toList
  match Number.readInt? cs with
  | some n => .int n
  | none =>
    match Number.readFloat? cs with
    | some x => if looksNumeric cs then .float x else .str s
    | none => .str s

/-- The values of each row of a file, unless a cell is not text. -/
def values? (delimiter : Char) (content : ByteArray) : Option (List (List Value)) :=
  (rows delimiter.toUInt8 content.toList).mapM fun row =>
    row.mapM fun cell => (text? cell).map cellValue

end Delimited
end MailMerge
