/-
# The state of a script

While a script runs it has files and a folder it works in, variables and arguments,
what is left to read, and streams that lead to files or to buffers.  The buffers 1
and 2 are what the script as a whole puts out; a script whose output is used by
another one writes to a buffer of its own.
-/

import MailMerge.FileTree
import MailMerge.Script.Tree
import MailMerge.Text.Basic

namespace MailMerge
namespace Script

/-- The bytes of a text. -/
def ofText (s : String) : Bytes := s.toUTF8.toList.map fun b => Char.ofNat b.toNat

/-- Bytes as they are stored. -/
def pack (bs : Bytes) : ByteArray := ⟨(bs.map fun c => c.toNat.toUInt8).toArray⟩

/-- Stored bytes. -/
def unpack (content : ByteArray) : Bytes := content.toList.map fun b => Char.ofNat b.toNat

/-- How many bytes the character has that starts with a byte, and in which range its second
byte lies; `none` if no character starts with it. -/
def charShape? (n : Nat) : Option (Nat × Nat × Nat) :=
  if n < 0x80 then some (1, 0x80, 0xbf)
  else if 0xc2 ≤ n ∧ n ≤ 0xdf then some (2, 0x80, 0xbf)
  else if n = 0xe0 then some (3, 0xa0, 0xbf)
  else if n = 0xed then some (3, 0x80, 0x9f)
  else if 0xe1 ≤ n ∧ n ≤ 0xef then some (3, 0x80, 0xbf)
  else if n = 0xf0 then some (4, 0x90, 0xbf)
  else if n = 0xf4 then some (4, 0x80, 0x8f)
  else if 0xf1 ≤ n ∧ n ≤ 0xf3 then some (4, 0x80, 0xbf)
  else none

/-- How many of the next bytes, at most `n`, continue a character. -/
def following : Nat → Nat → Nat → Bytes → Nat
  | 0, _, _, _ => 0
  | _, _, _, [] => 0
  | n + 1, lo, hi, c :: cs =>
    if lo ≤ c.toNat ∧ c.toNat ≤ hi then following n 0x80 0xbf cs + 1 else 0

/-- The text of bytes, with a replacement character for each part that is no text. -/
def decode : Nat → Bytes → List Char
  | 0, _ => []
  | _, [] => []
  | fuel + 1, c :: cs =>
    match charShape? c.toNat with
    | none => Char.ofNat 0xfffd :: decode fuel cs
    | some (length, lo, hi) =>
      let n := following (length - 1) lo hi cs
      if n + 1 = length then
        ((String.fromUTF8? (pack (c :: cs.take n))).getD "").toList ++ decode fuel (cs.drop n)
      else Char.ofNat 0xfffd :: decode fuel (cs.drop n)

/-- The text of bytes. -/
def toText (bs : Bytes) : String := String.ofList (decode (bs.length + 1) bs)

/-- Where a stream leads. -/
inductive Sink where
  | buffer (n : Nat)
  | file (place : Location)
  | nowhere
  deriving DecidableEq, Repr

/-- Why a script, or a part of it, stops before its end. -/
inductive Stop where
  | exit
  | killed
  | leave (loops : Nat)
  | again (loops : Nat)
  | back
  deriving DecidableEq, Repr

/-- The state of a script. -/
structure State where
  files : FileTree
  vars : List (Bytes × Bytes) := []
  arguments : List Bytes := []
  functions : List (Bytes × Command) := []
  status : Nat := 0
  input : Bytes := []
  /-- the parts of each buffer, the latest first -/
  buffers : List (Nat × List Bytes) := []
  streams : List (Nat × Sink) := [(1, .buffer 1), (2, .buffer 2)]
  line : Nat := 1
  /-- the name that the script goes by in messages -/
  name : Bytes := ['s', 'h']
  /-- the command that reads the script which is run, if there is one, as messages name it -/
  caption : String := ""
  /-- the variables that programs see -/
  exported : List Bytes := []
  /-- the variables that keep their values -/
  frozen : List Bytes := []
  /-- in a function, the variables to be set back behind it with what they were -/
  saved : Option (List (Bytes × Option Bytes)) := none
  /-- what is run for a signal, or at the end -/
  traps : List (String × Bytes) := []
  /-- whether a command that fails ends the script -/
  strict : Bool := false
  /-- whether a variable that is not set ends the script -/
  needsValues : Bool := false
  /-- whether commands are shown before they are run -/
  traced : Bool := false
  /-- whether the status of a command is looked at, so that its failure ends nothing -/
  tested : Bool := false

/-- What a script does. -/
abbrev Run (α : Type) := ExceptT Stop (StateM State) α

namespace Run

/-- Puts bytes at the end of a buffer. -/
def addTo (n : Nat) (text : Bytes) (buffers : List (Nat × List Bytes)) :
    List (Nat × List Bytes) :=
  (n, text :: (buffers.lookup n).getD []) :: buffers.filter fun b => b.1 != n

/-- The bytes in a buffer. -/
def bufferText (s : State) (n : Nat) : Bytes := ((s.buffers.lookup n).getD []).reverse.flatten

/-- Writes bytes to a stream. -/
def write (stream : Nat) (text : Bytes) : Run Unit := do
  let s ← get
  match s.streams.lookup stream with
  | some (.buffer n) => set { s with buffers := addTo n text s.buffers }
  | some (.file place) =>
    let before := (s.files.contentAt? place).getD ByteArray.empty
    set { s with files := s.files.put place (.file (before ++ pack text)) }
  | _ => pure ()

/-- Writes a line of text to standard error. -/
def complain (message : String) : Run Unit := write 2 (ofText message ++ ['\n'])

/-- Writes a message of a command of the shell to standard error. -/
def shellComplain (message : String) : Run Unit := do
  let s ← get
  complain (toText s.name ++ ": " ++ toString s.line ++ ": " ++ message)

/-- Sets the status. -/
def setStatus (n : Nat) : Run Unit := modify fun s => { s with status := n }

/-- Writes a message about the script itself to standard error. -/
def report (message : String) : Run Unit := do
  shellComplain ((← get).caption ++ message)

/-- Ends the script with a message about it. -/
def abandon {α : Type} (message : String) : Run α := do
  report message
  setStatus 2
  throw .exit

/-- Ends the script with a message of a command of the shell. -/
def refuse {α : Type} (message : String) : Run α := do
  shellComplain message
  setStatus 2
  throw .exit

/-- Sets a variable, unless it keeps its value. -/
def setVariable (name value : Bytes) : Run Unit := do
  let s ← get
  if s.frozen.contains name then abandon (toText name ++ ": is read only")
  else set { s with vars := (name, value) :: s.vars.filter fun v => v.1 != name }

/-- Runs something and what has to be done behind it, however it ends. -/
def followedBy (x restore : Run Unit) : Run Unit := do
  try x
  catch stop =>
    restore
    throw stop
  restore

/-- Runs something whose output to standard output is wanted, and returns that. -/
def capture (x : Run Unit) : Run Bytes := do
  let before ← get
  let n := (before.buffers.map Prod.fst).foldl max 2 + 1
  set { before with
    streams := (1, .buffer n) :: before.streams, buffers := (n, []) :: before.buffers }
  let drop : Run Unit := modify fun s =>
    { s with streams := before.streams, buffers := s.buffers.filter fun b => b.1 != n }
  try x
  catch stop =>
    drop
    throw stop
  let text := bufferText (← get) n
  drop
  return text

/-- Runs something in a shell of its own: its variables, folder and streams are forgotten
behind it, and ending it ends only itself. -/
def apart (x : Run Unit) : Run Unit := do
  let before ← get
  let stop ← try
      x
      pure (none : Option Stop)
    catch stop => pure (some stop)
  let s ← get
  set { before with
    files := { s.files with here := before.files.here }
    status := s.status, input := s.input, buffers := s.buffers }
  if stop = some .killed then throw .killed

end Run

/-- Why the system refuses something, in its words. -/
def reason : FileError → String
  | .notFound => "No such file or directory"
  | .alreadyExists => "File exists"
  | .notAFolder => "Not a directory"
  | .isAFolder => "Is a directory"
  | .folderNotEmpty => "Directory not empty"
  | .nameTooLong => "File name too long"
  | .invalidName => "Invalid argument"
  | .notText => "Input/output error"

end Script
end MailMerge
