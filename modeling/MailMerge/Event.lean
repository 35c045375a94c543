/-
# Events

What a batch reports while it runs.  An event has a level, the part of the program
that reports it, a message, and named details.  As a line of text it reads
`LEVEL target: message name=detail ...`.
-/

import MailMerge.Failure
import MailMerge.Text.Quoted

namespace MailMerge

/-- How much an event matters, the most important first. -/
inductive Level where
  | error | warn | info | debug
  deriving DecidableEq, Repr

namespace Level

/-- The level's name. -/
def name : Level → String
  | error => "ERROR"
  | warn => "WARN"
  | info => "INFO"
  | debug => "DEBUG"

/-- The level as a number that grows with the detail. -/
def rank : Level → Nat
  | error => 1
  | warn => 2
  | info => 3
  | debug => 4

end Level

/-- How many rows ended in which way. -/
structure Report where
  done : Nat := 0
  skipped : Nat := 0
  failed : Nat := 0
  deriving DecidableEq, Repr

/-- The number of rows. -/
def Report.total (r : Report) : Nat := r.done + r.skipped + r.failed

/-- What can be reported. -/
inductive Event where
  | unknownVariable (name : String)
  | unknownOption (key : String)
  | problem (p : Problem)
  | duplicateHeader (name : String)
  | sheetRead (path : String) (rows : Nat)
  | inputStarted (path : String) (rows : Nat)
  | rowSkipped (row : Nat) (input : String)
  | rowStarted (row : Nat) (input : String)
  | hookStarted (kind : HookKind) (command folder : String)
  | hookFailed (kind : HookKind) (command : String) (code : Option Nat)
  | outputWritten (path : String) (bytes : Nat)
  | outputDeleted (path : String)
  | rowFailed (row : Nat) (input : String) (cause : Failure)
  | finished (report : Report)
  | stopped (cause : Failure)

/-- A named detail of an event.  A detail that is recorded as a text is written in quotes. -/
structure Detail where
  name : String
  text : String
  isText : Bool := false

/-- How a detail is written in a line. -/
def Detail.line (d : Detail) : String :=
  d.name ++ "=" ++ (if d.isText then Text.quoted d.text else d.text)

namespace Event

/-- The level of an event. -/
def level : Event → Level
  | unknownVariable _ => .warn
  | unknownOption _ => .warn
  | problem _ => .error
  | duplicateHeader _ => .warn
  | sheetRead _ _ => .debug
  | inputStarted _ _ => .info
  | rowSkipped _ _ => .info
  | rowStarted _ _ => .info
  | hookStarted _ _ _ => .debug
  | hookFailed _ _ _ => .warn
  | outputWritten _ _ => .debug
  | outputDeleted _ => .debug
  | rowFailed _ _ _ => .error
  | finished _ => .info
  | stopped _ => .error

/-- The part of the program that reports an event. -/
def target : Event → String
  | unknownVariable _ => "rowjinja::config"
  | unknownOption _ => "rowjinja::config"
  | problem _ => "rowjinja::config"
  | duplicateHeader _ => "rowjinja::sheet"
  | sheetRead _ _ => "rowjinja::sheet"
  | inputStarted _ _ => "rowjinja::batch"
  | rowSkipped _ _ => "rowjinja::job"
  | rowStarted _ _ => "rowjinja::job"
  | hookStarted _ _ _ => "rowjinja::hook"
  | hookFailed _ _ _ => "rowjinja::hook"
  | outputWritten _ _ => "rowjinja::job"
  | outputDeleted _ => "rowjinja::job"
  | rowFailed _ _ _ => "rowjinja::batch"
  | finished _ => "rowjinja::batch"
  | stopped _ => "rowjinja"

/-- The message of an event. -/
def message : Event → String
  | unknownVariable _ => "ignoring unknown environment variable"
  | unknownOption _ => "unknown option in configuration file"
  | problem p => p.message
  | duplicateHeader _ => "duplicate column header, the rightmost column wins"
  | sheetRead _ _ => "read sheet"
  | inputStarted _ _ => "processing input file"
  | rowSkipped _ _ => "skipping dataset"
  | rowStarted _ _ => "processing dataset"
  | hookStarted _ _ _ => "running hook"
  | hookFailed _ _ _ => "hook exited with non-zero status"
  | outputWritten _ _ => "wrote output"
  | outputDeleted _ => "deleted output"
  | rowFailed _ _ cause => cause.message
  | finished _ => "batch finished"
  | stopped cause => cause.message

/-- An exit code as a detail, where there may be none. -/
def codeText : Option Nat → String
  | some code => "Some(" ++ toString code ++ ")"
  | none => "None"

/-- The details of an event. -/
def details : Event → List Detail
  | unknownVariable name => [⟨"variable", name, false⟩]
  | unknownOption key => [⟨"option", key, false⟩]
  | problem _ => []
  | duplicateHeader name => [⟨"header", name, false⟩]
  | sheetRead path rows => [⟨"path", path, false⟩, ⟨"rows", toString rows, false⟩]
  | inputStarted path rows => [⟨"input", path, false⟩, ⟨"rows", toString rows, false⟩]
  | rowSkipped row input => [⟨"row", toString row, false⟩, ⟨"input", input, false⟩]
  | rowStarted row input => [⟨"row", toString row, false⟩, ⟨"input", input, false⟩]
  | hookStarted kind command folder =>
    [⟨"hook", kind.name, false⟩, ⟨"command", command, true⟩, ⟨"cwd", folder, false⟩]
  | hookFailed kind command code =>
    [⟨"hook", kind.name, false⟩, ⟨"command", command, true⟩, ⟨"exit_code", codeText code, false⟩]
  | outputWritten path bytes => [⟨"output", path, false⟩, ⟨"bytes", toString bytes, false⟩]
  | outputDeleted path => [⟨"output", path, false⟩]
  | rowFailed row input _ => [⟨"row", toString row, false⟩, ⟨"input", input, false⟩]
  | finished r =>
    [⟨"done", toString r.done, false⟩, ⟨"skipped", toString r.skipped, false⟩,
      ⟨"failed", toString r.failed, false⟩, ⟨"total", toString r.total, false⟩]
  | stopped _ => []

/-- A character of a message in a line: what could steer a terminal is written by its number. -/
def messageChar (c : Char) : List Char :=
  let n := c.toNat
  if n = 0x1b || n = 0x7f then "\\x".toList ++ Nat.toDigits 16 n
  else if n = 0x07 || n = 0x08 || n = 0x0c then "\\x0".toList ++ Nat.toDigits 16 n
  else if 0x80 ≤ n && n ≤ 0x9f then "\\u\x7b".toList ++ Nat.toDigits 16 n ++ ['\x7d']
  else [c]

/-- The event as a line of text. -/
def line (e : Event) : String :=
  let message := String.ofList (e.message.toList.flatMap messageChar)
  joinStrings " " ((e.level.name ++ " " ++ e.target ++ ": " ++ message) ::
    e.details.map Detail.line)

end Event

/-- The files and the events so far of a running batch. -/
structure World where
  files : FileTree
  events : List Event := []

/-- What changes files, reports events and may fail.  Neither changes nor events are taken
back after a failure. -/
abbrev Action (α : Type) := ExceptT Failure (StateM World) α

namespace Action

/-- Reports an event. -/
def report (e : Event) : Action Unit := modify fun w => { w with events := w.events ++ [e] }

/-- Reports events in turn. -/
def reportAll (es : List Event) : Action Unit :=
  modify fun w => { w with events := w.events ++ es }

/-- The files as they are now. -/
def files : Action FileTree := return (← get).files

/-- Puts changed files in place of the files. -/
def setFiles (t : FileTree) : Action Unit := modify fun w => { w with files := t }

/-- The value of a result, or its failure. -/
def ofExcept {ε α : Type} (wrap : ε → Failure) : Except ε α → Action α
  | .ok x => pure x
  | .error e => throw (wrap e)

/-- Runs an action on files: its result, and the files and events behind it. -/
def runOn {α : Type} (x : Action α) (w : World) : Except Failure α × World := x w

end Action

end MailMerge
