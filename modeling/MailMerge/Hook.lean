/-
# Hooks

A hook is a command that runs before or after a row is rendered.  What runs it is a
shell: it starts in a folder of the files, may change any of them, and ends with an
exit code or by a signal.  Everything else about shells is left open here.
-/

import MailMerge.Event

namespace MailMerge

/-- How a command ended: its exit code, or none if a signal ended it, what it wrote to standard
error, and the files behind it. -/
structure Completion where
  code : Option Nat
  errors : String
  files : FileTree

/-- Whether a command succeeded. -/
def Completion.succeeded (c : Completion) : Bool := c.code == some 0

/-- What runs commands: from a command and the files it starts with, to how it ends. -/
abbrev Shell := String → FileTree → Completion

namespace Hook

/-- A text without the blanks at its end. -/
def trimEnd (s : String) : String := String.ofList (Text.trimEnd s.toList)

/-- What a command that did not succeed is reported as. -/
def faultOf (c : Completion) : HookFault :=
  match c.code with
  | some code => .exited code (trimEnd c.errors)
  | none => .killed (trimEnd c.errors)

/-- Why a command cannot start in a folder, or the place it starts at. -/
def startPlace (t : FileTree) (command folder : String) : Except String Location :=
  if command.toList.contains (Char.ofNat 0) then .error "nul byte found in provided data"
  else
    match t.folder folder with
    | .ok place => .ok place
    | .error e => .error e.message

/-- Runs the command of a hook in a folder.  `output` is the file of the row it runs for. -/
def run (shell : Shell) (kind : HookKind) (command folder output : String) : Action Unit := do
  Action.report (.hookStarted kind command folder)
  let t ← Action.files
  let place ← Action.ofExcept (fun reason => .hook kind output (.notStarted command reason))
    (startPlace t command folder)
  let c := shell command { t with here := place }
  Action.setFiles { c.files with here := t.here }
  if !c.succeeded then
    Action.report (.hookFailed kind command c.code)
    throw (.hook kind output (faultOf c))

end Hook

end MailMerge
