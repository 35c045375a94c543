/-
# Output files

An output file is written whole, in folders that are made where they are missing.
A file that is there already is replaced only on demand.
-/

import MailMerge.Event

namespace MailMerge
namespace OutputFile

/-- What forbids to write to a path: a folder always, a file unless it may be replaced. -/
def fault? (t : FileTree) (path : String) (force : Bool) : Option OutputFault :=
  match t.find? path with
  | none => none
  | some .folder => some .notAFile
  | some (.file _) => if force then none else some .exists

/-- Makes the folder that a path lies in. -/
def makeRoom (path : String) : Action Unit := do
  match (Path.parent? path).filter fun above => !above.isEmpty with
  | none => pure ()
  | some above =>
    let (t, made) := (← Action.files).ensureFolder above
    Action.setFiles t
    Action.ofExcept (fun e => .output path (.unwritable e)) made

/-- Writes a text to a path. -/
def write (path content : String) (force : Bool) : Action Unit := do
  match fault? (← Action.files) path force with
  | some fault => throw (.output path fault)
  | none =>
    makeRoom path
    let t ← Action.ofExcept (fun e => .output path (.unwritable e))
      ((← Action.files).write path content.toUTF8)
    Action.setFiles t
    Action.report (.outputWritten path content.utf8ByteSize)

/-- Deletes the file at a path. -/
def delete (path : String) : Action Unit := do
  let t ← Action.ofExcept (fun e => .output path (.undeletable e))
    ((← Action.files).removeFile path)
  Action.setFiles t
  Action.report (.outputDeleted path)

end OutputFile
end MailMerge
