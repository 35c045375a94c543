/-
# What writing an output file does

A write that fails may have made folders and has changed nothing else.  A write that
succeeds leaves the text at the place of its path, where it can be deleted again.
-/

import MailMerge.OutputFile
import MailMerge.Proofs.Action
import MailMerge.Proofs.FileTree.Write

namespace MailMerge
namespace OutputFile

variable {path text : String} {force : Bool} {w w' : World} {place : Location}

/-- The folder that has to be there for a file, if its path names one. -/
def room? (path : String) : Option String := (Path.parent? path).filter fun above => !above.isEmpty

/-- The files after the folder for a file is made, and whether that succeeded. -/
def withRoom (path : String) (t : FileTree) : FileTree × Except FileError Unit :=
  match room? path with
  | none => (t, .ok ())
  | some above => t.ensureFolder above

theorem grows_withRoom (path : String) (t : FileTree) : t.Grows (withRoom path t).1 := by
  unfold withRoom
  split
  · exact .refl t
  · exact FileTree.grows_makeFolders t _ _

theorem makeRoom_apply (path : String) (w : World) :
    makeRoom path w = ((withRoom path w.files).2.mapError fun e => .output path (.unwritable e),
      { w with files := (withRoom path w.files).1 }) := by
  unfold makeRoom withRoom room?
  cases (Path.parent? path).filter fun above => !above.isEmpty with
  | none => rfl
  | some above => exact Action.ofExcept_apply _ _

/-- A write in three steps: the check, the folders, the file. -/
theorem write_apply (path text : String) (force : Bool) (w : World) :
    write path text force w =
      match fault? w.files path force with
      | some fault => (.error (.output path fault), w)
      | none =>
        let t := (withRoom path w.files).1
        match (withRoom path w.files).2, t.write path text.toUTF8 with
        | .error e, _ => (.error (.output path (.unwritable e)), { w with files := t })
        | .ok (), .error e => (.error (.output path (.unwritable e)), { w with files := t })
        | .ok (), .ok t => (.ok (), ⟨t, w.events ++ [.outputWritten path text.utf8ByteSize]⟩) := by
  unfold write
  rw [Action.files_bind]
  cases fault? w.files path force with
  | some fault => rfl
  | none =>
    dsimp only
    rw [Action.bind_apply, makeRoom_apply]
    rcases (withRoom path w.files).2 with e | u
    · rfl
    · cases u
      change (Action.ofExcept _ _ >>= _ : Action Unit) _ = _
      rw [Action.bind_apply, Action.ofExcept_apply]
      dsimp only
      cases (withRoom path w.files).1.write path text.toUTF8 <;> rfl

/-- **A write that fails has made folders at most.** -/
theorem write_error {f : Failure} (h : write path text force w = (.error f, w')) :
    (∃ fault, f = .output path fault ∧ ∀ e, fault ≠ .undeletable e) ∧
      w.files.Grows w'.files := by
  have hgrows := grows_withRoom path w.files
  rw [write_apply] at h
  split at h
  · next fault hfault =>
    obtain ⟨hf, rfl⟩ := Prod.mk.inj h
    refine ⟨⟨fault, (Except.error.inj hf).symm, ?_⟩, .refl _⟩
    rintro e rfl
    unfold fault? at hfault
    split at hfault
    · cases hfault
    · cases hfault
    · split_ifs at hfault
      cases hfault
  · dsimp only at h
    split at h
    · obtain ⟨hf, rfl⟩ := Prod.mk.inj h
      exact ⟨⟨_, (Except.error.inj hf).symm, fun _ he => by cases he⟩, hgrows⟩
    · obtain ⟨hf, rfl⟩ := Prod.mk.inj h
      exact ⟨⟨_, (Except.error.inj hf).symm, fun _ he => by cases he⟩, hgrows⟩
    · cases h

/-- **A write that succeeds leaves its text and changes no other file.** -/
theorem write_ok (h : write path text force w = (.ok (), w')) :
    ∃ t place, fault? w.files path force = none ∧ w.files.Grows t ∧
      t.locate path = .ok place ∧ t.item? place ≠ some .folder ∧
      w.files.Writes path place text.toUTF8 w'.files := by
  have hgrows := grows_withRoom path w.files
  rw [write_apply] at h
  split at h
  · cases h
  · next hfault =>
    dsimp only at h
    split at h
    · cases h
    · cases h
    · next hwritten =>
      obtain ⟨-, rfl⟩ := Prod.mk.inj h
      obtain ⟨place, hl, hplace, hwrites⟩ := FileTree.writes_of_write hwritten
      exact ⟨_, place, hfault, hgrows, hl, hplace, hwrites.of_grows hgrows⟩

/-- What has been written can be deleted. -/
theorem delete_of_writes {t : FileTree} {content : ByteArray}
    (h : t.Writes path place content w.files) :
    delete path w = (.ok (), ⟨w.files.clear place, w.events ++ [.outputDeleted path]⟩) := by
  unfold delete
  rw [Action.files_bind, Action.bind_apply, Action.ofExcept_apply, h.removeFile_eq]
  rfl

theorem delete_error {f : Failure} (h : delete path w = (.error f, w')) :
    ∃ e, f = .output path (.undeletable e) := by
  unfold delete at h
  rw [Action.files_bind, Action.bind_apply, Action.ofExcept_apply] at h
  cases hremoved : w.files.removeFile path with
  | error e =>
    rw [hremoved] at h
    exact ⟨e, (Except.error.inj (Prod.mk.inj h).1).symm⟩
  | ok t =>
    rw [hremoved] at h
    cases h

end OutputFile
end MailMerge
