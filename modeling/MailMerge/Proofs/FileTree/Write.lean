/-
# Writing and removing files

A write puts a regular file at the place of its path and leaves all other files as they
were, and the file can be read and removed right away.  The place of a path depends on
the folders on the way, which may have been made for the write itself: a path without
`..` that leads to a regular file in the grown tree led there before.
-/

import MailMerge.Proofs.FileTree.Grow

namespace MailMerge
namespace FileTree

variable {t t' : FileTree} {place q : Location} {item : FileItem}

/-! ### Walks without a step back -/

theorem prefix_of_walk {names : List String} {start : Location} (hup : ".." ∉ names)
    (h : t.walk start names = .ok place) : start <+: place := by
  induction names generalizing start with
  | nil => exact (Except.ok.inj h) ▸ List.prefix_rfl
  | cons name names ih =>
    rw [List.mem_cons, not_or] at hup
    rw [walk] at h
    split at h
    · next next hnext =>
      obtain ⟨-, ⟨-, rfl⟩ | ⟨rfl, -⟩ | ⟨-, rfl⟩⟩ := enter_eq_ok hnext
      · exact ih hup.2 h
      · exact absurd rfl hup.1
      · exact (List.prefix_append _ _).trans (ih hup.2 h)
    · cases h

/-- A walk without a step back that arrives at a regular file arrives there before folders are
made too: it goes through folders above that file only. -/
theorem walk_of_grows {names : List String} {start : Location} {content : ByteArray}
    (hg : t.Grows t') (hw : t.WellFormed) (hup : ".." ∉ names)
    (hfile : t.item? place = some (.file content)) (h : t'.walk start names = .ok place) :
    t.walk start names = .ok place := by
  induction names generalizing start with
  | nil => exact h
  | cons name names ih =>
    obtain ⟨rest, rfl⟩ := prefix_of_walk hup h
    rw [List.mem_cons, not_or] at hup
    rw [walk] at h
    split at h
    · next next hnext =>
      have hfolder' := (enter_eq_ok hnext).1
      have hrest : rest ≠ [] := by
        rintro rfl
        rw [List.append_nil] at hfile
        rw [hg.item_eq hfile] at hfolder'
        cases hfolder'
      have hfolder := hw.folder_of_append (q := start) (by simp [hfile]) hrest
      rw [walk, enter_congr hfolder' hfolder, hnext]
      exact ih hup.2 h
    · cases h

/-! ### Writing and removing -/

/-- From one tree to a later one: at a place stands a regular file of a given content, new or in
place of one before, and all other regular files are as they were. -/
structure Writes (t : FileTree) (path : String) (place : Location) (content : ByteArray)
    (t' : FileTree) : Prop where
  located : t'.locate path = .ok place
  item : t'.item? place = some (.file content)
  elsewhere : ∀ q, q ≠ place → t'.contentAt? q = t.contentAt? q
  wellFormed : t.WellFormed → t'.WellFormed

theorem writes_of_write {path : String} {content : ByteArray}
    (h : t.write path content = .ok t') : ∃ place, t.locate path = .ok place ∧
      t.item? place ≠ some .folder ∧ t.Writes path place content t' := by
  unfold write at h
  split at h
  · cases h
  · next place hl =>
    split at h
    · cases h
    · next hplace =>
      obtain rfl := Except.ok.inj h
      have hne : place ≠ [] := by
        rintro rfl
        exact hplace rfl
      have hmono : ∀ q, t.item? q = some .folder →
          (t.put place (.file content)).item? q = some .folder := by
        intro q hq
        rw [item?_put t hne, if_neg, hq]
        rintro rfl
        exact hplace hq
      refine ⟨place, hl, hplace, locate_mono ?_ hmono hl, ?_, fun q hq => ?_, fun hw => ?_⟩
      · unfold put
        split <;> rfl
      · rw [item?_put t hne, if_pos rfl]
      · rw [contentAt?, item?_put t hne, if_neg hq, contentAt?]
      · exact hw.put (hw.above_of_locate hl) hplace _

namespace Writes

variable {path : String} {content : ByteArray}

theorem of_grows {t₀ : FileTree} (h : t.Writes path place content t') (hg : t₀.Grows t) :
    t₀.Writes path place content t' where
  located := h.located
  item := h.item
  elsewhere q hq := (h.elsewhere q hq).trans (hg.contentAt?_eq q)
  wellFormed := h.wellFormed ∘ hg.wellFormed

/-- The file can be read. -/
theorem read_eq (h : t.Writes path place content t') : t'.read path = .ok content := by
  rw [read, h.located]
  simp only [h.item]

/-- The file can be removed, which leaves the other files as they were. -/
theorem removeFile_eq (h : t.Writes path place content t') :
    t'.removeFile path = .ok (t'.clear place) := by
  rw [removeFile, h.located]
  simp only [h.item]

theorem ne_root (h : t.Writes path place content t') : place ≠ [] := by
  rintro rfl
  cases h.item

theorem locate_clear (h : t.Writes path place content t') :
    (t'.clear place).locate path = .ok place := by
  refine locate_mono (t := t') rfl (fun q hq => ?_) h.located
  rw [item?_clear _ h.ne_root, if_neg, hq]
  rintro rfl
  rw [h.item] at hq
  cases hq

theorem item?_clear_self (h : t.Writes path place content t') :
    (t'.clear place).item? place = none := by
  rw [item?_clear _ h.ne_root, if_pos rfl]

theorem contentAt?_clear (h : t.Writes path place content t') (hq : q ≠ place) :
    (t'.clear place).contentAt? q = t.contentAt? q := by
  rw [contentAt?, item?_clear _ h.ne_root, if_neg hq]
  exact h.elsewhere q hq

end Writes

end FileTree
end MailMerge
