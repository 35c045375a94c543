/-
# The guard against overwriting

A write without force looks first whether its path leads to something, and then makes the
missing folders on the path before it writes.  Both steps read the same text in different
trees.  They agree on it if the path is charted (`FileTree.Charted`): as far as it steps back
with `..`, it can be walked already.  Then the write finds its place empty and leaves every
regular file as it was (`OutputFile.guards_write`).

A path that steps back out of a folder which is only made for it slips through the guard:
before, it leads nowhere; afterwards, it may lead to a file (`OutputFile.write_new_back`).
-/

import MailMerge.Proofs.FileTree.Place
import MailMerge.Proofs.OutputFile

namespace MailMerge

namespace FileTree

variable {t t' : FileTree} {place q : Location} {path : String}

theorem walk_append (t : FileTree) (start : Location) (names names' : List String) :
    t.walk start (names ++ names') = (t.walk start names).bind fun mid => t.walk mid names' := by
  induction names generalizing start with
  | nil => rfl
  | cons name names ih =>
    rw [List.cons_append, walk, walk]
    split
    · exact ih _
    · rfl

/-- A path steps back only where it can be walked already: some of its names lead to a place,
and none of the names behind them is `..`. -/
def Charted (t : FileTree) (path : String) : Prop :=
  ∃ k ≤ (namesOf path.toList).length,
    (t.walk (t.startOf path) ((namesOf path.toList).take k)).toBool = true ∧
      ".." ∉ (namesOf path.toList).drop k

instance (t : FileTree) (path : String) : Decidable (t.Charted path) :=
  inferInstanceAs (Decidable (∃ k ≤ _, _ ∧ _))

/-- A path without a step back is charted. -/
theorem charted_of_notMem (hup : ".." ∉ namesOf path.toList) : t.Charted path :=
  ⟨0, Nat.zero_le _, rfl, hup⟩

/-- A path that leads somewhere in one tree is walked in any tree. -/
theorem locate_of_walk (h : t'.locate path = .ok q)
    (hwalk : t.walk (t.startOf path) (namesOf path.toList) = .ok place) :
    t.locate path = .ok place := by
  unfold locate at h ⊢
  dsimp only at h ⊢
  split_ifs at h ⊢ with hempty hnul habsolute
  all_goals simpa [startOf, habsolute] using hwalk

/-- **A charted path leads to a regular file only if it did so before folders were made.** -/
theorem Charted.locate_of_grows {content : ByteArray} (h : t.Charted path) (hg : t.Grows t')
    (hw : t.WellFormed) (hfile : t.item? place = some (.file content))
    (hl : t'.locate path = .ok place) : t.locate path = .ok place := by
  obtain ⟨k, -, hwalk, hup⟩ := h
  obtain ⟨mid, hmid⟩ : ∃ mid, t.walk (t.startOf path) ((namesOf path.toList).take k) = .ok mid := by
    rcases hrun : t.walk (t.startOf path) ((namesOf path.toList).take k) with e | mid
    · rw [hrun] at hwalk
      cases hwalk
    · exact ⟨mid, rfl⟩
  -- both trees agree on the names that can be walked already, and behind these is no step back
  have hbehind : t'.walk mid ((namesOf path.toList).drop k) = .ok place := by
    have hall := locate_eq_ok hl
    rw [← startOf, startOf_congr hg.here, ← List.take_append_drop k (namesOf path.toList),
      walk_append, walk_mono (fun q hq => hg.item_eq hq) hmid] at hall
    exact hall
  refine locate_of_walk hl ?_
  rw [← List.take_append_drop k (namesOf path.toList), walk_append, hmid]
  exact walk_of_grows hg hw hup hfile hbehind

end FileTree

namespace OutputFile

variable {path text : String} {w w' : World}

/-- **Without force a write along a charted path finds its place empty.** -/
theorem item?_of_write_charted (hw : w.files.WellFormed) (hpath : w.files.Charted path)
    (h : write path text false w = (.ok (), w')) :
    ∃ place, w.files.item? place = none ∧ w.files.Writes path place text.toUTF8 w'.files := by
  obtain ⟨t, place, hfault, hgrows, hl, hplace, hwrites⟩ := write_ok h
  refine ⟨place, ?_, hwrites⟩
  have hfind : w.files.find? path = none := by
    unfold fault? at hfault
    split at hfault
    · assumption
    · cases hfault
    · cases hfault
  rcases hitem : w.files.item? place with _ | ⟨content⟩ | _
  · rfl
  · rw [FileTree.find?, hpath.locate_of_grows hgrows hw hitem hl] at hfind
    exact absurd (hitem.symm.trans hfind) (by simp)
  · exact absurd (hgrows.item_eq hitem) hplace

/-- What a write that must not replace anything does to the regular files. -/
structure Guards (path text : String) (w : World) : Prop where
  /-- If it fails, it changes none of them. -/
  failed : ∀ f, (write path text false w).1 = .error f →
    ∀ q, (write path text false w).2.files.contentAt? q = w.files.contentAt? q
  /-- If it succeeds, the path leads to one that holds the text, and all others are as before. -/
  written : (write path text false w).1 = .ok () →
    ∃ place, (write path text false w).2.files.locate path = .ok place ∧
      (write path text false w).2.files.contentAt? place = some text.toUTF8 ∧
      ∀ q, q ≠ place → (write path text false w).2.files.contentAt? q = w.files.contentAt? q
  /-- Along a charted path it changes none that was there, and writes where nothing stood. -/
  guarded : w.files.Charted path →
    (∀ q content, w.files.contentAt? q = some content →
      (write path text false w).2.files.contentAt? q = some content) ∧
    ((write path text false w).1 = .ok () →
      ∃ place, (write path text false w).2.files.locate path = .ok place ∧
        w.files.item? place = none ∧
        (write path text false w).2.files.contentAt? place = some text.toUTF8)

theorem contentAt?_of_writes {t : FileTree} {place : Location} {content : ByteArray}
    (h : t.Writes path place content w.files) : w.files.contentAt? place = some content := by
  rw [FileTree.contentAt?, h.item]

/-- **The guard holds along every charted path,** and a write that fails changes no file along any
path. -/
theorem guards_write (path text : String) (w : World) (hw : w.files.WellFormed) :
    Guards path text w := by
  rcases hrun : write path text false w with ⟨f | ⟨⟨⟩⟩, w'⟩
  · have hgrows := (write_error hrun).2
    constructor <;> rw [hrun]
    · exact fun _ _ => hgrows.contentAt?_eq
    · exact fun h => by cases h
    · exact fun _ => ⟨fun q content hq => (hgrows.contentAt?_eq q).trans hq, fun h => by cases h⟩
  · constructor <;> rw [hrun]
    · exact fun _ h => by cases h
    · obtain ⟨-, place, -, -, -, -, hwrites⟩ := write_ok hrun
      exact fun _ => ⟨place, hwrites.located, contentAt?_of_writes hwrites, hwrites.elsewhere⟩
    · intro hpath
      obtain ⟨place, hempty, hwrites⟩ := item?_of_write_charted hw hpath hrun
      refine ⟨fun q content hq => ?_, fun _ =>
        ⟨place, hwrites.located, hempty, contentAt?_of_writes hwrites⟩⟩
      have hne : q ≠ place := by
        rintro rfl
        rw [FileTree.contentAt?, hempty] at hq
        cases hq
      exact (hwrites.elsewhere q hne).trans hq

/-- Back out of a folder that is there, and then into one that is not. -/
theorem guards_write_across :
    let w : World := { files := { here := ["home"], items := [(["home"], .folder),
      (["home", "a.txt"], .file "old".toUTF8)] } }
    w.files.WellFormed ∧ w.files.Charted "..//home/./new/a.txt" ∧
      (write "..//home/./new/a.txt" "text" false w).1 = .ok () ∧
      Guards "..//home/./new/a.txt" "text" w := by
  intro w
  have hw : w.files.WellFormed := by
    refine .of_items rfl fun p hp => ?_
    simp only [w, List.mem_cons, List.not_mem_nil, or_false] at hp
    rcases hp with rfl | rfl <;> rfl
  exact ⟨hw, by decide +kernel, by decide +kernel, guards_write _ _ w hw⟩

/-- Back out of a folder that is made for the write: the file behind it is replaced. -/
theorem write_new_back :
    let w : World := { files := { items := [(["a.txt"], .file "old".toUTF8)] } }
    let behind := write "new/../a.txt" "text" false w
    behind.1 = .ok () ∧ w.files.contentAt? ["a.txt"] = some "old".toUTF8 ∧
      behind.2.files.contentAt? ["a.txt"] = some "text".toUTF8 := by
  decide +kernel

end OutputFile
end MailMerge
