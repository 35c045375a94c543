/-
# Changes beside a path

Places are apart if neither lies in the other.  When a tree changes at some places and at
the folders on the way to them (`FileTree.Beside`), a path to a place apart from them leads
to what it led to before, and a file written there is written as before.
-/

import MailMerge.Proofs.FileTree.Folders
import MailMerge.Proofs.OutputFile

namespace MailMerge
namespace FileTree

variable {t t' t'' : FileTree} {place q start : Location} {places places' : List Location}
  {path : String} {names : List String}

/-! ### Places apart -/

/-- Neither of two places is the other or lies in it. -/
def Apart (p q : Location) : Prop := ¬p <+: q ∧ ¬q <+: p

instance (p q : Location) : Decidable (Apart p q) := inferInstanceAs (Decidable (_ ∧ _))

theorem Apart.ne {p q : Location} (h : Apart p q) : p ≠ q := fun he => h.1 (he ▸ List.prefix_rfl)

/-! ### Walks in two trees -/

theorem enter_of_item? {name : String} (h : t'.item? place = t.item? place) :
    t'.enter place name = t.enter place name := by
  rw [enter, enter, h]

/-- A walk goes through places on the way to where it arrives. -/
theorem walk_of_isPrefix (hup : ".." ∉ names)
    (hmono : ∀ q, q <+: place → t.item? q = some .folder → t'.item? q = some .folder)
    (h : t.walk start names = .ok place) : t'.walk start names = .ok place := by
  induction names generalizing start with
  | nil => exact h
  | cons name names ih =>
    have hfolder := folder_of_walk h
    have hstart := prefix_of_walk hup h
    rw [walk] at h ⊢
    rw [enter_congr hfolder (hmono start hstart hfolder)]
    split at h
    · exact ih (fun hmem => hup (List.mem_cons_of_mem _ hmem)) h
    · cases h

/-- A walk is decided by what stands on the way. -/
theorem walk_congr (hup : ".." ∉ names)
    (h : ∀ q, start <+: q → q <+: start ++ names.filter (· ≠ ".") → t'.item? q = t.item? q) :
    t'.walk start names = t.walk start names := by
  induction names generalizing start with
  | nil => rfl
  | cons name names ih =>
    have hrest := fun hmem => hup (List.mem_cons_of_mem _ hmem)
    have hitem := h start List.prefix_rfl (List.prefix_append _ _)
    by_cases hfolder : t.item? start = some .folder
    · by_cases hdot : name = "."
      · subst hdot
        rw [walk_dot hfolder, walk_dot (hitem.trans hfolder)]
        exact ih hrest fun q hq hq' => h q hq (by rwa [filter_cons_dot])
      · have hplain := plain_of_mem hup List.mem_cons_self hdot
        rw [walk_plain hfolder hplain, walk_plain (hitem.trans hfolder) hplain, ih hrest]
        intro q hq hq'
        refine h q ((List.prefix_append _ _).trans hq) ?_
        rwa [filter_cons_plain hdot, List.append_cons]
    · rw [walk, walk, enter_of_item? hitem]
      cases hnext : t.enter start name with
      | error e => rfl
      | ok next => exact absurd (enter_eq_ok hnext).1 hfolder

theorem locate_congr (hup : ".." ∉ namesOf path.toList) (hhere : t'.here = t.here)
    (h : ∀ q, t.startOf path <+: q → q <+: t.placeOf path → t'.item? q = t.item? q) :
    t'.locate path = t.locate path := by
  rw [locate, locate, hhere]
  have hwalk : t'.walk (t.startOf path) (namesOf path.toList) =
      t.walk (t.startOf path) (namesOf path.toList) :=
    walk_congr hup fun q hq hq' => h q hq (by rwa [filter_namesOf] at hq')
  rw [startOf] at hwalk
  rw [hwalk]

theorem item?_of_find? {item : FileItem} (h : t.find? path = some item) :
    ∃ place, t.locate path = .ok place ∧ t.item? place = some item := by
  unfold find? at h
  split at h
  · next place hl => exact ⟨place, hl, h⟩
  · cases h

theorem find?_of_locate (h : t.locate path = .ok place) : t.find? path = t.item? place := by
  rw [find?, h]

/-- What a path without `..` leads to is there in a second tree too, if it stands there. -/
theorem find?_of_item? (hw' : t'.WellFormed) (hup : ".." ∉ namesOf path.toList)
    (hhere : t'.here = t.here) (hitem : t'.item? (t.placeOf path) = t.item? (t.placeOf path))
    {item : FileItem} (h : t.find? path = some item) : t'.find? path = some item := by
  obtain ⟨place, hl, hplace⟩ := item?_of_find? h
  obtain rfl := eq_placeOf hup hl
  have hl' : t'.locate path = .ok (t.placeOf path) := by
    have hwalk : t'.walk _ _ = .ok (t.placeOf path) :=
      walk_of_isPrefix hup (fun q hq hfolder => ?_) (locate_eq_ok hl)
    · unfold locate at hl ⊢
      dsimp only at hl ⊢
      rw [hhere, hwalk]
      split_ifs at hl ⊢ <;> rfl
    · obtain ⟨rest, hrest⟩ := hq
      by_cases hnil : rest = []
      · rw [hnil, List.append_nil] at hrest
        rw [hrest, hitem, ← hrest, hfolder]
      · refine hw'.folder_of_append ?_ hnil
        rw [hrest, hitem, hplace]
        simp
  rw [find?_of_locate hl', hitem, hplace]

/-- What a path without `..` leads to depends on what stands at its place alone. -/
theorem find?_congr (hw : t.WellFormed) (hw' : t'.WellFormed) (hup : ".." ∉ namesOf path.toList)
    (hhere : t'.here = t.here) (hitem : t'.item? (t.placeOf path) = t.item? (t.placeOf path)) :
    t'.find? path = t.find? path := by
  refine Option.ext fun item => ⟨fun h => ?_, fun h => ?_⟩
  · exact find?_of_item? hw hup hhere.symm (placeOf_congr hhere path ▸ hitem.symm) h
  · exact find?_of_item? hw' hup hhere hitem h

/-! ### Changes at some places -/

/-- From one tree to another: what stands at some places may have changed, folders may have been
made on the way to them, and all else is as it was. -/
structure Beside (places : List Location) (t t' : FileTree) : Prop where
  here : t'.here = t.here
  wellFormed : t'.WellFormed
  folder : ∀ q, t.item? q = some .folder → t'.item? q = some .folder
  item : ∀ q ∉ places, t'.item? q = t.item? q ∨
    t.item? q = none ∧ t'.item? q = some .folder ∧ ∃ p ∈ places, q <+: p

/-- A path leads to a folder, or to a place apart from others. -/
def Avoids (t : FileTree) (path : String) (places : List Location) : Prop :=
  t.hasFolder path ∨
    (∃ place ∈ (t.locate path).toOption, ∀ p ∈ places, Apart p place) ∨
    ".." ∉ namesOf path.toList ∧ ∀ p ∈ places, Apart p (t.placeOf path)

instance (t : FileTree) (path : String) (places : List Location) :
    Decidable (t.Avoids path places) := inferInstanceAs (Decidable (_ ∨ _ ∨ _))

theorem eq_ok_of_mem_toOption {ε α : Type} {r : Except ε α} {a : α} (h : a ∈ r.toOption) :
    r = .ok a := by
  cases r with
  | error e => cases h
  | ok b => rw [Option.some.inj h]

theorem Avoids.mono (h : t.Avoids path places) (hsub : places' ⊆ places) :
    t.Avoids path places' := by
  obtain h | ⟨place, hl, h⟩ | ⟨hup, h⟩ := h
  · exact .inl h
  · exact .inr (.inl ⟨place, hl, fun p hp => h p (hsub hp)⟩)
  · exact .inr (.inr ⟨hup, fun p hp => h p (hsub hp)⟩)

namespace Beside

theorem refl (hw : t.WellFormed) (places : List Location) : Beside places t t :=
  ⟨rfl, hw, fun _ h => h, fun _ _ => .inl rfl⟩

theorem trans (h : Beside places t t') (h' : Beside places' t' t'') :
    Beside (places ++ places') t t'' where
  here := h'.here.trans h.here
  wellFormed := h'.wellFormed
  folder q hq := h'.folder q (h.folder q hq)
  item q hq := by
    rw [List.mem_append, not_or] at hq
    rcases h'.item q hq.2 with he' | ⟨hn', hf', p, hp, hqp⟩
    · rw [he']
      rcases h.item q hq.1 with he | ⟨hn, hf, p, hp, hqp⟩
      · exact .inl he
      · exact .inr ⟨hn, hf, p, List.mem_append_left _ hp, hqp⟩
    · rcases h.item q hq.1 with he | ⟨-, hf, -⟩
      · exact .inr ⟨he ▸ hn', hf', p, List.mem_append_right _ hp, hqp⟩
      · cases hf.symm.trans hn'

theorem mono (h : Beside places t t') (hsub : places ⊆ places') : Beside places' t t' where
  here := h.here
  wellFormed := h.wellFormed
  folder := h.folder
  item q hq := (h.item q fun hmem => hq (hsub hmem)).imp_right fun ⟨hn, hf, p, hp, hqp⟩ =>
    ⟨hn, hf, p, hsub hp, hqp⟩

theorem of_growsTo (hw : t.WellFormed) (h : GrowsTo place t t') (hplace : place <+: q) :
    Beside [q] t t' where
  here := h.here
  wellFormed := h.wellFormed hw
  folder _ hp := h.toGrows.item_eq hp
  item p _ := (h.item p).imp_right fun ⟨hn, hf⟩ =>
    ⟨hn, hf, q, List.mem_singleton_self q, (h.along p hn hf).trans hplace⟩

/-- A regular file is written or removed at its place alone. -/
theorem of_file (hhere : t'.here = t.here) (hw' : t'.WellFormed)
    (hplace : t.item? place ≠ some .folder) (h : ∀ q, q ≠ place → t'.item? q = t.item? q) :
    Beside [place] t t' where
  here := hhere
  wellFormed := hw'
  folder q hq := (h q fun he => hplace (he ▸ hq)).trans hq
  item q hq := .inl (h q fun he => hq (List.mem_singleton.2 he))

theorem of_write {content : ByteArray} (hw : t.WellFormed) (hup : ".." ∉ namesOf path.toList)
    (h : t.write path content = .ok t') : Beside [t.placeOf path] t t' := by
  obtain ⟨place, hl, hplace, hwrites⟩ := writes_of_write h
  obtain rfl := eq_placeOf hup hl
  have hput : t' = t.put (t.placeOf path) (.file content) := by
    rw [write, hl] at h
    dsimp only at h
    split at h
    · cases h
    · exact (Except.ok.inj h).symm
  refine .of_file ?_ (hwrites.wellFormed hw) hplace fun q hq => ?_
  · rw [hput, put]
    split <;> rfl
  · rw [hput, item?_put t hwrites.ne_root, if_neg hq]

theorem of_clear {content : ByteArray} (hw : t.WellFormed)
    (hfile : t.item? place = some (.file content)) : Beside [place] t (t.clear place) := by
  refine .of_file rfl (hw.clear hfile) (by simp [hfile]) fun q hq => ?_
  rw [item?_clear, if_neg hq]
  rintro rfl
  cases hfile

variable (h : Beside places t t')
include h

theorem startOf_eq (path : String) : t'.startOf path = t.startOf path :=
  startOf_congr h.here path

theorem placeOf_eq (path : String) : t'.placeOf path = t.placeOf path :=
  placeOf_congr h.here path

/-- No regular file elsewhere is new or different. -/
theorem contentAt?_eq (hq : q ∉ places) : t'.contentAt? q = t.contentAt? q := by
  unfold contentAt?
  rcases h.item q hq with he | ⟨hn, hf, -⟩
  · rw [he]
  · rw [hn, hf]

theorem item?_eq (hq : ∀ p ∈ places, Apart p q) : t'.item? q = t.item? q := by
  rcases h.item q fun hmem => (hq q hmem).ne rfl with he | ⟨-, -, p, hp, hqp⟩
  · exact he
  · exact absurd hqp (hq p hp).2

/-- **A path that avoids the changes leads to what it led to.** -/
theorem find?_eq (hw : t.WellFormed) (hpath : t.Avoids path places) :
    t'.find? path = t.find? path := by
  obtain hfolder | ⟨place, hl, hapart⟩ | ⟨hup, hapart⟩ := hpath
  · unfold hasFolder at hfolder
    split at hfolder
    · next hfind =>
      obtain ⟨place, hl, hitem⟩ := item?_of_find? hfind
      rw [hfind, find?_of_locate (locate_mono h.here h.folder hl), h.folder place hitem]
    · cases hfolder
  · replace hl := eq_ok_of_mem_toOption hl
    rw [find?_of_locate hl, find?_of_locate (locate_mono h.here h.folder hl), h.item?_eq hapart]
  · exact find?_congr hw h.wellFormed hup h.here (h.item?_eq hapart)

end Beside

end FileTree
end MailMerge
