/-
# How file trees grow

A path is walked through folders only, so it still leads to the same place when more
folders stand in the tree.  A tree is well-formed if everything in it stands in a
folder.  Making the missing folders on a path, even in vain, makes a tree grow
(`FileTree.Grows`): folders come up where nothing stood, and all else is as it was.
-/

import MailMerge.FileTree
import Mathlib.Data.List.Basic
import Mathlib.Data.List.Induction

namespace MailMerge
namespace FileTree

variable {t t' : FileTree} {place q : Location} {item : FileItem}

@[simp] theorem item?_root (t : FileTree) : t.item? [] = some .folder := rfl

theorem item?_of_ne_root (t : FileTree) (h : q ≠ []) : t.item? q = t.items.lookup q := by
  rw [item?, if_neg (by simpa using h)]

/-- Looking up in a list of pairs in which the pairs of one key were replaced. -/
theorem lookup_replaced (items : List (Location × FileItem)) (place : Location) (item : FileItem)
    (q : Location) :
    (items.map fun p => if p.1 = place then (place, item) else p).lookup q =
      if q = place then (items.lookup place).map fun _ => item else items.lookup q := by
  induction items with
  | nil => simp
  | cons p items ih =>
    obtain ⟨k, x⟩ := p
    by_cases hk : k = place
    · subst hk
      by_cases hq : q = k
      · subst hq
        simp
      · simpa [List.lookup_cons, hq, beq_false_of_ne hq] using ih
    · by_cases hq : q = place
      · subst hq
        simpa [List.lookup_cons, hk, beq_false_of_ne (Ne.symm hk)] using ih
      · simp only [List.map_cons, if_neg hk, List.lookup_cons, ih, if_neg hq]

theorem item?_put (t : FileTree) (h : place ≠ []) (item : FileItem) (q : Location) :
    (t.put place item).item? q = if q = place then some item else t.item? q := by
  by_cases hq : q = []
  · subst hq
    rw [if_neg (Ne.symm h), item?_root, item?_root]
  · rw [item?_of_ne_root _ hq, item?_of_ne_root _ hq, put]
    split
    · next hs =>
      rw [lookup_replaced]
      obtain ⟨old, hold⟩ := Option.isSome_iff_exists.1 hs
      rw [hold, Option.map_some]
    · next hs =>
      have hnone : t.items.lookup place = none := Option.not_isSome_iff_eq_none.1 hs
      rw [List.lookup_append]
      by_cases hqp : q = place
      · subst hqp
        simp [hnone]
      · simp [hqp, List.lookup_cons, beq_false_of_ne hqp]

theorem item?_clear (t : FileTree) (h : place ≠ []) (q : Location) :
    (t.clear place).item? q = if q = place then none else t.item? q := by
  by_cases hq : q = []
  · subst hq
    rw [if_neg (Ne.symm h), item?_root, item?_root]
  · rw [item?_of_ne_root _ hq, item?_of_ne_root _ hq, clear]
    induction t.items with
    | nil => simp
    | cons p items ih =>
      obtain ⟨k, x⟩ := p
      by_cases hk : k = place
      · subst hk
        by_cases hqk : q = k
        · simpa [hqk] using ih
        · simpa [List.lookup_cons, hqk, beq_false_of_ne hqk] using ih
      · by_cases hqk : q = k
        · subst hqk
          simp [hk]
        · simpa [List.lookup_cons, hk, beq_false_of_ne hqk] using ih

/-- A step into a place needs nothing but that it leaves a folder. -/
theorem enter_eq_ok {name : String} {place next : Location} (h : t.enter place name = .ok next) :
    t.item? place = some .folder ∧ (name = "." ∧ next = place ∨
      name = ".." ∧ next = place.dropLast ∨ name ≠ ".." ∧ next = place ++ [name]) := by
  unfold enter at h
  split at h
  · cases h
  · cases h
  · next hf =>
    refine ⟨hf, ?_⟩
    split_ifs at h with h₁ h₂ h₃
    · exact .inl ⟨h₁, (Except.ok.inj h).symm⟩
    · exact .inr (.inl ⟨h₂, (Except.ok.inj h).symm⟩)
    · exact .inr (.inr ⟨h₂, (Except.ok.inj h).symm⟩)

/-- Entering by a name goes by whether there is a folder. -/
theorem enter_congr {name : String} (h : t.item? place = some .folder)
    (h' : t'.item? place = some .folder) : t'.enter place name = t.enter place name := by
  rw [enter, enter, h, h']

/-- A walk that arrives needs the folders it goes through and nothing else. -/
theorem walk_mono {names : List String} {start : Location}
    (hmono : ∀ q, t.item? q = some .folder → t'.item? q = some .folder)
    (h : t.walk start names = .ok place) : t'.walk start names = .ok place := by
  induction names generalizing start with
  | nil => exact h
  | cons name names ih =>
    rw [walk] at h
    split at h
    · next next hnext =>
      have hfolder := (enter_eq_ok hnext).1
      rw [walk, enter_congr hfolder (hmono _ hfolder), hnext]
      exact ih h
    · cases h

theorem locate_eq_ok {path : String} (h : t.locate path = .ok place) :
    t.walk (if Path.isAbsolute path.toList then [] else t.here) (namesOf path.toList) =
      .ok place := by
  unfold locate at h
  dsimp only at h
  split_ifs at h
  all_goals simp_all

theorem locate_mono {path : String} (hhere : t'.here = t.here)
    (hmono : ∀ q, t.item? q = some .folder → t'.item? q = some .folder)
    (h : t.locate path = .ok place) : t'.locate path = .ok place := by
  unfold locate at h ⊢
  dsimp only at h ⊢
  split_ifs at h ⊢
  all_goals exact walk_mono hmono (by simpa [hhere] using h)

/-! ### Well-formed trees -/

/-- Everything stands in a folder, and so does who looks at it. -/
structure WellFormed (t : FileTree) : Prop where
  here : t.item? t.here = some .folder
  above : ∀ q, t.item? q ≠ none → t.item? q.dropLast = some .folder

namespace WellFormed

/-- It is enough to look at what is listed. -/
theorem of_items (hhere : t.item? t.here = some .folder)
    (h : ∀ p ∈ t.items, t.item? p.1.dropLast = some .folder) : t.WellFormed := by
  refine ⟨hhere, fun q hq => ?_⟩
  by_cases hroot : q = []
  · rw [hroot]
    rfl
  · rw [item?_of_ne_root t hroot, ← Option.isSome_iff_ne_none, List.lookup_isSome_iff] at hq
    obtain ⟨p, hp, he⟩ := hq
    exact beq_iff_eq.1 he ▸ h p hp

variable (h : t.WellFormed)
include h

theorem folder_of_append {rest : Location} (hq : t.item? (q ++ rest) ≠ none) (hrest : rest ≠ []) :
    t.item? q = some .folder := by
  induction rest using List.reverseRecOn with
  | nil => exact absurd rfl hrest
  | append_singleton rest name ih =>
    have habove := h.above _ hq
    rw [← List.append_assoc, List.dropLast_concat] at habove
    by_cases hr : rest = []
    · rwa [hr, List.append_nil] at habove
    · exact ih (by simp [habove]) hr

/-- What a walk arrives at would stand in a folder. -/
theorem above_of_walk {names : List String} {start : Location}
    (hstart : t.item? start.dropLast = some .folder) (hw : t.walk start names = .ok place) :
    t.item? place.dropLast = some .folder := by
  induction names generalizing start with
  | nil =>
    obtain rfl := Except.ok.inj hw
    exact hstart
  | cons name names ih =>
    rw [walk] at hw
    split at hw
    · next next hnext =>
      obtain ⟨hfolder, ⟨-, rfl⟩ | ⟨-, rfl⟩ | ⟨-, rfl⟩⟩ := enter_eq_ok hnext
      · exact ih hstart hw
      · exact ih (h.above _ (by simp [hstart])) hw
      · exact ih (by rwa [List.dropLast_concat]) hw
    · cases hw

theorem above_of_locate {path : String} (hl : t.locate path = .ok place) :
    t.item? place.dropLast = some .folder := by
  refine h.above_of_walk ?_ (locate_eq_ok hl)
  split
  · rfl
  · exact h.above _ (by simp [h.here])

theorem put (habove : t.item? place.dropLast = some .folder)
    (hplace : t.item? place ≠ some .folder) (item : FileItem) : (t.put place item).WellFormed := by
  have hne : place ≠ [] := by
    rintro rfl
    exact hplace rfl
  have hkeep : ∀ {q}, t.item? q = some .folder → (t.put place item).item? q = some .folder := by
    intro q hq
    rw [item?_put t hne, if_neg, hq]
    rintro rfl
    exact hplace hq
  have hhere : (t.put place item).here = t.here := by
    unfold FileTree.put
    split <;> rfl
  refine ⟨by rw [hhere]; exact hkeep h.here, fun q hq => ?_⟩
  rw [item?_put t hne] at hq
  split_ifs at hq with heq
  · rw [heq]
    exact hkeep habove
  · exact hkeep (h.above q hq)

theorem clear {content : ByteArray} (hfile : t.item? place = some (.file content)) :
    (t.clear place).WellFormed := by
  have hne : place ≠ [] := by
    rintro rfl
    cases hfile
  have hkeep : ∀ {q}, t.item? q = some .folder → (t.clear place).item? q = some .folder := by
    intro q hq
    rw [item?_clear t hne, if_neg, hq]
    rintro rfl
    rw [hfile] at hq
    cases hq
  refine ⟨hkeep h.here, fun q hq => hkeep (h.above q ?_)⟩
  rw [item?_clear t hne] at hq
  split_ifs at hq
  · exact absurd rfl hq
  · exact hq

end WellFormed

/-! ### Trees that have grown -/

/-- From one tree to a later one: folders were made where nothing stood. -/
structure Grows (t t' : FileTree) : Prop where
  here : t'.here = t.here
  item : ∀ q, t'.item? q = t.item? q ∨ t.item? q = none ∧ t'.item? q = some .folder
  wellFormed : t.WellFormed → t'.WellFormed

namespace Grows

theorem refl (t : FileTree) : t.Grows t := ⟨rfl, fun _ => .inl rfl, id⟩

theorem trans {t'' : FileTree} (h : t.Grows t') (h' : t'.Grows t'') : t.Grows t'' where
  here := h'.here.trans h.here
  item q := by
    rcases h'.item q with he' | ⟨hn', hf'⟩
    · rw [he']
      exact h.item q
    · rcases h.item q with he | ⟨-, hf⟩
      · exact .inr ⟨he ▸ hn', hf'⟩
      · rw [hf] at hn'
        cases hn'
  wellFormed := h'.wellFormed ∘ h.wellFormed

/-- What stands somewhere stays. -/
theorem item_eq (h : t.Grows t') (hq : t.item? q = some item) : t'.item? q = some item := by
  rcases h.item q with he | ⟨hn, -⟩
  · rw [he, hq]
  · rw [hq] at hn
    cases hn

/-- No regular file is new or different. -/
theorem contentAt?_eq (h : t.Grows t') (q : Location) : t'.contentAt? q = t.contentAt? q := by
  unfold contentAt?
  rcases h.item q with he | ⟨hn, hf⟩
  · rw [he]
  · rw [hn, hf]

end Grows

theorem grows_put_folder (hl : t.WellFormed → t.item? place.dropLast = some .folder)
    (hplace : t.item? place = none) : t.Grows (t.put place .folder) := by
  have hne : place ≠ [] := by
    rintro rfl
    cases hplace
  refine ⟨by unfold put; split <;> rfl, fun q => ?_, fun h => h.put (hl h) (by simp [hplace]) _⟩
  rw [item?_put t hne]
  split_ifs with hq
  · exact .inr ⟨hq ▸ hplace, rfl⟩
  · exact .inl rfl

theorem grows_of_makeFolder {path : String} (h : t.makeFolder path = .ok t') : t.Grows t' := by
  unfold makeFolder at h
  split at h
  · cases h
  · next place hl =>
    split at h
    · cases h
    · next hnone =>
      obtain rfl := Except.ok.inj h
      exact grows_put_folder (fun hw => hw.above_of_locate hl) hnone

/-- **Making folders makes nothing else,** whether it succeeds or not. -/
theorem grows_makeFolders (t : FileTree) (fuel : Nat) (path : String) :
    t.Grows (t.makeFolders fuel path).1 := by
  induction fuel generalizing t path with
  | zero => exact .refl t
  | succ fuel ih =>
    rw [makeFolders]
    split
    · exact .refl t
    · split
      · next hmade => exact grows_of_makeFolder hmade
      · split
        · exact .refl t
        · next above _ =>
          have habove := ih t above
          split
          · next hfailed =>
            rw [hfailed] at habove
            exact habove
          · next t₁ hdone =>
            rw [hdone] at habove
            split
            · next hmade => exact habove.trans (grows_of_makeFolder hmade)
            · split <;> exact habove
      · split <;> exact .refl t

end FileTree
end MailMerge
