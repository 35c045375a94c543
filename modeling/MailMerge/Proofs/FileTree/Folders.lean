/-
# Making the folders on a way

Making the folders on a path is hindered by a name that is too long and by a regular file
on the way, and by nothing else (`FileTree.obstacle?`).  So whether it succeeds does not
depend on which of the folders are there already: all it does is to make those that are
missing (`FileTree.GrowsTo`).
-/

import MailMerge.Proofs.FileTree.Place

namespace MailMerge
namespace FileTree

variable {t t' : FileTree} {place q start : Location} {path : String} {names : List String}

/-! ### What hinders the making of folders -/

/-- What hinders the making of the folders on a way: a name that is too long, or a regular
file. -/
def obstacle? (t : FileTree) : Location → List String → Option FileError
  | _, [] => none
  | place, name :: names =>
    if nameLimit < name.utf8ByteSize then some .nameTooLong
    else if (t.contentAt? (place ++ [name])).isSome then
      some (if names.isEmpty then .alreadyExists else .notAFolder)
    else t.obstacle? (place ++ [name]) names

section

variable {name : String}

theorem obstacle?_of_long (h : nameLimit < name.utf8ByteSize) :
    t.obstacle? start (name :: names) = some .nameTooLong := by
  rw [obstacle?, if_pos h]

theorem obstacle?_of_file (hshort : ¬nameLimit < name.utf8ByteSize)
    (h : (t.contentAt? (start ++ [name])).isSome = true) : t.obstacle? start (name :: names) =
      some (if names.isEmpty then .alreadyExists else .notAFolder) := by
  rw [obstacle?, if_neg hshort, if_pos h]

theorem obstacle?_of_none (hshort : ¬nameLimit < name.utf8ByteSize)
    (h : ¬(t.contentAt? (start ++ [name])).isSome = true) :
    t.obstacle? start (name :: names) = t.obstacle? (start ++ [name]) names := by
  rw [obstacle?, if_neg hshort, if_neg h]

end

/-- Only regular files on the way matter. -/
theorem obstacle?_congr (h : ∀ q, start <+: q → q ≠ start → q <+: start ++ names →
    (t'.contentAt? q).isSome = (t.contentAt? q).isSome) :
    t'.obstacle? start names = t.obstacle? start names := by
  induction names generalizing start with
  | nil => rfl
  | cons name names ih =>
    have hnext := h (start ++ [name]) (List.prefix_append _ _) (by simp) ⟨names, by simp⟩
    rw [obstacle?, obstacle?, hnext, ih]
    intro q hq hne hq'
    refine h q ((List.prefix_append _ _).trans hq) ?_ (by simpa using hq')
    rintro rfl
    have := hq.length_le
    rw [List.length_append, List.length_singleton] at this
    omega

theorem contentAt?_of_folder (h : t.item? place = some .folder) : t.contentAt? place = none := by
  rw [contentAt?, h]

theorem exists_of_contentAt? (h : (t.contentAt? place).isSome = true) :
    ∃ content, t.item? place = some (.file content) := by
  unfold contentAt? at h
  split at h
  · next content hitem => exact ⟨content, hitem⟩
  · cases h

/-- A walk that fails, unless for something that is missing, meets what hinders. -/
theorem obstacle?_of_walk_error (hplain : ∀ name ∈ names, Plain name)
    (hstart : t.item? start = some .folder) {e : FileError} (h : t.walk start names = .error e)
    (he : e ≠ .notFound) : t.obstacle? start names = some e := by
  induction names generalizing start with
  | nil => cases h
  | cons name names ih =>
    obtain ⟨hname, hplain⟩ := List.forall_mem_cons.1 hplain
    rw [walk_plain hstart hname] at h
    split_ifs at h with hlong
    · obtain rfl := Except.error.inj h
      exact obstacle?_of_long hlong
    rcases names with _ | ⟨next, names⟩
    · cases h
    cases hitem : t.item? (start ++ [name]) with
    | none =>
      rw [walk_of_none hitem] at h
      exact absurd (Except.error.inj h).symm he
    | some item =>
      cases item with
      | file content =>
        rw [walk_of_file hitem] at h
        obtain rfl := Except.error.inj h
        exact obstacle?_of_file hlong (by simp [contentAt?, hitem])
      | folder =>
        rw [obstacle?_of_none hlong (by simp [contentAt?_of_folder hitem])]
        exact ih hplain hitem h

/-- A walk that arrives is hindered at its end at most. -/
theorem obstacle?_of_walk_ok (hplain : ∀ name ∈ names, Plain name)
    (hstart : t.item? start = some .folder) (h : t.walk start names = .ok place) :
    t.obstacle? start names =
      if (t.contentAt? place).isSome then some .alreadyExists else none := by
  induction names generalizing start with
  | nil =>
    obtain rfl := Except.ok.inj h
    rw [contentAt?_of_folder hstart]
    rfl
  | cons name names ih =>
    obtain ⟨hname, hplain⟩ := List.forall_mem_cons.1 hplain
    rw [walk_plain hstart hname] at h
    split_ifs at h with hlong
    rcases names with _ | ⟨next, names⟩
    · obtain rfl := Except.ok.inj h
      rw [obstacle?, if_neg hlong]
      rfl
    · have hfolder := folder_of_walk h
      rw [obstacle?_of_none hlong (by simp [contentAt?_of_folder hfolder])]
      exact ih hplain hfolder h

/-- What hinders on a longer way, given what hinders on the way up to its last name. -/
theorem obstacle?_concat (t : FileTree) (start : Location) (names : List String) (last : String) :
    t.obstacle? start (names ++ [last]) = match t.obstacle? start names with
      | some .alreadyExists => some .notAFolder
      | some e => some e
      | none => t.obstacle? (start ++ names) [last] := by
  induction names generalizing start with
  | nil =>
    rw [List.nil_append, List.append_nil]
    rfl
  | cons name names ih =>
    rw [List.cons_append]
    by_cases hlong : nameLimit < name.utf8ByteSize
    · rw [obstacle?_of_long hlong, obstacle?_of_long hlong]
    by_cases hfile : (t.contentAt? (start ++ [name])).isSome = true
    · rw [obstacle?_of_file hlong hfile, obstacle?_of_file hlong hfile]
      rcases names with _ | ⟨next, names⟩ <;> rfl
    · rw [obstacle?_of_none hlong hfile, obstacle?_of_none hlong hfile, ih, List.append_assoc]
      rfl

/-- Only a regular file at its end hinders as something that is there already. -/
theorem contentAt?_of_obstacle? (h : t.obstacle? start names = some .alreadyExists) :
    (t.contentAt? (start ++ names)).isSome = true := by
  induction names generalizing start with
  | nil => cases h
  | cons name names ih =>
    by_cases hlong : nameLimit < name.utf8ByteSize
    · cases (obstacle?_of_long hlong).symm.trans h
    by_cases hfile : (t.contentAt? (start ++ [name])).isSome = true
    · rcases names with _ | ⟨next, names⟩
      · exact hfile
      · cases (obstacle?_of_file hlong hfile).symm.trans h
    · simpa using ih ((obstacle?_of_none hlong hfile).symm.trans h)

/-- A walk through places where something stands misses nothing. -/
theorem walk_ne_notFound (hplain : ∀ name ∈ names, Plain name)
    (h : ∀ q, start <+: q → q <+: start ++ names → q ≠ start ++ names → t.item? q ≠ none) :
    t.walk start names ≠ .error .notFound := by
  induction names generalizing start with
  | nil => simp [walk]
  | cons name names ih =>
    obtain ⟨hname, hplain⟩ := List.forall_mem_cons.1 hplain
    have hhere := h start List.prefix_rfl (List.prefix_append _ _) (by simp)
    cases hitem : t.item? start with
    | none => exact absurd hitem hhere
    | some item =>
      cases item with
      | file content => simp [walk_of_file hitem]
      | folder =>
        rw [walk_plain hitem hname]
        split_ifs
        · simp
        · refine ih hplain fun q hq hq' hne => h q ((List.prefix_append _ _).trans hq) ?_ ?_
          · simpa using hq'
          · simpa using hne

/-! ### Making folders -/

/-- From one tree to a later one: folders were made on the way to a place. -/
structure GrowsTo (place : Location) (t t' : FileTree) : Prop extends t.Grows t' where
  along : ∀ q, t.item? q = none → t'.item? q = some .folder → q <+: place

namespace GrowsTo

theorem refl (place : Location) (t : FileTree) : GrowsTo place t t :=
  ⟨.refl t, fun _ hn hf => by cases hn.symm.trans hf⟩

theorem trans {t'' : FileTree} (h : GrowsTo place t t') (h' : GrowsTo place t' t'') :
    GrowsTo place t t'' where
  toGrows := h.toGrows.trans h'.toGrows
  along q hn hf := by
    rcases h.item q with he | ⟨-, hf'⟩
    · exact h'.along q (he.trans hn) hf
    · exact h.along q hn hf'

theorem mono (h : GrowsTo q t t') (hq : q <+: place) : GrowsTo place t t' :=
  ⟨h.toGrows, fun p hn hf => (h.along p hn hf).trans hq⟩

end GrowsTo

theorem Grows.startOf_eq (h : t.Grows t') (path : String) : t'.startOf path = t.startOf path :=
  startOf_congr h.here path

theorem Grows.placeOf_eq (h : t.Grows t') (path : String) : t'.placeOf path = t.placeOf path :=
  placeOf_congr h.here path

/-- A path with which a folder can be made: it has nothing to be trimmed and no `..`. -/
structure Proper (path : String) : Prop where
  settled : Path.Settled path.toList.reverse
  up : ".." ∉ namesOf path.toList

section

variable {above : String} (h : Path.IsAbove above path)
include h

theorem routeOf_above : routeOf above = (routeOf path).dropLast := by
  rw [routeOf, h.segments, routeOf, List.map_dropLast]

theorem startOf_above (t : FileTree) : t.startOf above = t.startOf path := by
  rw [startOf, h.isAbsolute, startOf]

theorem placeOf_above (t : FileTree) : t.placeOf above <+: t.placeOf path := by
  rw [placeOf, placeOf, startOf_above h, routeOf_above h]
  exact (List.prefix_append_right_inj _).2 (List.dropLast_prefix _)

theorem proper_above (hup : ".." ∉ namesOf path.toList) : Proper above := by
  refine ⟨h.settled, fun hmem => hup ?_⟩
  rw [← mem_routeOf (by decide)] at hmem ⊢
  rw [routeOf_above h] at hmem
  exact List.dropLast_subset _ hmem

end

/-- Makes a folder, unless it is there. -/
def tryFolder (t : FileTree) (path : String) : FileTree × Except FileError Unit :=
  match t.makeFolder path with
  | .ok t => (t, .ok ())
  | .error e => if t.hasFolder path then (t, .ok ()) else (t, .error e)

theorem hasFolder_of_locate (h : t.locate path = .ok place) :
    t.hasFolder path = true ↔ t.item? place = some .folder := by
  rw [hasFolder, find?, h]
  dsimp only
  cases t.item? place with
  | none => simp
  | some item => cases item <;> simp

/-- Making a folder that is there, or could be made. -/
theorem tryFolder_of_locate (hpath : Proper path) (h : t.locate path = .ok place) :
    t.tryFolder path = match t.item? place with
      | none => (t.put place .folder, .ok ())
      | some .folder => (t, .ok ())
      | some (.file _) => (t, .error .alreadyExists) := by
  rw [tryFolder, makeFolder, dropSlashes_eq hpath.settled, h]
  dsimp only
  cases hitem : t.item? place with
  | none => rfl
  | some item =>
    dsimp only
    cases item with
    | folder => rw [if_pos ((hasFolder_of_locate h).2 hitem)]
    | file content => rw [if_neg (by rw [hasFolder_of_locate h, hitem]; simp)]

theorem tryFolder_of_error {e : FileError} (hpath : Proper path) (h : t.locate path = .error e) :
    t.tryFolder path = (t, .error e) := by
  have hnone : t.hasFolder path = false := by
    rw [hasFolder, find?, h]
  rw [tryFolder, makeFolder, dropSlashes_eq hpath.settled, h, hnone]
  rfl

/-- Folders are made from the first one that is missing. -/
theorem makeFolders_succ (t : FileTree) (fuel : Nat) (hpath : Proper path) :
    t.makeFolders (fuel + 1) path =
      if path.isEmpty then (t, .ok ())
      else if t.locate path = .error .notFound then
        match Path.parent? path with
        | none => (t, .error .notFound)
        | some above =>
          match t.makeFolders fuel above with
          | (t, .error e) => (t, .error e)
          | (t, .ok ()) => t.tryFolder path
      else t.tryFolder path := by
  rw [makeFolders]
  by_cases hempty : path.isEmpty = true
  · rw [if_pos hempty, if_pos hempty]
  rw [if_neg hempty, if_neg hempty]
  cases hl : t.locate path with
  | error e =>
    have hmake : t.makeFolder path = .error e := by
      rw [makeFolder, dropSlashes_eq hpath.settled, hl]
    by_cases he : e = .notFound
    · rw [if_pos (he ▸ rfl), hmake, he]
      rfl
    · rw [if_neg (by simpa using he), tryFolder, hmake]
      cases e <;> first | rfl | exact absurd rfl he
  | ok place =>
    rw [if_neg (by simp), tryFolder]
    cases hmake : t.makeFolder path with
    | ok t' => rfl
    | error e =>
      have he : e = .alreadyExists := by
        rw [makeFolder, dropSlashes_eq hpath.settled, hl] at hmake
        dsimp only at hmake
        split at hmake
        · exact (Except.error.inj hmake).symm
        · cases hmake
      rw [he]

/-- What trying to make a folder does to the tree. -/
theorem growsTo_tryFolder (t : FileTree) (hpath : Proper path) :
    GrowsTo (t.placeOf path) t (t.tryFolder path).1 ∧
      ((t.tryFolder path).2 = .ok () →
        (t.tryFolder path).1.item? (t.placeOf path) = some .folder) := by
  cases hl : t.locate path with
  | error e =>
    rw [tryFolder_of_error hpath hl]
    exact ⟨.refl _ t, fun h => by cases h⟩
  | ok place =>
    obtain rfl := eq_placeOf hpath.up hl
    rw [tryFolder_of_locate hpath hl]
    cases hitem : t.item? (t.placeOf path) with
    | none =>
      have hne : t.placeOf path ≠ [] := by
        intro hroot
        rw [hroot] at hitem
        cases hitem
      refine ⟨⟨grows_put_folder (fun hw => hw.above_of_locate hl) hitem, fun q hn hf => ?_⟩,
        fun _ => by rw [item?_put t hne, if_pos rfl]⟩
      rw [item?_put t hne] at hf
      split_ifs at hf with hq
      · exact hq ▸ List.prefix_rfl
      · cases hn.symm.trans hf
    | some item =>
      cases item with
      | folder => exact ⟨.refl _ t, fun _ => hitem⟩
      | file content => exact ⟨.refl _ t, fun h => by cases h⟩

/-- **Making folders makes those on the way,** whether it succeeds or not, and if it succeeds
there is one at the end of the way. -/
theorem growsTo_makeFolders (hw : t.WellFormed) (fuel : Nat) (hpath : Proper path) :
    GrowsTo (t.placeOf path) t (t.makeFolders fuel path).1 ∧
      ((t.makeFolders fuel path).2 = .ok () →
        (t.makeFolders fuel path).1.item? (t.placeOf path) = some .folder) := by
  induction fuel generalizing t path with
  | zero => exact ⟨.refl _ t, fun h => by cases h⟩
  | succ fuel ih =>
    rw [makeFolders_succ t fuel hpath]
    split
    · next hempty =>
      obtain rfl := String.isEmpty_iff.1 hempty
      exact ⟨.refl _ t, fun _ => folder_placeOf_empty hw⟩
    split
    · split
      · exact ⟨.refl _ t, fun h => by cases h⟩
      · next above hparent =>
        have hisAbove := Path.isAbove_of_parent? hparent
        have habove := (ih hw (proper_above hisAbove hpath.up)).1.mono (placeOf_above hisAbove t)
        split
        · next hfailed =>
          rw [hfailed] at habove
          exact ⟨habove, fun h => by cases h⟩
        · next t₁ hdone =>
          rw [hdone] at habove
          obtain ⟨hgrows, hfolder⟩ := growsTo_tryFolder t₁ hpath
          rw [habove.toGrows.placeOf_eq] at hgrows hfolder
          exact ⟨habove.trans hgrows, hfolder⟩
    · exact growsTo_tryFolder t hpath

/-! ### Whether making folders succeeds -/

/-- What making the folders on a path comes to. -/
def verdict (t : FileTree) (path : String) : Except FileError Unit :=
  if path.toList.contains (Char.ofNat 0) then .error .invalidName
  else match t.obstacle? (t.startOf path) (routeOf path) with
    | some e => .error e
    | none => .ok ()

/-- Where nothing is missing on the way, a single try tells. -/
theorem tryFolder_result (hw : t.WellFormed) (hpath : Proper path) (hne : path ≠ "")
    (hfound : t.locate path ≠ .error .notFound) : (t.tryFolder path).2 = t.verdict path := by
  rw [verdict]
  split_ifs with hnul
  · have hl : t.locate path = .error .invalidName := by
      rw [locate, if_neg (by simpa using hne), if_pos hnul]
    rw [tryFolder_of_error hpath hl]
  have hplain := plain_of_mem_routeOf hpath.up
  have hstart := folder_startOf hw path
  have hwalk := locate_of_settled hw hpath.settled hpath.up hne (by simpa using hnul)
  cases hl : t.locate path with
  | error e =>
    rw [tryFolder_of_error hpath hl, obstacle?_of_walk_error hplain hstart (hwalk ▸ hl)]
    rintro rfl
    exact hfound hl
  | ok place =>
    rw [tryFolder_of_locate hpath hl, obstacle?_of_walk_ok hplain hstart (hwalk ▸ hl), contentAt?]
    cases hitem : t.item? place with
    | none => rfl
    | some item => cases item <;> rfl

theorem verdict_congr (hhere : t'.here = t.here) (h : ∀ q, q <+: t.placeOf path →
    (t'.contentAt? q).isSome = (t.contentAt? q).isSome) : t'.verdict path = t.verdict path := by
  rw [verdict, verdict, startOf_congr hhere, obstacle?_congr fun q _ _ hq => h q hq]

theorem WellFormed.item?_of_isPrefix (hw : t.WellFormed) (hq : q <+: place)
    (h : t.item? place ≠ none) : t.item? q ≠ none := by
  obtain ⟨rest, rfl⟩ := hq
  by_cases hrest : rest = []
  · rwa [hrest, List.append_nil] at h
  · simp [hw.folder_of_append h hrest]

theorem WellFormed.folder_of_isPrefix (hw : t.WellFormed) (hq : q <+: place)
    (h : t.item? place = some .folder) : t.item? q = some .folder := by
  obtain ⟨rest, rfl⟩ := hq
  by_cases hrest : rest = []
  · rwa [hrest, List.append_nil] at h
  · exact hw.folder_of_append (by simp [h]) hrest

/-- A path whose last name alone may lead to nothing misses nothing. -/
theorem locate_ne_notFound (hw : t.WellFormed) (hpath : Proper path) (hne : path ≠ "")
    {above last : String} (hstart : t.startOf above = t.startOf path)
    (hroute : routeOf path = routeOf above ++ [last]) (h : t.item? (t.placeOf above) ≠ none) :
    t.locate path ≠ .error .notFound := by
  by_cases hnul : path.toList.contains (Char.ofNat 0) = true
  · rw [locate, if_neg (by simpa using hne), if_pos hnul]
    simp
  rw [locate_of_settled hw hpath.settled hpath.up hne (by simpa using hnul)]
  refine walk_ne_notFound (plain_of_mem_routeOf hpath.up) fun q _ hq hlast => ?_
  rw [hroute, ← List.append_assoc, ← hstart] at hq hlast
  exact hw.item?_of_isPrefix ((List.prefix_concat_iff.1 hq).resolve_left hlast) h

/-- What is missing is a folder above the last name. -/
theorem exists_above_of_notFound (hw : t.WellFormed) (hpath : Proper path) (hne : path ≠ "")
    (hl : t.locate path = .error .notFound) :
    path.toList.contains (Char.ofNat 0) = false ∧ ∃ above last, Path.parent? path = some above ∧
      routeOf path = routeOf above ++ [last] := by
  have hnul : path.toList.contains (Char.ofNat 0) = false := by
    by_contra hnul
    rw [locate, if_neg (by simpa using hne), if_pos (by simpa using hnul)] at hl
    cases hl
  rw [locate_of_settled hw hpath.settled hpath.up hne hnul] at hl
  refine ⟨hnul, ?_⟩
  cases hparent : Path.parent? path with
  | none =>
    rw [routeOf, Path.parent?_eq_none hparent] at hl
    cases hl
  | some above =>
    have hroute : routeOf path ≠ [] := fun h => by
      rw [h] at hl
      cases hl
    refine ⟨above, (routeOf path).getLast hroute, rfl, ?_⟩
    rw [routeOf_above (Path.isAbove_of_parent? hparent), List.dropLast_append_getLast]

/-- What hinders above a last name that is missed is no regular file at the end of the way: the
walk would have met it. -/
theorem obstacle?_above_ne (hw : t.WellFormed) (hpath : Proper path) (hne : path ≠ "")
    {above last : String} (hstart : t.startOf above = t.startOf path)
    (hroute : routeOf path = routeOf above ++ [last])
    (hl : t.locate path = .error .notFound) :
    t.obstacle? (t.startOf above) (routeOf above) ≠ some .alreadyExists := by
  intro hob
  obtain ⟨content, hcontent⟩ := exists_of_contentAt? (contentAt?_of_obstacle? hob)
  refine locate_ne_notFound hw hpath hne hstart hroute ?_ hl
  rw [placeOf, hcontent]
  simp

/-- What hinders on the way above hinders on the whole way. -/
theorem verdict_of_above {above last : String} (hnul : path.toList.contains (Char.ofNat 0) = false)
    (hstart : t.startOf above = t.startOf path) (hroute : routeOf path = routeOf above ++ [last])
    {e : FileError} (hob : t.obstacle? (t.startOf above) (routeOf above) = some e)
    (he : e ≠ .alreadyExists) : t.verdict path = .error e := by
  rw [verdict, hnul, if_neg Bool.false_ne_true, hroute, obstacle?_concat, ← hstart, hob]
  cases e <;> first | rfl | exact absurd rfl he

/-- **Folders are made unless something hinders,** whichever of them are there already. -/
theorem makeFolders_result (hw : t.WellFormed) (hpath : Proper path) {fuel : Nat}
    (hfuel : path.length < fuel) : (t.makeFolders fuel path).2 = t.verdict path := by
  induction fuel generalizing t path with
  | zero => cases hfuel
  | succ fuel ih =>
    rw [makeFolders_succ t fuel hpath]
    split
    · next hempty =>
      obtain rfl := String.isEmpty_iff.1 hempty
      rfl
    next hempty =>
    have hne : path ≠ "" := fun h => hempty (h ▸ rfl)
    split
    · next hl =>
      obtain ⟨hnul, above, last, hparent, hroute⟩ := exists_above_of_notFound hw hpath hne hl
      have hisAbove := Path.isAbove_of_parent? hparent
      have habove := proper_above hisAbove hpath.up
      have hstart := startOf_above hisAbove t
      have hnul' : above.toList.contains (Char.ofNat 0) = false := by
        have hnot : Char.ofNat 0 ∉ path.toList := by simpa using hnul
        simpa using fun hmem => hnot (hisAbove.start.subset hmem)
      have hresult := ih hw habove (hisAbove.shorter.trans_le (Nat.le_of_lt_succ hfuel))
      obtain ⟨hgrows, hfolder⟩ := growsTo_makeFolders hw fuel habove
      rw [verdict, hnul', if_neg Bool.false_ne_true] at hresult
      rw [hparent]
      dsimp only
      rcases hmade : t.makeFolders fuel above with ⟨t₁, made⟩
      rw [hmade] at hresult hgrows hfolder
      dsimp only at hresult
      subst hresult
      cases hob : t.obstacle? (t.startOf above) (routeOf above) with
      | some e =>
        have he : e ≠ .alreadyExists := fun he =>
          obstacle?_above_ne hw hpath hne hstart hroute hl (he ▸ hob)
        exact (verdict_of_above hnul hstart hroute hob he).symm
      | none =>
        -- a single try tells now, and no regular file is new that could change its verdict
        rw [hob] at hfolder
        have hw₁ := hgrows.wellFormed hw
        have hfound : t₁.locate path ≠ .error .notFound := by
          refine locate_ne_notFound hw₁ hpath hne (startOf_above hisAbove t₁) hroute ?_
          rw [hgrows.toGrows.placeOf_eq, hfolder rfl]
          simp
        dsimp only
        rw [tryFolder_result hw₁ hpath hne hfound]
        exact verdict_congr hgrows.here fun q _ => by rw [hgrows.contentAt?_eq]
    · next hfound => exact tryFolder_result hw hpath hne hfound

end FileTree
end MailMerge
