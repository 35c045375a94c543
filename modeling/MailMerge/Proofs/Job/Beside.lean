/-
# Jobs beside one another

Whether an output file can be written depends on what stands at its place, and on the
regular files on the way to it.  So changes beside it make no difference
(`OutputFile.write_result`), and a job without hooks does what it does whatever other
jobs have written beside its output and its template (`Job.Hookless.run_beside`).
-/

import MailMerge.Proofs.FileTree.Beside
import MailMerge.Proofs.Job.Staged

namespace MailMerge

open FileTree (Beside Apart Avoids GrowsTo placeOf startOf routeOf)

/-! ### Output files -/

namespace OutputFile

variable {path text : String} {force : Bool} {t t' : FileTree} {w w' : World}
  {places : List Location} {q : Location}

theorem isAbove_of_room? {above : String} (h : room? path = some above) :
    Path.IsAbove above path :=
  Path.isAbove_of_parent? (Option.eq_some_of_filter_eq_some h)

/-- The folders for a file are made on the way to it. -/
theorem growsTo_withRoom (hw : t.WellFormed) (hup : ".." ∉ FileTree.namesOf path.toList) :
    GrowsTo (t.placeOf path) t (withRoom path t).1 := by
  unfold withRoom
  split
  · exact .refl _ t
  · next above hroom =>
    have habove := isAbove_of_room? hroom
    exact (FileTree.growsTo_makeFolders hw _ (FileTree.proper_above habove hup)).1.mono
      (FileTree.placeOf_above habove t)

/-- Whether there is room for a file does not depend on what changes beside it. -/
theorem withRoom_result (hw : t.WellFormed) (hb : Beside places t t')
    (hup : ".." ∉ FileTree.namesOf path.toList) (hapart : ∀ p ∈ places, Apart p (t.placeOf path)) :
    (withRoom path t').2 = (withRoom path t).2 := by
  unfold withRoom
  split
  · rfl
  · next above hroom =>
    have habove := isAbove_of_room? hroom
    have hproper := FileTree.proper_above habove hup
    rw [FileTree.ensureFolder, FileTree.ensureFolder,
      FileTree.makeFolders_result hw hproper (Nat.lt_succ_self _),
      FileTree.makeFolders_result hb.wellFormed hproper (Nat.lt_succ_self _)]
    refine FileTree.verdict_congr hb.here fun q hq => ?_
    rw [hb.contentAt?_eq]
    intro hmem
    exact (hapart q hmem).1 (hq.trans (FileTree.placeOf_above habove t))

theorem folder_of_parent? {above : String} (hw : t.WellFormed)
    (hup : ".." ∉ FileTree.namesOf path.toList) (h : (withRoom path t).2 = .ok ())
    (habove : Path.parent? path = some above) :
    (withRoom path t).1.item? (t.placeOf above) = some .folder := by
  unfold withRoom at h ⊢
  cases hroom : room? path with
  | none =>
    rw [room?, habove] at hroom
    obtain rfl : above = "" := by simpa using hroom
    exact FileTree.folder_placeOf_empty hw
  | some above' =>
    obtain rfl : above' = above :=
      Option.some.inj ((Option.eq_some_of_filter_eq_some hroom).symm.trans habove)
    rw [hroom] at h
    exact (FileTree.growsTo_makeFolders hw _
      (FileTree.proper_above (isAbove_of_room? hroom) hup)).2 h

/-- Where there is room for a file, folders lead to it. -/
theorem folder_of_withRoom (hw : t.WellFormed) (hup : ".." ∉ FileTree.namesOf path.toList)
    (h : (withRoom path t).2 = .ok ()) (hstart : t.startOf path <+: q)
    (hq : q <+: t.placeOf path) (hne : q ≠ t.placeOf path) :
    (withRoom path t).1.item? q = some .folder := by
  have hroute : routeOf path ≠ [] := fun hnil => by
    rw [placeOf, hnil, List.append_nil] at hq hne
    exact hne (hq.eq_of_length_le hstart.length_le)
  cases hparent : Path.parent? path with
  | none => exact absurd (by rw [routeOf, Path.parent?_eq_none hparent]; rfl) hroute
  | some above =>
    have habove := Path.isAbove_of_parent? hparent
    refine ((grows_withRoom path t).wellFormed hw).folder_of_isPrefix ?_
      (folder_of_parent? hw hup h hparent)
    rw [placeOf, FileTree.startOf_above habove, FileTree.routeOf_above habove]
    rw [placeOf, ← List.dropLast_append_getLast hroute, ← List.append_assoc] at hq hne
    exact (List.prefix_concat_iff.1 hq).resolve_left hne

/-- Room for a file is made above it. -/
theorem item?_withRoom (hw : t.WellFormed) (hup : ".." ∉ FileTree.namesOf path.toList) :
    (withRoom path t).1.item? (t.placeOf path) = t.item? (t.placeOf path) := by
  rcases (grows_withRoom path t).item (t.placeOf path) with he | ⟨hn, hf⟩
  · exact he
  unfold withRoom at hf
  split at hf
  · exact absurd (hf.symm.trans hn) (by simp)
  · next above hroom =>
    have habove := isAbove_of_room? hroom
    have hle := ((FileTree.growsTo_makeFolders hw _ (FileTree.proper_above habove hup)).1.along
      _ hn hf).length_le
    rw [placeOf, placeOf, FileTree.startOf_above habove, FileTree.routeOf_above habove,
      List.length_append, List.length_append, List.length_dropLast] at hle
    have hnil : routeOf path = [] := List.length_eq_zero_iff.1 (by omega)
    rw [placeOf, hnil, List.append_nil, FileTree.folder_startOf hw] at hn
    cases hn

/-- In two trees that differ beside a path, the room for a file made, the same stands on the
way. -/
theorem item?_withRoom_eq (hw : t.WellFormed) (hb : Beside places t t')
    (hup : ".." ∉ FileTree.namesOf path.toList) (hapart : ∀ p ∈ places, Apart p (t.placeOf path))
    (hroom : (withRoom path t).2 = .ok ()) (hstart : t.startOf path <+: q)
    (hq : q <+: t.placeOf path) : (withRoom path t').1.item? q = (withRoom path t).1.item? q := by
  have hroom' := (withRoom_result hw hb hup hapart).trans hroom
  have hplace := hb.placeOf_eq path
  by_cases hne : q = t.placeOf path
  · rw [hne, item?_withRoom hw hup, ← hplace, item?_withRoom hb.wellFormed hup, hplace,
      hb.item?_eq hapart]
  · rw [folder_of_withRoom hw hup hroom hstart hq hne, folder_of_withRoom hb.wellFormed hup hroom'
      (hb.startOf_eq path ▸ hstart) (hplace ▸ hq) (hplace ▸ hne)]

/-- **Whether a file can be written does not depend on what changes beside it.** -/
theorem write_result (hw : w.files.WellFormed) (hb : Beside places w.files w'.files)
    (hup : ".." ∉ FileTree.namesOf path.toList)
    (hapart : ∀ p ∈ places, Apart p (w.files.placeOf path)) :
    (write path text force w').1 = (write path text force w).1 := by
  have hfind : w'.files.find? path = w.files.find? path :=
    hb.find?_eq hw (.inr (.inr ⟨hup, hapart⟩))
  have hfault : fault? w'.files path force = fault? w.files path force := by
    rw [fault?, fault?, hfind]
  rw [write_apply, write_apply, hfault]
  cases fault? w.files path force with
  | some fault => rfl
  | none =>
    dsimp only
    rw [withRoom_result hw hb hup hapart]
    cases hroom : (withRoom path w.files).2 with
    | error e => rfl
    | ok u =>
      -- the two trees may differ above the place until there is room, and no longer then
      have hgrows := grows_withRoom path w.files
      have hgrows' := grows_withRoom path w'.files
      have hitem := fun q hq hq' => item?_withRoom_eq (q := q) hw hb hup hapart hroom hq hq'
      have hlocate : (withRoom path w'.files).1.locate path =
          (withRoom path w.files).1.locate path :=
        FileTree.locate_congr hup (by rw [hgrows'.here, hb.here, hgrows.here]) fun q hq hq' =>
          hitem q (hgrows.startOf_eq path ▸ hq) (hgrows.placeOf_eq path ▸ hq')
      rw [FileTree.write, FileTree.write, hlocate]
      cases hl : (withRoom path w.files).1.locate path with
      | error e => rfl
      | ok place =>
        obtain rfl := FileTree.eq_placeOf hup hl
        rw [hgrows.placeOf_eq]
        dsimp only
        rw [hitem (w.files.placeOf path) (List.prefix_append _ _) List.prefix_rfl]
        rcases (withRoom path w.files).1.item? (w.files.placeOf path) with _ | _ | _ <;> rfl

/-- A write changes its place, and the folders on the way to it. -/
theorem beside_write (hw : w.files.WellFormed) (hup : ".." ∉ FileTree.namesOf path.toList)
    {r : Except Failure Unit} (h : write path text force w = (r, w')) :
    Beside [w.files.placeOf path] w.files w'.files := by
  have hgrows := growsTo_withRoom hw hup
  have hroom := FileTree.Beside.of_growsTo hw hgrows List.prefix_rfl
  rw [← show (write path text force w).2 = w' from congrArg Prod.snd h, write_apply]
  split
  · exact .refl hw _
  dsimp only
  split
  · exact hroom
  · exact hroom
  · next hwritten =>
    have hfile := FileTree.Beside.of_write hroom.wellFormed hup hwritten
    rw [hgrows.toGrows.placeOf_eq] at hfile
    exact (hroom.trans hfile).mono (by simp)

end OutputFile

/-! ### Input files -/

namespace InputFile

variable {t t' : FileTree} {path : String}

theorem read_of_find? {content : ByteArray} (h : t.find? path = some (.file content)) :
    t.read path = .ok content := by
  obtain ⟨place, hl, hitem⟩ := FileTree.item?_of_find? h
  rw [FileTree.read, hl]
  dsimp only
  rw [hitem]

/-- What a path leads to decides which text it gives. -/
theorem textAt_congr (h : t'.find? path = t.find? path) : textAt t' path = textAt t path := by
  have hfault : fault? t' path false = fault? t path false := by
    rw [fault?, fault?, h]
  rw [textAt, textAt, refusal?, refusal?, hfault]
  cases hok : fault? t path false with
  | some fault => rfl
  | none =>
    unfold fault? at hok
    split at hok
    · cases hok
    · cases hok
    · next content hfind =>
      rw [FileTree.readText, FileTree.readText, read_of_find? hfind, read_of_find? (h.trans hfind)]

end InputFile

/-! ### Jobs without hooks -/

namespace Job

variable {shell : Shell} {job : Job} {p : Plan} {w w' : World} {places : List Location}

/-- What a job without hooks does by its plan. -/
def produce (job : Job) (p : Plan) : Action Unit := do
  let text ← Action.ofExcept id (job.text p.folder (← Action.files))
  OutputFile.write p.output text p.force
  if p.delete then OutputFile.delete p.output

theorem produce_apply (job : Job) (p : Plan) (w : World) : job.produce p w =
    match job.text p.folder w.files with
    | .error f => (.error f, w)
    | .ok text =>
      match OutputFile.write p.output text p.force w with
      | (.error f, w') => (.error f, w')
      | (.ok (), w') => if p.delete then OutputFile.delete p.output w' else (.ok (), w') := by
  unfold produce
  rw [Action.files_bind, Action.bind_apply, Action.ofExcept_apply]
  cases job.text p.folder w.files with
  | error f => rfl
  | ok text =>
    change (OutputFile.write _ _ _ >>= _ : Action Unit) w = _
    rw [Action.bind_apply]
    dsimp only
    rcases OutputFile.write p.output text p.force w with ⟨f | u, w'⟩
    · rfl
    · dsimp only
      split <;> rfl

/-- The last stage deletes the output, or lets it be. -/
theorem performs_deleteStage {effects : List Effect} {r : Except Failure Unit}
    (h : Performs shell [deleteStage p] w effects r w') :
    (if p.delete then OutputFile.delete p.output w else (.ok (), w)) = (r, w') := by
  by_cases hd : p.delete = true
  · have hnext : ∀ t, (deleteStage p).next t = .ok (some (.delete p.output)) := fun t => by
      simp [deleteStage, hd]
    rw [if_pos hd]
    cases h with
    | refused hask => cases (hnext _).symm.trans hask
    | idle hask => cases (hnext _).symm.trans hask
    | failed hask hperform =>
      obtain rfl := Option.some.inj (Except.ok.inj ((hnext _).symm.trans hask))
      exact hperform
    | acted hask hperform hend =>
      obtain rfl := Option.some.inj (Except.ok.inj ((hnext _).symm.trans hask))
      cases hend
      exact hperform
  · have hnext : (deleteStage p).next w.files = .ok none := by
      simp [deleteStage, hd]
    rw [if_neg hd]
    cases performs_of_idle h hnext
    rfl

theorem Hookless.performs_produce (hn : job.Hookless) {effects : List Effect}
    {r : Except Failure Unit} (h : Performs shell (job.stages p) w effects r w') :
    job.produce p w = (r, w') := by
  have hidle : ∀ kind t, (job.hookStage p kind).next t = .ok none := fun kind t => by
    rw [hookStage, hn kind]
    rfl
  rw [produce_apply]
  cases performs_of_idle h (hidle _ _) with
  | refused hnext => rw [error_of_map_error hnext]
  | idle hnext =>
    obtain ⟨text, -, h⟩ := text_of_next hnext
    cases h
  | failed hnext hperform =>
    obtain ⟨text, htext, h⟩ := text_of_next hnext
    obtain rfl := Option.some.inj h
    rw [htext]
    dsimp only
    rw [show OutputFile.write p.output text p.force w = _ from hperform]
  | acted hnext hperform hlater =>
    obtain ⟨text, htext, h⟩ := text_of_next hnext
    obtain rfl := Option.some.inj h
    rw [htext]
    dsimp only
    rw [show OutputFile.write p.output text p.force w = _ from hperform]
    exact performs_deleteStage (performs_of_idle hlater (hidle _ _))

/-! ### What a job writes and reads -/

/-- The output path of a job that is not skipped. -/
def target? (job : Job) : Option String :=
  match job.skips, job.plan? with
  | .ok false, .ok p => some p.output
  | _, _ => none

/-- The path at which a job that is not skipped looks for its template. -/
def source? (job : Job) : Option String :=
  match job.skips, job.plan?, job.templatePath with
  | .ok false, .ok p, .ok name => some (Path.join p.folder name)
  | _, _, _ => none

/-- The run of a job without hooks. -/
theorem Hookless.run_eq (hn : job.Hookless) (h₀ : job.context.AtRest) (shell : Shell)
    (w : World) : ((job.run shell w).1, (job.run shell w).2.world) =
      match job.skips, job.plan? with
      | .error f, _ => (.error f, w)
      | .ok true, _ => (.ok .skipped, job.begun w)
      | .ok false, .error f => (.error f, job.begun w)
      | .ok false, .ok p => ((job.produce p (job.begun w)).1.map fun _ => .done p.output,
          (job.produce p (job.begun w)).2) := by
  have hgoes := goes_run shell h₀ w
  generalize job.effects shell w = effects at hgoes
  generalize (job.run shell w).1 = result, (job.run shell w).2.world = w' at hgoes ⊢
  cases hgoes with
  | undecided hskips => rw [hskips]
  | skipped hskips => rw [hskips]
  | planless hskips hplan => rw [hskips, hplan]
  | staged hskips hplan hperforms =>
    rw [hskips, hplan]
    dsimp only
    rw [hn.performs_produce hperforms]

theorem text_congr {t t' : FileTree} {folder : String}
    (h : ∀ name, job.templatePath = .ok name →
      t'.find? (Path.join folder name) = t.find? (Path.join folder name)) :
    job.text folder t' = job.text folder t := by
  unfold text
  cases hname : job.templatePath with
  | error f => rfl
  | ok name =>
    change (do
      let source ← InputFile.textAt t' (Path.join folder name)
      (job.context.render source).1.mapError (.render (.template (Path.join folder name)))) = do
        let source ← InputFile.textAt t (Path.join folder name)
        (job.context.render source).1.mapError (.render (.template (Path.join folder name)))
    rw [InputFile.textAt_congr (h name hname)]

/-- Producing an output fails for its text or for the write, or it is done. -/
inductive Produces (job : Job) (p : Plan) (w : World) : Except Failure Unit → World → Prop
  | textless {f : Failure} : job.text p.folder w.files = .error f →
    Produces job p w (.error f) w
  | unwritten {text : String} {f : Failure} {w' : World} :
    job.text p.folder w.files = .ok text →
    OutputFile.write p.output text p.force w = (.error f, w') → Produces job p w (.error f) w'
  | written {text : String} {w₁ w' : World} {place : Location} :
    job.text p.folder w.files = .ok text →
    OutputFile.write p.output text p.force w = (.ok (), w₁) →
    w.files.Writes p.output place text.toUTF8 w₁.files →
    w'.files = (if p.delete then w₁.files.clear place else w₁.files) →
    Produces job p w (.ok ()) w'

/-- What has been written can be deleted. -/
theorem produces_produce (job : Job) (p : Plan) (w : World) :
    Produces job p w (job.produce p w).1 (job.produce p w).2 := by
  rw [produce_apply]
  cases htext : job.text p.folder w.files with
  | error f => exact .textless htext
  | ok text =>
    dsimp only
    rcases hwrite : OutputFile.write p.output text p.force w with ⟨f | u, w₁⟩
    · exact .unwritten htext hwrite
    · obtain ⟨_, place, -, -, -, -, hwrites⟩ := OutputFile.write_ok hwrite
      dsimp only
      split
      · next hd =>
        rw [OutputFile.delete_of_writes hwrites]
        exact .written htext hwrite hwrites (by rw [if_pos hd])
      · next hd => exact .written htext hwrite hwrites (by rw [if_neg hd])

theorem Produces.result {r : Except Failure Unit} (h : Produces job p w r w') :
    r = (do
      let text ← job.text p.folder w.files
      (OutputFile.write p.output text p.force w).1) := by
  cases h with
  | textless htext => rw [htext]; rfl
  | unwritten htext hwrite => rw [htext]; exact (congrArg Prod.fst hwrite).symm
  | written htext hwrite => rw [htext]; exact (congrArg Prod.fst hwrite).symm

/-- What stands at the place of an output in the end, given what stood there before. -/
def Plan.leaves (p : Plan) (old : Option ByteArray) :
    Except Failure String → Except Failure Unit → Option ByteArray
  | .ok text, .ok () => if p.delete then none else some text.toUTF8
  | _, _ => old

/-- What comes of producing an output does not depend on changes beside it and its template. -/
theorem produce_result (hw : w.files.WellFormed) (hb : Beside places w.files w'.files)
    (hup : ".." ∉ FileTree.namesOf p.output.toList)
    (hapart : ∀ q ∈ places, Apart q (w.files.placeOf p.output))
    (htext : job.text p.folder w'.files = job.text p.folder w.files) :
    (job.produce p w').1 = (job.produce p w).1 := by
  rw [(produces_produce job p w').result, (produces_produce job p w).result, htext]
  exact bind_congr fun text => OutputFile.write_result hw hb hup hapart

section

variable {r : Except Failure Unit} (h : Produces job p w r w') (hw : w.files.WellFormed)
  (hup : ".." ∉ FileTree.namesOf p.output.toList)
include h hw hup

/-- The changes of producing an output: at its place, and on the way to it. -/
theorem Produces.beside : Beside [w.files.placeOf p.output] w.files w'.files := by
  cases h with
  | textless => exact .refl hw _
  | unwritten _ hwrite => exact OutputFile.beside_write hw hup hwrite
  | @written text w₁ _ place _ hwrite hwrites hend =>
    have hwritten := OutputFile.beside_write hw hup hwrite
    obtain rfl := FileTree.eq_placeOf hup hwrites.located
    rw [hend]
    split
    · have hclear := FileTree.Beside.of_clear hwritten.wellFormed hwrites.item
      rw [hwritten.placeOf_eq] at hclear ⊢
      exact (hwritten.trans hclear).mono (by simp)
    · exact hwritten

/-- What stands at the place of an output after it was produced, or was not. -/
theorem Produces.contentAt?_eq : w'.files.contentAt? (w.files.placeOf p.output) =
    p.leaves (w.files.contentAt? (w.files.placeOf p.output)) (job.text p.folder w.files) r := by
  cases h with
  | textless htext =>
    rw [htext]
    rfl
  | unwritten htext hwrite =>
    rw [htext]
    exact (OutputFile.write_error hwrite).2.contentAt?_eq _
  | @written text w₁ _ place htext hwrite hwrites hend =>
    have hwritten := OutputFile.beside_write hw hup hwrite
    obtain rfl := FileTree.eq_placeOf hup hwrites.located
    rw [htext, ← hwritten.placeOf_eq, hend, Plan.leaves]
    split
    · rw [FileTree.contentAt?, hwrites.item?_clear_self]
    · rw [FileTree.contentAt?, hwrites.item]

end

/-! ### The whole job -/

/-- A job without hooks leaves all files alone whatever they are, or it produces an output. -/
theorem Hookless.runs (hn : job.Hookless) (h₀ : job.context.AtRest) (shell : Shell) :
    (job.target? = none ∧ ∃ result, ∀ w, (job.run shell w).1 = result ∧
        (job.run shell w).2.world.files = w.files) ∨
      ∃ p, job.target? = some p.output ∧
        (∀ name, job.templatePath = .ok name → job.source? = some (Path.join p.folder name)) ∧
        ∀ w, (job.run shell w).1 = ((job.produce p (job.begun w)).1.map fun _ => .done p.output) ∧
          (job.run shell w).2.world = (job.produce p (job.begun w)).2 := by
  have hrun := hn.run_eq h₀ shell
  unfold target? source?
  cases hskips : job.skips with
  | error f =>
    simp only [hskips] at hrun
    exact .inl ⟨rfl, .error f, fun w => ⟨(Prod.mk.inj (hrun w)).1,
      congrArg World.files (Prod.mk.inj (hrun w)).2⟩⟩
  | ok skips =>
    cases skips with
    | true =>
      simp only [hskips] at hrun
      exact .inl ⟨rfl, .ok .skipped, fun w => ⟨(Prod.mk.inj (hrun w)).1,
        (congrArg World.files (Prod.mk.inj (hrun w)).2).trans (begun_files job w)⟩⟩
    | false =>
      cases hplan : job.plan? with
      | error f =>
        simp only [hskips, hplan] at hrun
        exact .inl ⟨rfl, .error f, fun w => ⟨(Prod.mk.inj (hrun w)).1,
          (congrArg World.files (Prod.mk.inj (hrun w)).2).trans (begun_files job w)⟩⟩
      | ok p =>
        simp only [hskips, hplan] at hrun
        exact .inr ⟨p, rfl, fun name hname => by rw [hname], fun w => Prod.mk.inj (hrun w)⟩

/-- The place that a job writes to, if it comes to that. -/
def place? (job : Job) (t : FileTree) : Option Location := job.target?.map t.placeOf

section

variable (hn : job.Hookless) (h₀ : job.context.AtRest) (hw : w.files.WellFormed)
  (hup : ∀ path, job.target? = some path → ".." ∉ FileTree.namesOf path.toList)
include hn h₀ hw hup

/-- **A job changes its own place,** and makes folders on the way to it. -/
theorem Hookless.beside_run (shell : Shell) :
    Beside (job.place? w.files).toList w.files (job.run shell w).2.world.files := by
  obtain ⟨htarget, result, hrun⟩ | ⟨p, htarget, -, hrun⟩ := hn.runs h₀ shell
  · rw [(hrun w).2]
    exact .refl hw _
  · have hbeside := (produces_produce job p (job.begun w)).beside
      (by rwa [begun_files]) (hup _ htarget)
    rw [begun_files] at hbeside
    rw [(hrun w).2, place?, htarget]
    exact hbeside

/-- **What a job does, it does whatever has changed beside it:** it ends in the same way, and the
same stands at its place then. -/
theorem Hookless.run_beside (shell : Shell) (hb : Beside places w.files w'.files)
    (hapart : ∀ q, job.place? w.files = some q → ∀ q' ∈ places, Apart q' q)
    (hsource : ∀ path, job.source? = some path → w.files.Avoids path places) :
    (job.run shell w').1 = (job.run shell w).1 ∧ ∀ q, job.place? w.files = some q →
      (job.run shell w').2.world.files.contentAt? q =
        (job.run shell w).2.world.files.contentAt? q := by
  obtain ⟨htarget, result, hrun⟩ | ⟨p, htarget, hsource', hrun⟩ := hn.runs h₀ shell
  · refine ⟨(hrun w').1.trans (hrun w).1.symm, fun q hq => ?_⟩
    rw [place?, htarget] at hq
    cases hq
  have hplace : job.place? w.files = some (w.files.placeOf p.output) := by
    rw [place?, htarget]
    rfl
  have hup := hup _ htarget
  have hapart := hapart _ hplace
  have hb' : Beside places (job.begun w).files (job.begun w').files := by
    rwa [begun_files, begun_files]
  have hw' : (job.begun w).files.WellFormed := by
    rwa [begun_files]
  have htext : job.text p.folder (job.begun w').files = job.text p.folder (job.begun w).files := by
    rw [begun_files, begun_files]
    exact text_congr fun name hname => hb.find?_eq hw (hsource _ (hsource' name hname))
  have hresult := produce_result hw' hb' hup (by rwa [begun_files]) htext
  refine ⟨by rw [(hrun w').1, (hrun w).1, hresult], fun q hq => ?_⟩
  obtain rfl := Option.some.inj (hplace.symm.trans hq)
  have hcontent := (produces_produce job p (job.begun w)).contentAt?_eq hw' hup
  have hcontent' := (produces_produce job p (job.begun w')).contentAt?_eq hb'.wellFormed hup
  rw [hb'.placeOf_eq, htext, hresult, hb'.contentAt?_eq] at hcontent'
  · rw [(hrun w').2, (hrun w).2, ← begun_files job w, hcontent, hcontent']
  · intro hmem
    exact (hapart _ (begun_files job w ▸ hmem)).ne rfl

end

end Job
end MailMerge
