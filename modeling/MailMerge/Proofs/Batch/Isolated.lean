/-
# Rows beside one another

A batch that goes on after failures is compared with its jobs, each run alone on the files
that the batch starts from.  Where no output is another one, an input or a template, nor
lies in one or has one in it (`Batch.Separate`), the jobs end in the batch as they end
alone, and each leaves at its place what it leaves there alone (`Batch.Isolated`).  None of them
may break down: the batch would end with it.

A template path must not lead back with `..` through a folder that is missing: another row
may make the folder, and then there is a template that the row alone does not find.
-/

import MailMerge.Proofs.Batch.Preserve
import MailMerge.Proofs.Job.Beside

namespace MailMerge

open FileTree (Beside Apart)

theorem FileTree.Beside.place?_eq {places : List Location} {t t' : FileTree}
    (h : Beside places t t') (job : Job) : job.place? t' = job.place? t := by
  rw [Job.place?, Job.place?, funext h.placeOf_eq]

namespace Batch

variable {shell : Shell} {books : WorkbookReader} {env : Environment} {config : Config}

/-! ### The jobs of a batch -/

/-- The jobs of the rows of a sheet. -/
def jobsOf (env : Environment) (config : Config) (input : String) (sheet : Sheet) : List Job :=
  sheet.records.mapIdx fun row cells => Job.ofRow env config input row cells

/-- The jobs of input files, up to the first file that holds no sheet. -/
def jobsIn (books : WorkbookReader) (env : Environment) (config : Config) (t : FileTree)
    (inputs : List String) : List Job :=
  inputs.foldr (fun input rest =>
    match InputFile.sheetAt books t input config.layout with
    | .ok sheet => jobsOf env config input sheet ++ rest
    | .error _ => []) []

/-- Why the first input file that holds no sheet holds none. -/
def sheetless? (books : WorkbookReader) (config : Config) (t : FileTree) (inputs : List String) :
    Option Failure :=
  inputs.findSome? fun input =>
    match InputFile.sheetAt books t input config.layout with
    | .ok _ => none
    | .error e => some e

/-- The jobs of a batch: none, if an input file is refused. -/
def jobs (books : WorkbookReader) (env : Environment) (config : Config) (t : FileTree) :
    List Job :=
  match refusal? t config.inputs with
  | some _ => []
  | none => jobsIn books env config t config.inputs

/-- What keeps a batch from reaching all rows. -/
def stop? (books : WorkbookReader) (config : Config) (t : FileTree) : Option Failure :=
  (refusal? t config.inputs).or (sheetless? books config t config.inputs)

/-- The places that jobs write to. -/
def places (t : FileTree) (jobs : List Job) : List Location := jobs.filterMap (Job.place? · t)

theorem places_append (t : FileTree) (as bs : List Job) :
    places t (as ++ bs) = places t as ++ places t bs := List.filterMap_append

theorem mem_places {t : FileTree} {jobs : List Job} {p : Location} :
    p ∈ places t jobs ↔ ∃ job ∈ jobs, job.place? t = some p := List.mem_filterMap

theorem places_singleton (t : FileTree) (job : Job) : places t [job] = (job.place? t).toList := by
  rw [places, List.filterMap_cons]
  cases job.place? t <;> rfl

/-- Jobs that have no hooks and keep out of each other's way on a tree. -/
structure Separate (t : FileTree) (jobs : List Job) : Prop where
  hookless : ∀ job ∈ jobs, job.Hookless
  /-- No output path has `..` on it. -/
  straight : ∀ job ∈ jobs, ∀ path ∈ job.target?, ".." ∉ FileTree.namesOf path.toList
  /-- No output is another one or lies in it. -/
  apart : jobs.Pairwise fun job job' => ∀ p ∈ job.place? t, ∀ q ∈ job'.place? t, Apart p q
  /-- No output is a template, lies in one, or has one in it. -/
  sources : ∀ job ∈ jobs, ∀ path ∈ job.source?, t.Avoids path (places t jobs)

instance (t : FileTree) (jobs : List Job) : Decidable (Separate t jobs) :=
  decidable_of_iff ((∀ job ∈ jobs, job.Hookless) ∧
    (∀ job ∈ jobs, ∀ path ∈ job.target?, ".." ∉ FileTree.namesOf path.toList) ∧
    (jobs.Pairwise fun job job' => ∀ p ∈ job.place? t, ∀ q ∈ job'.place? t, Apart p q) ∧
    ∀ job ∈ jobs, ∀ path ∈ job.source?, t.Avoids path (places t jobs))
    ⟨fun ⟨hn, hup, hapart, hsource⟩ => ⟨hn, hup, hapart, hsource⟩,
      fun h => ⟨h.hookless, h.straight, h.apart, h.sources⟩⟩

theorem Separate.sublist {t : FileTree} {jobs jobs' : List Job} (h : Separate t jobs)
    (hsub : jobs'.Sublist jobs) : Separate t jobs' where
  hookless job hjob := h.hookless job (hsub.subset hjob)
  straight job hjob := h.straight job (hsub.subset hjob)
  apart := h.apart.sublist hsub
  sources job hjob path hpath :=
    (h.sources job (hsub.subset hjob) path hpath).mono (hsub.filterMap _).subset

/-! ### Steps -/

section

variable {w w' : World} {past later : List Job} {job : Job}
  (hsep : Separate w.files (past ++ job :: later))
include hsep

/-- A job behind others, in files that these have changed. -/
theorem Separate.run_beside (h₀ : job.context.AtRest) (hw : w.files.WellFormed) (shell : Shell)
    (hb : Beside (places w.files past) w.files w'.files) :
    (job.run shell w').1 = (job.run shell w).1 ∧
      (∀ p, job.place? w.files = some p → (job.run shell w').2.world.files.contentAt? p =
        (job.run shell w).2.world.files.contentAt? p) ∧
      Beside (places w.files [job]) w'.files (job.run shell w').2.world.files := by
  have hmem : job ∈ past ++ job :: later := by simp
  have hn := hsep.hookless job hmem
  have hup := hsep.straight job hmem
  have hpast := (List.pairwise_append.1 hsep.apart).2.2
  have hown := hn.beside_run h₀ hb.wellFormed hup shell
  rw [hb.place?_eq, ← places_singleton] at hown
  obtain ⟨hend, hcontent⟩ := hn.run_beside h₀ hw hup shell hb
    (fun p hp q hq => by
      obtain ⟨job', hjob', hplace⟩ := mem_places.1 hq
      exact hpast job' hjob' job List.mem_cons_self q hplace p hp)
    (fun path hpath => (hsep.sources job hmem path hpath).mono (by
      rw [places_append]
      exact List.subset_append_left _ _))
  exact ⟨hend, hcontent, hown⟩

/-- The jobs behind a job keep off its place. -/
theorem Separate.notMem_later {p : Location} (hp : job.place? w.files = some p) :
    p ∉ places w.files later := by
  intro hmem
  obtain ⟨job', hjob', hplace⟩ := mem_places.1 hmem
  have hlater := List.rel_of_pairwise_cons (List.pairwise_append.1 hsep.apart).2.1 hjob'
  exact (hlater p hp p hplace).ne rfl

end

/-- **The run of steps beside one another:** from the files `t`, in which jobs `past` have changed
the files of `w`, each job ends as it does from `w`. -/
theorem ends_steps {w : World} (hw : w.files.WellFormed) {steps : List Step} {t t' : FileTree}
    (h : Chained shell t steps t') (past : List Job)
    (hsep : Separate w.files (past ++ steps.filterMap Step.job?))
    (hrest : ∀ job ∈ steps.filterMap Step.job?, job.context.AtRest)
    (hb : Beside (places w.files past) w.files t) :
    steps.filterMap (Step.end? shell) =
        ((steps.filterMap Step.job?).map fun job => (job.run shell w).1) ∧
      Beside (places w.files (steps.filterMap Step.job?)) t t' ∧
      ∀ job ∈ steps.filterMap Step.job?, ∀ p, job.place? w.files = some p →
        t'.contentAt? p = (job.run shell w).2.world.files.contentAt? p := by
  -- each job attempted joins those that the rest of the steps stands behind
  induction steps generalizing t past with
  | nil =>
    obtain rfl : t' = t := h
    exact ⟨rfl, .refl hb.wellFormed _, by simp⟩
  | cons step steps ih =>
    obtain ⟨rfl, h⟩ := h
    cases step with
    | opened input w' => exact ih h past hsep hrest hb
    | attempted job w' =>
      have hcons : (Step.attempted job w' :: steps).filterMap Step.job? =
          job :: steps.filterMap Step.job? := rfl
      rw [hcons] at hsep hrest ⊢
      obtain ⟨hjob, hlater⟩ := List.forall_mem_cons.1 hrest
      obtain ⟨hend, hcontent, hown⟩ := hsep.run_beside hjob hw shell hb
      have hdone : Beside (places w.files (past ++ [job])) w.files
          (job.run shell w').2.world.files := by
        rw [places_append]
        exact hb.trans hown
      obtain ⟨hends, hbeside, hcontents⟩ := ih h _ (List.append_cons .. ▸ hsep) hlater hdone
      refine ⟨?_, ?_, List.forall_mem_cons.2 ⟨fun p hp => ?_, hcontents⟩⟩
      · rw [List.map_cons, ← hend, ← hends]
        rfl
      · rw [← List.singleton_append, places_append]
        exact hown.trans hbeside
      · exact (hbeside.contentAt?_eq (hsep.notMem_later hp)).trans (hcontent p hp)

/-- Where the jobs end as they do alone and none breaks down alone, none breaks down. -/
theorem ends_of_alone {w : World} {steps : List Step} {jobs : List Job}
    (h : steps.filterMap (Step.end? shell) = jobs.map fun job => (job.run shell w).1)
    (hjobs : ∀ job ∈ jobs, (Step.attempted job w).Ends shell) :
    ∀ step ∈ steps, step.Ends shell := by
  intro step hstep
  cases step with
  | opened => exact nofun
  | attempted job w' =>
    have hend : (job.run shell w').1 ∈ steps.filterMap (Step.end? shell) :=
      List.mem_filterMap.2 ⟨_, hstep, rfl⟩
    rw [h] at hend
    obtain ⟨job', hjob', heq⟩ := List.mem_map.1 hend
    refine Step.ends_attempted_iff.2 fun f hf => ?_
    exact Step.ends_attempted_iff.1 (hjobs job' hjob') f (heq.trans hf)

/-- The rows of an input file are attempted in order, as far as it goes. -/
theorem jobs_tracedRows (shell : Shell) (env : Environment) (config : Config) (input : String)
    (row : Nat) (rows : List (Dict Value)) (r : Report) (w : World) :
    (tracedRows shell env config input row rows r w).steps.filterMap Step.job? <+:
      rows.mapIdx fun i cells => Job.ofRow env config input (row + i) cells := by
  induction rows generalizing row r w with
  | nil => exact List.nil_prefix
  | cons cells rest ih =>
    rw [mapIdx_ofRow_cons, tracedRows]
    cases hrow : (tracedRow shell env config input row cells r w).result with
    | error e =>
      rw [Traced.bind_error hrow]
      exact List.prefix_append [Job.ofRow env config input row cells] _
    | ok r' =>
      rw [Traced.bind_ok hrow, List.filterMap_append]
      exact (List.prefix_append_right_inj [Job.ofRow env config input row cells]).2 (ih _ r' _)

/-! ### Input files -/

theorem find?_of_refusal? {t : FileTree} {inputs : List String} (h : refusal? t inputs = none) :
    ∀ input ∈ inputs, ∃ content, t.find? input = some (.file content) := by
  intro input hinput
  have hok := List.findSome?_eq_none_iff.1 h input hinput
  rw [InputFile.refusal?, Option.map_eq_none_iff] at hok
  unfold InputFile.fault? at hok
  split at hok
  · cases hok
  · cases hok
  · next content hfind => exact ⟨content, hfind⟩

/-- What a path leads to decides which sheet it gives. -/
theorem sheetAt_congr {t t' : FileTree} {path : String} (books : WorkbookReader)
    (layout : SheetLayout) {content : ByteArray} (hfile : t.find? path = some (.file content))
    (h : t'.find? path = t.find? path) :
    InputFile.sheetAt books t' path layout = InputFile.sheetAt books t path layout := by
  rw [InputFile.sheetAt, InputFile.sheetAt, InputFile.rawRows, InputFile.rawRows,
    InputFile.read_of_find? hfile, InputFile.read_of_find? (h.trans hfile)]

/-- An input file without a sheet ends the batch. -/
theorem tracedInput_error (shell : Shell) (env : Environment) {input : String} {w : World}
    {e : Failure} (hsheet : InputFile.sheetAt books w.files input config.layout = .error e)
    (r : Report) :
    ∃ w₁, tracedInput shell books env config input r w = ⟨[.opened input w], .error e, w₁⟩ := by
  obtain ⟨es, hread⟩ := InputFile.readSheet_apply books input config.layout w
  rw [hsheet] at hread
  exact ⟨_, by rw [tracedInput, Traced.bind_error (congrArg Prod.fst hread)]; rfl⟩

section

variable {w : World} (hw : w.files.WellFormed) (hgoesOn : config.continueOnError = true)
  (hv : (Value.map config.vars).InOrder)
include hw hgoesOn hv

/-- The jobs of an input file behind other jobs: they change files beside those of the others. -/
theorem beside_tracedInput {input : String} {sheet : Sheet} {past : List Job}
    {w' : World} (hsheet : InputFile.sheetAt books w'.files input config.layout = .ok sheet)
    (hsep : Separate w.files (past ++ jobsOf env config input sheet))
    (halone : ∀ job ∈ jobsOf env config input sheet, (Step.attempted job w).Ends shell)
    (hb : Beside (places w.files past) w.files w'.files) (r : Report) :
    let t := tracedInput shell books env config input r w'
    t.steps.filterMap Step.job? = jobsOf env config input sheet ∧
      t.result = .ok (tally r (t.steps.filterMap (Step.end? shell))) ∧
      Beside (places w.files (past ++ jobsOf env config input sheet)) w.files t.world.files := by
  obtain ⟨w₁, hw₁, hinput⟩ := tracedInput_eq shell env hsheet r
  have hchained : Chained shell w₁.files
      (tracedRows shell env config input 0 sheet.records r w₁).steps _ :=
    (composes_changesBySteps shell books env config).rows input 0 sheet.records r w₁
  -- whatever is attempted is among the jobs, so it ends as it does alone
  have hattempted := jobs_tracedRows shell env config input 0 sheet.records r w₁
  simp only [Nat.zero_add] at hattempted
  obtain ⟨hends, hbeside, -⟩ := ends_steps hw hchained past
    (hsep.sublist ((List.append_sublist_append_left past).2 hattempted.sublist))
    (fun job hjob => by
      obtain ⟨row, hrow, rfl⟩ := List.mem_mapIdx.1 (hattempted.subset hjob)
      exact Job.atRest_ofRow env input row hv
        (InputFile.inOrder_records hsheet _ (List.getElem_mem hrow)))
    (hw₁ ▸ hb)
  obtain ⟨hrows, -, hjobs⟩ := tracedRows_complete hgoesOn input 0 sheet.records r w₁
    (ends_of_alone hends fun job hjob => halone job (hattempted.subset hjob))
  simp only [Nat.zero_add] at hjobs
  rw [hinput]
  refine ⟨hjobs, hrows, ?_⟩
  rw [places_append, jobsOf, ← hjobs]
  exact hb.trans (hw₁ ▸ hbeside)

/-- **The input files are read as they were,** and their rows attempted, up to the first that holds
no sheet. -/
theorem tracedInputs_separate {inputs : List String} (past : List Job) {w' : World}
    (hfiles : ∀ input ∈ inputs, ∃ content, w.files.find? input = some (.file content))
    (hsep : Separate w.files (past ++ jobsIn books env config w.files inputs))
    (halone : ∀ job ∈ jobsIn books env config w.files inputs, (Step.attempted job w).Ends shell)
    (havoids : ∀ input ∈ inputs,
      w.files.Avoids input (places w.files (past ++ jobsIn books env config w.files inputs)))
    (hb : Beside (places w.files past) w.files w'.files) (r : Report) :
    let t := tracedInputs shell books env config inputs r w'
    t.steps.filterMap Step.job? = jobsIn books env config w.files inputs ∧
      t.result = match sheetless? books config w.files inputs with
        | some e => .error e
        | none => .ok (tally r (t.steps.filterMap (Step.end? shell))) := by
  induction inputs generalizing past r w' with
  | nil => exact ⟨rfl, rfl⟩
  | cons input rest ih =>
    obtain ⟨content, hfile⟩ := hfiles input List.mem_cons_self
    have hfind := hb.find?_eq hw ((havoids input List.mem_cons_self).mono (by
      rw [places_append]
      exact List.subset_append_left _ _))
    have hsheet := sheetAt_congr books config.layout hfile hfind
    rw [jobsIn, List.foldr_cons, ← jobsIn] at hsep halone havoids ⊢
    rw [sheetless?, List.findSome?_cons, ← sheetless?]
    cases hinitial : InputFile.sheetAt books w.files input config.layout with
    | error e =>
      obtain ⟨w₁, hinput⟩ := tracedInput_error shell env (hsheet.trans hinitial) r
      rw [tracedInputs, Traced.bind_error (congrArg Trace.result hinput), hinput]
      exact ⟨rfl, rfl⟩
    | ok sheet =>
      rw [hinitial] at hsep halone havoids
      dsimp only at hsep halone havoids ⊢
      rw [← List.append_assoc] at hsep havoids
      obtain ⟨halone, hlater⟩ := List.forall_mem_append.1 halone
      obtain ⟨hjobs, hresult, hdone⟩ := beside_tracedInput hw hgoesOn hv
        (hsheet.trans hinitial) (hsep.sublist (List.sublist_append_left _ _)) halone hb r
      obtain ⟨hjobs', hresult'⟩ := ih _
        (fun input hmem => hfiles input (List.mem_cons_of_mem _ hmem)) hsep hlater
        (fun input hmem => havoids input (List.mem_cons_of_mem _ hmem)) hdone
        (tally r ((tracedInput shell books env config input r w').steps.filterMap (Step.end? shell)))
      rw [tracedInputs, Traced.bind_ok hresult]
      dsimp only
      rw [List.filterMap_append, List.filterMap_append, hjobs, hjobs', tally_append]
      exact ⟨rfl, hresult'⟩

end

/-! ### The whole batch -/

/-- A batch whose input files are accepted does what its input files call for. -/
theorem traced_of_accepted (shell : Shell) (books : WorkbookReader) (env : Environment) {w : World}
    (h : refusal? w.files config.inputs = none) :
    let t := tracedInputs shell books env config config.inputs {} w
    (traced shell books env config w).steps = t.steps ∧
      (traced shell books env config w).result = t.result := by
  have hcheck : Traced.lift (checkInputs config.inputs) w = ⟨[], .ok (), w⟩ := by
    rw [Traced.lift, checkInputs_apply, h]
  rw [traced, Traced.bind_ok (congrArg Trace.result hcheck), hcheck]
  cases hresult : (tracedInputs shell books env config config.inputs {} w).result with
  | error e =>
    rw [Traced.bind_error hresult]
    exact ⟨rfl, hresult ▸ rfl⟩
  | ok r =>
    rw [Traced.bind_ok hresult]
    exact ⟨List.append_nil _, hresult ▸ rfl⟩

/-- **The batch attempts its jobs,** and comes to an end as its input files allow. -/
theorem traced_separate (shell : Shell) {w : World} (hw : w.files.WellFormed)
    (hgoesOn : config.continueOnError = true) (hv : (Value.map config.vars).InOrder)
    (hsep : Separate w.files (jobs books env config w.files))
    (halone : ∀ job ∈ jobs books env config w.files, (Step.attempted job w).Ends shell)
    (hinputs : ∀ input ∈ config.inputs, ∀ place ∈ (w.files.locate input).toOption,
      ∀ p ∈ places w.files (jobs books env config w.files), Apart p place) :
    (traced shell books env config w).steps.filterMap Step.job? = jobs books env config w.files ∧
      (traced shell books env config w).result = match stop? books config w.files with
        | some e => .error e
        | none => .ok
          (tally {} ((traced shell books env config w).steps.filterMap (Step.end? shell))) := by
  unfold jobs at hsep halone hinputs ⊢
  unfold stop?
  cases hrefusal : refusal? w.files config.inputs with
  | some e =>
    obtain ⟨hrefused, hnone⟩ := (accounts_run shell books env config w).refused e hrefusal
    rw [hnone]
    exact ⟨rfl, congrArg Prod.fst ((traces_traced shell books env config w).symm.trans hrefused)⟩
  | none =>
    -- all input files are checked before the first is read, so each is there to be found
    rw [hrefusal] at hsep halone hinputs
    obtain ⟨hsteps, hresult⟩ := traced_of_accepted shell books env hrefusal
    have hfiles := find?_of_refusal? hrefusal
    rw [hsteps, hresult, Option.none_or]
    refine tracedInputs_separate hw hgoesOn hv [] hfiles hsep halone (fun input hmem => ?_)
      (.refl hw _) {}
    obtain ⟨content, hfind⟩ := hfiles input hmem
    obtain ⟨place, hl, -⟩ := FileTree.item?_of_find? hfind
    have hplace : place ∈ (w.files.locate input).toOption := by
      rw [hl]
      rfl
    exact .inr (.inl ⟨place, hplace, hinputs input hmem place hplace⟩)

/-- The rows of a batch do not come to each other's notice. -/
structure Isolated (shell : Shell) (books : WorkbookReader) (env : Environment) (config : Config)
    (w : World) : Prop where
  /-- The jobs of the rows are attempted in order. -/
  attempts : (traced shell books env config w).steps.filterMap Step.job? = jobs books env config w.files
  /-- Each job ends as it does when it runs alone. -/
  ends : (traced shell books env config w).steps.filterMap (Step.end? shell) =
    (jobs books env config w.files).map fun job => (job.run shell w).1
  /-- The report counts how the jobs end alone, unless an input file ends the batch. -/
  result : (run shell books env config w).1 = match stop? books config w.files with
    | some e => .error e
    | none => .ok (tally {} ((jobs books env config w.files).map fun job => (job.run shell w).1))
  /-- At the place of a job stands what the job leaves there when it runs alone. -/
  own : ∀ job ∈ jobs books env config w.files, ∀ p ∈ job.place? w.files,
    (run shell books env config w).2.files.contentAt? p =
      (job.run shell w).2.world.files.contentAt? p
  /-- No other regular file is new or different. -/
  others : ∀ p ∉ places w.files (jobs books env config w.files),
    (run shell books env config w).2.files.contentAt? p = w.files.contentAt? p

/-- **Rows that keep out of each other's way are isolated,** if none of them breaks down. -/
theorem isolated_run (shell : Shell) (books : WorkbookReader) (env : Environment)
    (config : Config) (w : World) (hw : w.files.WellFormed) (hv : (Value.map config.vars).InOrder)
    (hgoesOn : config.continueOnError = true)
    (hsep : Separate w.files (jobs books env config w.files))
    (halone : ∀ job ∈ jobs books env config w.files, (Step.attempted job w).Ends shell)
    (hinputs : ∀ input ∈ config.inputs, ∀ place ∈ (w.files.locate input).toOption,
      ∀ p ∈ places w.files (jobs books env config w.files), Apart p place) :
    Isolated shell books env config w := by
  have hrun := traces_traced shell books env config w
  obtain ⟨hattempts, hresult⟩ := traced_separate shell hw hgoesOn hv hsep halone hinputs
  obtain ⟨hends, hbeside, hown⟩ := ends_steps hw (changesBySteps_traced shell books env config w)
    [] (by rwa [hattempts])
    (fun job hjob => by
      obtain ⟨step, hstep, hjob⟩ := List.mem_filterMap.1 hjob
      exact atRest_traced shell books env hv w step hstep job hjob)
    (.refl hw _)
  rw [hattempts] at hends hbeside hown
  rw [hends] at hresult
  exact {
    attempts := hattempts
    ends := hends
    result := by rw [hrun, hresult]
    own := fun job hjob p hp => by
      rw [hrun]
      exact hown job hjob p hp
    others := fun p hp => by
      rw [hrun]
      exact hbeside.contentAt?_eq hp }

/-- One row is written in a folder made for it, and another one finds a file at its place. -/
theorem isolated_run_pair :
    let shell : Shell := fun _ t => ⟨some 0, "", t⟩
    let config : Config := { Config.ofPaths "/letter" "/{{ name }}/letter" with
      inputs := ["/list.csv"], continueOnError := true }
    let w : World := { files := { items := [(["letter"], .file "Dear {{ name }}".toUTF8),
      (["list.csv"], .file "name\nAnn\nBob\n".toUTF8), (["Bob"], .folder),
      (["Bob", "letter"], .file "old".toUTF8)] } }
    (run shell .none {} config w).1 = .ok { done := 1, failed := 1 } ∧
      Isolated shell .none {} config w := by
  intro shell config w
  have hw : w.files.WellFormed := by
    refine .of_items rfl fun p hp => ?_
    simp only [w, List.mem_cons, List.not_mem_nil, or_false] at hp
    rcases hp with rfl | rfl | rfl | rfl <;> rfl
  exact ⟨by decide +kernel, isolated_run shell .none {} config w hw (by decide) rfl
    (by decide +kernel) (by decide +kernel) (by decide +kernel)⟩

/-- A way back out of a folder that another row makes: all outputs lie apart from each other, from
the input and from the templates that are read, but the second row does not find its template
when it runs alone. -/
theorem ends_ne_alone_of_back :
    let shell : Shell := fun _ t => ⟨some 0, "", t⟩
    let config : Config := { Config.ofPaths "{{ t }}" "/out/{{ name }}" with
      inputs := ["/list.csv"], continueOnError := true }
    let w : World := { files := { items := [(["page"], .file "x".toUTF8),
      (["list.csv"], .file "name,t\na,page\nb,out/../page\n".toUTF8)] } }
    let steps := (traced shell .none {} config w).steps
    let rows := jobs .none {} config w.files
    w.files.WellFormed ∧ (Value.map config.vars).InOrder ∧ config.continueOnError = true ∧
      (∀ job ∈ rows, job.Hookless) ∧
      (∀ job ∈ rows, ∀ path ∈ job.target?, ".." ∉ FileTree.namesOf path.toList) ∧
      (rows.Pairwise fun job job' =>
        ∀ p ∈ job.place? w.files, ∀ q ∈ job'.place? w.files, Apart p q) ∧
      (∀ input ∈ config.inputs, ∀ place ∈ (w.files.locate input).toOption,
        ∀ p ∈ places w.files rows, Apart p place) ∧
      (∀ step ∈ steps, ∀ job ∈ step.job?, ∀ path ∈ job.source?,
        ∃ place ∈ (step.before.files.locate path).toOption,
          ∀ p ∈ places w.files rows, Apart p place) ∧
      steps.filterMap (Step.end? shell) = [.ok (.done "/out/a"), .ok (.done "/out/b")] ∧
      (rows.map fun job => (job.run shell w).1) =
        [.ok (.done "/out/a"), .error (.input "/out/../page" .missing)] := by
  intro shell config w steps rows
  have hw : w.files.WellFormed := by
    refine .of_items rfl fun p hp => ?_
    simp only [w, List.mem_cons, List.not_mem_nil, or_false] at hp
    rcases hp with rfl | rfl <;> rfl
  exact ⟨hw, by decide, rfl, by decide +kernel⟩

end Batch
end MailMerge
