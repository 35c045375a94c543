/-
# What a batch without force preserves

A careful job has no hooks, does not replace files, and has no `..` on the path of its
output.  It changes no regular file that it finds: at most it makes one more, where
nothing stood (`Job.Careful.step`).  So whatever happens in a batch of careful jobs, all
files that were there before stay as they were, and each job that ends with an output has
made a file of its own, which no later job replaces.
-/

import MailMerge.Proofs.Batch.Accounting
import MailMerge.Proofs.Job.Staged
import MailMerge.Proofs.OutputFile.Guard

namespace MailMerge

namespace Job

variable {shell : Shell} {job : Job} {w : World}

/-- A job without hooks that does not replace files and whose output path has no `..` on it. -/
structure Careful (job : Job) : Prop where
  hookless : job.Hookless
  plan : ∀ p, job.plan? = .ok p → p.force = false ∧ ".." ∉ FileTree.namesOf p.output.toList

instance (job : Job) : Decidable job.Hookless :=
  decidable_of_iff (job.command .pre = .ok none ∧ job.command .post = .ok none)
    ⟨fun h kind => by cases kind <;> simp [h], fun h => ⟨h .pre, h .post⟩⟩

instance (job : Job) : Decidable job.Careful :=
  decidable_of_iff (job.Hookless ∧ ∀ p ∈ job.plan?.toOption,
      p.force = false ∧ ".." ∉ FileTree.namesOf p.output.toList) <| by
    refine ⟨fun h => ⟨h.1, fun p hp => h.2 p (by rw [hp]; rfl)⟩, fun h => ⟨h.hookless, ?_⟩⟩
    intro p hp
    cases hplan : job.plan? with
    | error f =>
      rw [hplan] at hp
      cases hp
    | ok p' =>
      rw [hplan] at hp
      obtain rfl := Option.some.inj hp
      exact h.plan p' hplan

/-- A job that began in the world `w` is done, and the files `t` hold its text at the place of its
output. -/
def Made (shell : Shell) (job : Job) (w : World) (t : FileTree) (place : Location) : Prop :=
  ∃ p text, job.plan? = .ok p ∧ (job.run shell w).1 = .ok (.done p.output) ∧
    (job.run shell w).2.world.files.locate p.output = .ok place ∧
    job.text p.folder w.files = .ok text ∧ t.contentAt? place = some text.toUTF8

theorem Made.mono {t t' : FileTree} {place : Location} (h : job.Made shell w t place)
    (hkeeps : ∀ q content, t.contentAt? q = some content → t'.contentAt? q = some content) :
    job.Made shell w t' place := by
  obtain ⟨p, text, hp, hdone, hlocate, htext, hcontent⟩ := h
  exact ⟨p, text, hp, hdone, hlocate, htext, hkeeps place _ hcontent⟩

/-- **The step of a careful job:** it leaves every regular file as it was, or it is done and has
put one where nothing stood. -/
theorem Careful.step (h : job.Careful) {effects : List Effect} {result : Except Failure Outcome}
    {w' : World} (hgoes : Goes shell job w effects result w') (hw : w.files.WellFormed) :
    w'.files.WellFormed ∧
      ((∀ path, result ≠ .ok (.done path)) ∧
          (∀ q, w'.files.contentAt? q = w.files.contentAt? q) ∨
        ∃ p place text, job.plan? = .ok p ∧ result = .ok (.done p.output) ∧
          job.text p.folder w.files = .ok text ∧ w'.files.locate p.output = .ok place ∧
          w.files.item? place = none ∧
          w'.files.item? place = (if p.delete then none else some (.file text.toUTF8)) ∧
          ∀ q, q ≠ place → w'.files.contentAt? q = w.files.contentAt? q) := by
  have hbegun := begun_files job w
  cases hgoes with
  | undecided => exact ⟨hw, .inl ⟨by simp, fun _ => rfl⟩⟩
  | skipped => exact ⟨hbegun ▸ hw, .inl ⟨by simp, fun _ => by rw [hbegun]⟩⟩
  | planless => exact ⟨hbegun ▸ hw, .inl ⟨by simp, fun _ => by rw [hbegun]⟩⟩
  | @staged p _ _ _ _ hp hperforms =>
    rcases h.hookless.performs hperforms with ⟨⟨f, rfl⟩, hgrows⟩ | ⟨rfl, text, w₁, htext, hw₁, rfl⟩
    · rw [hbegun] at hgrows
      refine ⟨hgrows.wellFormed hw, .inl ⟨?_, hgrows.contentAt?_eq⟩⟩
      intro path hpath
      cases hpath
    · obtain ⟨hforce, hup⟩ := h.plan p hp
      rw [hforce] at hw₁
      obtain ⟨place, hempty, hwrites⟩ := OutputFile.item?_of_write_charted (hbegun ▸ hw)
        (FileTree.charted_of_notMem hup) hw₁
      rw [hbegun] at hempty hwrites htext
      by_cases hd : p.delete = true
      · rw [if_pos hd, OutputFile.delete_of_writes hwrites]
        refine ⟨(hwrites.wellFormed hw).clear hwrites.item, .inr ⟨p, place, text, hp, rfl, htext,
          hwrites.locate_clear, hempty, ?_, fun q => hwrites.contentAt?_clear⟩⟩
        rw [if_pos hd]
        exact hwrites.item?_clear_self
      · rw [if_neg hd]
        refine ⟨hwrites.wellFormed hw, .inr ⟨p, place, text, hp, rfl, htext, hwrites.located,
          hempty, ?_, hwrites.elsewhere⟩⟩
        rw [if_neg hd]
        exact hwrites.item

end Job

namespace FileTree

/-- From one tree to a later one: every regular file stays as it is, and there are new ones at the
places that are listed. -/
structure Adds (t t' : FileTree) (places : List Location) : Prop where
  keeps : ∀ q content, t.contentAt? q = some content → t'.contentAt? q = some content
  nodup : places.Nodup
  mem : ∀ q, q ∈ places ↔ t.contentAt? q = none ∧ t'.contentAt? q ≠ none

namespace Adds

variable {t t' t'' : FileTree} {places places' : List Location}

theorem of_eq (h : ∀ q, t'.contentAt? q = t.contentAt? q) : Adds t t' [] where
  keeps q content hq := (h q).trans hq
  nodup := .nil
  mem q := by simp [h q]

/-- One new file, where there was none. -/
theorem single {place : Location} {content : ByteArray} (hnone : t.contentAt? place = none)
    (hnew : t'.contentAt? place = some content)
    (hsame : ∀ q, q ≠ place → t'.contentAt? q = t.contentAt? q) : Adds t t' [place] where
  keeps q c hq := (hsame q fun he => by rw [he, hnone] at hq; cases hq).trans hq
  nodup := List.nodup_singleton place
  mem q := by
    rw [List.mem_singleton]
    by_cases hq : q = place
    · simp [hq, hnone, hnew]
    · simp [hq, hsame q hq]

theorem trans (h : Adds t t' places) (h' : Adds t' t'' places') :
    Adds t t'' (places ++ places') where
  keeps q content hq := h'.keeps q content (h.keeps q content hq)
  nodup := List.nodup_append.2 ⟨h.nodup, h'.nodup, fun q hq q' hq' he =>
    ((h.mem q).1 hq).2 ((h'.mem q).1 (he ▸ hq')).1⟩
  mem q := by
    rw [List.mem_append, h.mem, h'.mem]
    cases ht : t.contentAt? q with
    | some content => simp [h.keeps q content ht]
    | none =>
      cases ht' : t'.contentAt? q with
      | some content => simp [h'.keeps q content ht']
      | none => simp

end Adds
end FileTree

namespace Batch

variable {shell : Shell} {books : WorkbookReader} {env : Environment} {config : Config}

/-! ### Steps that are careful -/

/-- A step whose job, if it has one, is careful and in a context at rest. -/
def Step.Careful (step : Step) : Prop :=
  ∀ job ∈ step.job?, job.Careful ∧ job.context.AtRest

/-- A step whose job, if it has one, does not delete its output. -/
def Step.Stays (step : Step) : Prop :=
  ∀ job ∈ step.job?, ∀ p, job.plan? = .ok p → p.delete = false

/-- The job of a step that is done, and the world it found. -/
def Step.done? (shell : Shell) : Step → Option (Job × World)
  | .opened _ _ => none
  | .attempted job w => if isDone (job.run shell w).1 then some (job, w) else none

/-- A careful step changes no regular file that was there. -/
theorem keeps_step (shell : Shell) {step : Step} (hstep : step.Careful)
    (hw : step.before.files.WellFormed) :
    (step.after shell).files.WellFormed ∧ ∀ q content,
      step.before.files.contentAt? q = some content →
        (step.after shell).files.contentAt? q = some content := by
  cases step with
  | opened input w => exact ⟨hw, fun _ _ h => h⟩
  | attempted job w =>
    obtain ⟨hcareful, h₀⟩ := hstep job rfl
    obtain ⟨hw', ⟨-, hsame⟩ | ⟨p, place, text, -, -, -, -, hempty, -, hsame⟩⟩ :=
      hcareful.step (Job.goes_run shell h₀ w) hw
    · exact ⟨hw', fun q content h => (hsame q).trans h⟩
    · refine ⟨hw', fun q content h => (hsame q ?_).trans h⟩
      rintro rfl
      rw [Step.before, FileTree.contentAt?, hempty] at h
      cases h

/-- **The run of careful steps** keeps every regular file. -/
theorem keeps_steps {steps : List Step} {t t' : FileTree} (h : Chained shell t steps t')
    (hsteps : ∀ step ∈ steps, step.Careful) (hw : t.WellFormed) :
    ∀ q content, t.contentAt? q = some content → t'.contentAt? q = some content := by
  induction steps generalizing t with
  | nil =>
    obtain rfl : t' = t := h
    exact fun _ _ h => h
  | cons step steps ih =>
    obtain ⟨rfl, h⟩ := h
    obtain ⟨hw₁, hkeeps⟩ := keeps_step shell (hsteps step List.mem_cons_self) hw
    exact fun q content hq =>
      ih h (fun s hs => hsteps s (List.mem_cons_of_mem _ hs)) hw₁ q content (hkeeps q content hq)

/-- A careful step whose job does not delete its output adds a file if the job is done. -/
theorem adds_step (shell : Shell) {step : Step} (hstep : step.Careful) (hstays : step.Stays)
    (hw : step.before.files.WellFormed) : ∃ places,
      step.before.files.Adds (step.after shell).files places ∧
        List.Forall₂ (fun d place => d.1.Made shell d.2 (step.after shell).files place)
          ((step.done? shell).toList) places := by
  cases step with
  | opened input w => exact ⟨[], .of_eq fun _ => rfl, .nil⟩
  | attempted job w =>
    obtain ⟨hcareful, h₀⟩ := hstep job rfl
    obtain ⟨-, ⟨hnot, hsame⟩ | ⟨p, place, text, hp, hdone, htext, hlocate, hempty, hitem, hsame⟩⟩ :=
      hcareful.step (Job.goes_run shell h₀ w) hw
    · have hnone : Step.done? shell (.attempted job w) = none := by
        rcases hend : (job.run shell w).1 with f | ⟨path⟩ | _
        · rw [Step.done?, hend]
          rfl
        · exact absurd hend (hnot path)
        · rw [Step.done?, hend]
          rfl
      rw [hnone]
      exact ⟨[], .of_eq hsame, .nil⟩
    · have hsome : Step.done? shell (.attempted job w) = some (job, w) := by
        rw [Step.done?, hdone]
        rfl
      have hnone : w.files.contentAt? place = none := by
        rw [FileTree.contentAt?, hempty]
      have hnew : (job.run shell w).2.world.files.contentAt? place = some text.toUTF8 := by
        rw [FileTree.contentAt?, hitem, hstays job rfl p hp]
        rfl
      rw [hsome]
      exact ⟨[place], .single hnone hnew hsame,
        .cons ⟨p, text, hp, hdone, hlocate, htext, hnew⟩ .nil⟩

/-- **Each job that is done adds one file,** and no later job touches it. -/
theorem adds_steps {steps : List Step} {t t' : FileTree} (h : Chained shell t steps t')
    (hsteps : ∀ step ∈ steps, step.Careful ∧ step.Stays) (hw : t.WellFormed) : ∃ places,
      t.Adds t' places ∧ List.Forall₂ (fun d place => d.1.Made shell d.2 t' place)
        (steps.filterMap (Step.done? shell)) places := by
  induction steps generalizing t with
  | nil =>
    obtain rfl : t' = t := h
    exact ⟨[], .of_eq fun _ => rfl, .nil⟩
  | cons step steps ih =>
    obtain ⟨rfl, h⟩ := h
    obtain ⟨hcareful, hstays⟩ := hsteps step List.mem_cons_self
    obtain ⟨places, hadds, hmade⟩ := adds_step shell hcareful hstays hw
    obtain ⟨places', hadds', hmade'⟩ := ih h (fun s hs => hsteps s (List.mem_cons_of_mem _ hs))
      (keeps_step shell hcareful hw).1
    have hlater : List.Forall₂ (fun d place => d.1.Made shell d.2 t' place)
        (step.done? shell).toList places := hmade.imp fun d place hmade => hmade.mono hadds'.keeps
    have hsplit : (step :: steps).filterMap (Step.done? shell) =
        (step.done? shell).toList ++ steps.filterMap (Step.done? shell) := by
      rw [List.filterMap_cons]
      cases step.done? shell <;> rfl
    exact ⟨places ++ places', hadds.trans hadds', hsplit ▸ List.rel_append hlater hmade'⟩

/-! ### The jobs of a batch -/

/-- All steps of a part of a batch have a property. -/
def AllSteps {α : Type} (q : Step → Prop) (x : Traced α) : Prop := ∀ w, ∀ step ∈ (x w).steps, q step

theorem AllSteps.bind {α β : Type} {q : Step → Prop} {x : Traced α} {f : α → Traced β}
    (hx : AllSteps q x) (hf : ∀ a, (∃ w, (x w).result = .ok a) → AllSteps q (f a)) :
    AllSteps q (x.bind f) := by
  intro w
  cases hr : (x w).result with
  | error e =>
    rw [Traced.bind_error hr]
    exact hx w
  | ok a =>
    rw [Traced.bind_ok hr]
    exact List.forall_mem_append.2 ⟨hx w, hf a ⟨w, hr⟩ _⟩

/-- The jobs of a batch begin with contexts at rest. -/
theorem atRest_traced (shell : Shell) (books : WorkbookReader) (env : Environment)
    (hv : (Value.map config.vars).InOrder) :
    AllSteps (fun step => ∀ job ∈ step.job?, job.context.AtRest)
      (traced shell books env config) := by
  have hrows : ∀ input row (rows : List (Dict Value)) r,
      (∀ cells ∈ rows, (Value.map cells).InOrder) →
      AllSteps (fun step => ∀ job ∈ step.job?, job.context.AtRest)
        (tracedRows shell env config input row rows r) := by
    intro input row rows r hrows
    induction rows generalizing row r with
    | nil => exact fun w => by simp [tracedRows, Traced.lift]
    | cons cells rest ih =>
      refine .bind (fun w step hstep job hjob => ?_) fun r _ =>
        ih _ r fun c hc => hrows c (List.mem_cons_of_mem _ hc)
      obtain rfl := List.mem_singleton.1 hstep
      obtain rfl := Option.some.inj hjob
      exact Job.atRest_ofRow env input row hv (hrows cells List.mem_cons_self)
  have hinputs : ∀ inputs r, AllSteps (fun step => ∀ job ∈ step.job?, job.context.AtRest)
      (tracedInputs shell books env config inputs r) := by
    intro inputs r
    induction inputs generalizing r with
    | nil => exact fun w => by simp [tracedInputs, Traced.lift]
    | cons input rest ih =>
      refine .bind (.bind (fun w step hstep job hjob => ?_) ?_) fun r _ => ih r
      · obtain rfl := List.mem_singleton.1 hstep
        cases hjob
      · rintro sheet ⟨w, hsheet⟩
        refine .bind (fun w => by simp [Traced.lift]) fun _ _ => hrows input 0 sheet.records r ?_
        obtain ⟨es, hread⟩ := InputFile.readSheet_apply books input config.layout w
        exact InputFile.inOrder_records ((congrArg Prod.fst hread).symm.trans hsheet)
  exact .bind (fun w => by simp [Traced.lift]) fun _ _ =>
    .bind (hinputs _ _) fun _ _ w => by simp [Traced.lift]

/-! ### The whole batch -/

/-- What a batch without force preserves and adds. -/
structure Preserves (shell : Shell) (books : WorkbookReader) (env : Environment) (config : Config)
    (w : World) : Prop where
  /-- Every regular file is still there with its content, however the batch ends. -/
  keeps : ∀ q content, w.files.contentAt? q = some content →
    (run shell books env config w).2.files.contentAt? q = some content
  /-- If no job deletes its output, the new regular files belong one to one to the jobs that are
  done, and each holds the text of its own job. -/
  adds : (∀ job ∈ (traced shell books env config w).steps.filterMap Step.job?,
      ∀ p, job.plan? = .ok p → p.delete = false) →
    ∃ places, w.files.Adds (run shell books env config w).2.files places ∧
      List.Forall₂ (fun d place => d.1.Made shell d.2 (run shell books env config w).2.files place)
        ((traced shell books env config w).steps.filterMap (Step.done? shell)) places

/-- **Without force nothing is lost:** a batch of careful jobs keeps every regular file, and adds
one for each job that is done. -/
theorem preserves_run (shell : Shell) (books : WorkbookReader) (env : Environment)
    (config : Config) (w : World) (hw : w.files.WellFormed) (hv : (Value.map config.vars).InOrder)
    (hjobs : ∀ job ∈ (traced shell books env config w).steps.filterMap Step.job?, job.Careful) :
    Preserves shell books env config w := by
  have hchained := changesBySteps_traced shell books env config w
  have hcareful : ∀ step ∈ (traced shell books env config w).steps, step.Careful :=
    fun step hstep job hjob => ⟨hjobs job (List.mem_filterMap.2 ⟨step, hstep, hjob⟩),
      atRest_traced shell books env hv w step hstep job hjob⟩
  have hend : (run shell books env config w).2 = (traced shell books env config w).world := by
    rw [traces_traced shell books env config w]
  rw [← hend] at hchained
  refine ⟨keeps_steps hchained hcareful hw, fun hstays => adds_steps hchained
    (fun step hstep => ⟨hcareful step hstep, fun job hjob => hstays job ?_⟩) hw⟩
  exact List.mem_filterMap.2 ⟨step, hstep, hjob⟩

/-- Two rows of one name: the first is written, and the second does not replace it. -/
theorem preserves_run_twice :
    let shell : Shell := fun _ t => ⟨some 0, "", t⟩
    let config : Config := { Config.ofPaths "/letter" "/{{ name }}.txt" with
      inputs := ["/list.csv"], continueOnError := true }
    let w : World := { files := { items := [(["letter"], .file "Dear {{ name }}".toUTF8),
      (["list.csv"], .file "name\nAnn\nAnn\n".toUTF8)] } }
    (run shell .none {} config w).1 = .ok { done := 1, failed := 1 } ∧
      Preserves shell .none {} config w := by
  intro shell config w
  have hw : w.files.WellFormed := by
    refine .of_items rfl fun p hp => ?_
    simp only [w, List.mem_cons, List.not_mem_nil, or_false] at hp
    rcases hp with rfl | rfl <;> rfl
  exact ⟨by decide +kernel,
    preserves_run shell .none {} config w hw (by decide) (by decide +kernel)⟩

end Batch
end MailMerge
