/-
# What a batch counts

A batch that goes on after failures attempts every row of every input file once, in order,
and counts how each ends.  A batch that does not go on is the same up to and including the
first job that fails (`Batch.Agrees`), and stops there with its failure.

A job that breaks down is counted nowhere: the batch ends with it, though it was told to go
on (`Batch.Breaks`, `Batch.run_broken`).
-/

import MailMerge.Proofs.Batch.Trace
import MailMerge.Proofs.Job.Metadata
import Mathlib.Algebra.GroupWithZero.Nat

namespace MailMerge
namespace Batch

variable {shell : Shell} {books : WorkbookReader} {env : Environment} {config : Config}

/-! ### Counting -/

/-- Whether a job ended with an output. -/
def isDone : Except Failure Outcome → Bool
  | .ok (.done _) => true
  | _ => false

/-- Whether a job's row was skipped. -/
def isSkipped : Except Failure Outcome → Bool
  | .ok .skipped => true
  | _ => false

/-- Whether a job failed. -/
def isFailed : Except Failure Outcome → Bool
  | .error _ => true
  | _ => false

/-- A report with the ends of more jobs. -/
def tally (r : Report) (ends : List (Except Failure Outcome)) : Report where
  done := r.done + ends.countP isDone
  skipped := r.skipped + ends.countP isSkipped
  failed := r.failed + ends.countP isFailed

theorem tally_append (r : Report) (ends ends' : List (Except Failure Outcome)) :
    tally r (ends ++ ends') = tally (tally r ends) ends' := by
  simp [tally, Nat.add_assoc]

/-- **Every job is counted once.** -/
theorem total_tally (r : Report) (ends : List (Except Failure Outcome)) :
    (tally r ends).total = r.total + ends.length := by
  induction ends generalizing r with
  | nil => rfl
  | cons e ends ih =>
    have hone : (tally r [e]).total = r.total + 1 := by
      rcases e with f | ⟨path⟩ | _ <;>
        simp [tally, Report.total, isDone, isSkipped, isFailed] <;> omega
    rw [← List.singleton_append, tally_append, ih, hone, List.length_append, List.length_singleton,
      Nat.add_assoc]

/-- How the job of a step ends. -/
def Step.end? (shell : Shell) : Step → Option (Except Failure Outcome)
  | .opened _ _ => none
  | .attempted job w => some (job.run shell w).1

/-- The input file that a step opens, and the world it finds. -/
def Step.opened? : Step → Option (String × World)
  | .opened input w => some (input, w)
  | .attempted _ _ => none

/-- A step whose job, if it has one, does not break down. -/
def Step.Ends (shell : Shell) (step : Step) : Prop :=
  ∀ f ∈ step.fault? shell, f.isCrash = false

instance (shell : Shell) (step : Step) : Decidable (step.Ends shell) :=
  inferInstanceAs (Decidable (∀ f ∈ step.fault? shell, f.isCrash = false))

theorem Step.ends_attempted_iff {job : Job} {w : World} :
    (attempted job w).Ends shell ↔
      ∀ f, (job.run shell w).1 = .error f → f.isCrash = false := by
  cases hend : (job.run shell w).1 <;> simp [Ends, fault?, hend]

/-- The records of an input file in a world. -/
def recordsAt (books : WorkbookReader) (config : Config) (input : String) (w : World) :
    List (Dict Value) :=
  match InputFile.sheetAt books w.files input config.layout with
  | .ok sheet => sheet.records
  | .error _ => []

/-- The jobs of the rows of an input file, as it is in a world. -/
def jobsAt (books : WorkbookReader) (env : Environment) (config : Config)
    (visit : String × World) : List Job :=
  (recordsAt books config visit.1 visit.2).mapIdx fun row cells =>
    Job.ofRow env config visit.1 row cells

theorem length_ends (shell : Shell) (steps : List Step) :
    (steps.filterMap (Step.end? shell)).length = (steps.filterMap Step.job?).length := by
  induction steps with
  | nil => rfl
  | cons step steps ih =>
    cases step with
    | opened => exact ih
    | attempted => exact congrArg Nat.succ ih

/-! ### A batch that goes on -/

theorem Traced.bind_ok {α β : Type} {x : Traced α} {f : α → Traced β} {w : World} {a : α}
    (h : (x w).result = .ok a) : x.bind f w = ⟨(x w).steps ++ (f a (x w).world).steps,
      (f a (x w).world).result, (f a (x w).world).world⟩ := by
  rw [Traced.bind, h]

theorem Traced.bind_error {α β : Type} {x : Traced α} {f : α → Traced β} {w : World} {e : Failure}
    (h : (x w).result = .error e) : x.bind f w = ⟨(x w).steps, .error e, (x w).world⟩ := by
  rw [Traced.bind, h]

/-- What comes first has been done, whatever follows. -/
theorem Traced.exists_steps_bind {α β : Type} (x : Traced α) (f : α → Traced β) (w : World) :
    ∃ more, (x.bind f w).steps = (x w).steps ++ more := by
  cases hr : (x w).result with
  | error e => exact ⟨[], by rw [bind_error hr, List.append_nil]⟩
  | ok a => exact ⟨_, by rw [bind_ok hr]⟩

/-- What comes first has ended, if all of it has. -/
theorem Traced.ends_of_bind {α β : Type} {x : Traced α} {f : α → Traced β} {w : World}
    (h : ∀ step ∈ (x.bind f w).steps, step.Ends shell) : ∀ step ∈ (x w).steps, step.Ends shell := by
  obtain ⟨more, hmore⟩ := x.exists_steps_bind f w
  exact fun step hstep => h step (hmore ▸ List.mem_append_left more hstep)

/-- A row is counted, whatever becomes of its job, unless it breaks down. -/
theorem runRow_result (hgoesOn : config.continueOnError = true) {input : String} {row : Nat}
    {cells : Dict Value} {w : World}
    (hends : (Step.attempted (Job.ofRow env config input row cells) w).Ends shell) (r : Report) :
    (runRow shell env config input row cells r w).1 =
      .ok (tally r [((Job.ofRow env config input row cells).run shell w).1]) := by
  rcases hend : ((Job.ofRow env config input row cells).run shell w).1 with e | ⟨path⟩ | _
  · rw [runRow_of_error hend, hgoesOn, Step.ends_attempted_iff.1 hends e hend]
    rfl
  · rw [runRow_of_ok hend]
    rfl
  · rw [runRow_of_ok hend]
    rfl

theorem mapIdx_ofRow_cons (env : Environment) (config : Config) (input : String) (row : Nat)
    (cells : Dict Value) (rest : List (Dict Value)) :
    ((cells :: rest).mapIdx fun i cells => Job.ofRow env config input (row + i) cells) =
      Job.ofRow env config input row cells ::
        rest.mapIdx fun i cells => Job.ofRow env config input (row + 1 + i) cells := by
  rw [List.mapIdx_cons]
  simp only [Nat.add_assoc, Nat.add_comm 1]
  rfl

/-- The rows of an input file are attempted in order. -/
theorem tracedRows_complete (hgoesOn : config.continueOnError = true) (input : String) (row : Nat)
    (rows : List (Dict Value)) (r : Report) (w : World)
    (hends : ∀ step ∈ (tracedRows shell env config input row rows r w).steps, step.Ends shell) :
    let t := tracedRows shell env config input row rows r w
    t.result = .ok (tally r (t.steps.filterMap (Step.end? shell))) ∧
      t.steps.filterMap Step.opened? = [] ∧
      t.steps.filterMap Step.job? =
        rows.mapIdx fun i cells => Job.ofRow env config input (row + i) cells := by
  induction rows generalizing row r w with
  | nil => exact ⟨rfl, rfl, rfl⟩
  | cons cells rest ih =>
    have hrow := runRow_result hgoesOn (Traced.ends_of_bind hends _ List.mem_cons_self) r
    rw [tracedRows, Traced.bind_ok hrow] at hends ⊢
    obtain ⟨hresult, hopened, hjobs⟩ := ih (row + 1)
      (tally r [((Job.ofRow env config input row cells).run shell w).1])
      (runRow shell env config input row cells r w).2
      fun step hstep => hends step (List.mem_append_right _ hstep)
    refine ⟨?_, hopened, ?_⟩
    · rw [List.filterMap_append, tally_append]
      exact hresult
    · rw [List.filterMap_append, mapIdx_ofRow_cons, ← hjobs]
      rfl

/-- Where a sheet can be read, its rows are attempted. -/
theorem tracedInput_eq (shell : Shell) (env : Environment) {input : String} {w : World}
    {sheet : Sheet} (hsheet : InputFile.sheetAt books w.files input config.layout = .ok sheet)
    (r : Report) : ∃ w₁, w₁.files = w.files ∧ tracedInput shell books env config input r w =
      let t := tracedRows shell env config input 0 sheet.records r w₁
      ⟨.opened input w :: t.steps, t.result, t.world⟩ := by
  obtain ⟨es, hread⟩ := InputFile.readSheet_apply books input config.layout w
  rw [hsheet] at hread
  refine ⟨(Action.report (.inputStarted input sheet.rows.length)
    (InputFile.readSheet books input config.layout w).2).2,
    congrArg (World.files ∘ Prod.snd) hread, ?_⟩
  rw [tracedInput, Traced.bind_ok (congrArg Prod.fst hread), Traced.bind_ok rfl]
  rfl

/-- The input files are opened in order, and their rows attempted. -/
theorem tracedInputs_complete (hgoesOn : config.continueOnError = true) (inputs : List String)
    (r : Report) (w : World)
    (hreadable : ∀ input before,
      .opened input before ∈ (tracedInputs shell books env config inputs r w).steps →
        ∃ sheet, InputFile.sheetAt books before.files input config.layout = .ok sheet)
    (hends : ∀ step ∈ (tracedInputs shell books env config inputs r w).steps,
      step.Ends shell) :
    let t := tracedInputs shell books env config inputs r w
    t.result = .ok (tally r (t.steps.filterMap (Step.end? shell))) ∧
      (t.steps.filterMap Step.opened?).map Prod.fst = inputs ∧
      t.steps.filterMap Step.job? =
        (t.steps.filterMap Step.opened?).flatMap (jobsAt books env config) := by
  induction inputs generalizing r w with
  | nil => exact ⟨rfl, rfl, rfl⟩
  | cons input rest ih =>
    -- the input file is opened first, whatever comes of it
    have hopens : .opened input w ∈
        (tracedInputs shell books env config (input :: rest) r w).steps := by
      obtain ⟨more, hmore⟩ := Traced.exists_steps_bind (tracedInput shell books env config input r)
        (tracedInputs shell books env config rest) w
      obtain ⟨more', hmore'⟩ := Traced.exists_steps_bind
        (.note (.opened input) (InputFile.readSheet books input config.layout)) _ w
      rw [tracedInputs, hmore, tracedInput, hmore']
      exact List.mem_append_left _ List.mem_cons_self
    obtain ⟨sheet, hsheet⟩ := hreadable input w hopens
    obtain ⟨w₁, -, hinput⟩ := tracedInput_eq shell env hsheet r
    have hendsRows := Traced.ends_of_bind hends
    rw [hinput] at hendsRows
    obtain ⟨hrows, hclosed, hjobs⟩ := tracedRows_complete hgoesOn input 0 sheet.records r w₁
      fun step hstep => hendsRows step (List.mem_cons_of_mem _ hstep)
    have hresult := (congrArg Trace.result hinput).trans hrows
    rw [tracedInputs, Traced.bind_ok hresult, hinput] at hreadable hends ⊢
    obtain ⟨hresult', hinputs, hjobs'⟩ := ih _ _
      (fun input before hmem => hreadable input before (List.mem_append_right _ hmem))
      fun step hstep => hends step (List.mem_append_right _ hstep)
    dsimp only
    simp only [List.cons_append, List.filterMap_cons, List.filterMap_append, Step.end?,
      Step.opened?, Step.job?, hclosed, hjobs, List.nil_append, List.map_cons, List.flatMap_cons]
    refine ⟨?_, congrArg _ hinputs, ?_⟩
    · rw [tally_append]
      exact hresult'
    · rw [hjobs', jobsAt, recordsAt, hsheet]
      simp

/-! ### A batch that stops -/

/-- Two runs of one batch, of which the first goes on after failures: if no job fails they are the
same, and otherwise the second one stops with the first job that fails. -/
inductive Agrees {α : Type} (shell : Shell) (on off : Trace α) : Prop
  | same : (∀ step ∈ on.steps, step.fault? shell = none) → off = on → Agrees shell on off
  | stopped (good rest : List Step) (bad : Step) (f : Failure) :
    on.steps = good ++ bad :: rest → (∀ step ∈ good, step.fault? shell = none) →
    bad.fault? shell = some f → off = ⟨good ++ [bad], .error f, bad.after shell⟩ →
    Agrees shell on off

namespace Agrees

variable {α β : Type}

theorem lift (x : Action α) (w : World) : Agrees shell (Traced.lift x w) (Traced.lift x w) :=
  .same (by simp [Traced.lift]) rfl

theorem bind {x x' : Traced α} {f f' : α → Traced β} {w : World} (hx : Agrees shell (x w) (x' w))
    (hf : ∀ a w, Agrees shell (f a w) (f' a w)) :
    Agrees shell (x.bind f w) (x'.bind f' w) := by
  cases hx with
  | same hgood hsame =>
    cases hr : (x w).result with
    | error e =>
      have hr' : (x' w).result = .error e := by rw [hsame, hr]
      rw [Traced.bind_error hr, Traced.bind_error hr', hsame]
      exact .same hgood rfl
    | ok a =>
      have hr' : (x' w).result = .ok a := by rw [hsame, hr]
      rw [Traced.bind_ok hr, Traced.bind_ok hr', hsame]
      cases hf a (x w).world with
      | same hgood' hsame' =>
        rw [hsame']
        exact .same (List.forall_mem_append.2 ⟨hgood, hgood'⟩) rfl
      | stopped good rest bad e hon hgood' hbad hoff =>
        refine .stopped ((x w).steps ++ good) rest bad e ?_
          (List.forall_mem_append.2 ⟨hgood, hgood'⟩) hbad ?_
        · rw [hon, List.append_assoc]
        · rw [hoff, List.append_assoc]
  | stopped good rest bad e hon hgood hbad hoff =>
    have hr' : (x' w).result = .error e := by rw [hoff]
    rw [Traced.bind_error hr', hoff]
    obtain ⟨more, hmore⟩ := x.exists_steps_bind f w
    rw [hon, List.append_assoc] at hmore
    exact .stopped good _ bad e hmore hgood hbad rfl

end Agrees

/-- A configuration that says whether to go on after failures. -/
def goingOn (config : Config) (goOn : Bool) : Config := { config with continueOnError := goOn }

theorem agrees_tracedRow (input : String) (row : Nat) (cells : Dict Value) (r : Report)
    (w : World) :
    Agrees shell (tracedRow shell env (goingOn config true) input row cells r w)
      (tracedRow shell env (goingOn config false) input row cells r w) := by
  -- the job of the row does not depend on what is done after failures
  have hsame : ∀ goOn, ((Job.ofRow env (goingOn config goOn) input row cells).run shell w).1 =
      ((Job.ofRow env config input row cells).run shell w).1 := fun _ => rfl
  unfold tracedRow Traced.note
  cases hend : ((Job.ofRow env config input row cells).run shell w).1 with
  | ok outcome =>
    rw [runRow_of_ok ((hsame true).trans hend), runRow_of_ok ((hsame false).trans hend)]
    exact .same (by simp [Step.fault?, hsame, hend]) rfl
  | error e =>
    rw [runRow_of_error ((hsame false).trans hend)]
    exact .stopped [] [] _ e rfl (by simp) (by simp [Step.fault?, hsame, hend]) rfl

theorem agrees_tracedRows (input : String) (row : Nat) (rows : List (Dict Value)) (r : Report)
    (w : World) :
    Agrees shell (tracedRows shell env (goingOn config true) input row rows r w)
      (tracedRows shell env (goingOn config false) input row rows r w) := by
  induction rows generalizing row r w with
  | nil => exact .lift _ w
  | cons cells rest ih => exact (agrees_tracedRow input row cells r w).bind fun r w => ih _ r w

theorem agrees_tracedInputs (inputs : List String) (r : Report) (w : World) :
    Agrees shell (tracedInputs shell books env (goingOn config true) inputs r w)
      (tracedInputs shell books env (goingOn config false) inputs r w) := by
  induction inputs generalizing r w with
  | nil => exact .lift _ w
  | cons input rest ih =>
    have hread : Agrees shell
        (Traced.note (.opened input) (InputFile.readSheet books input config.layout) w)
        (Traced.note (.opened input) (InputFile.readSheet books input config.layout) w) :=
      .same (by simp [Traced.note, Step.fault?]) rfl
    exact (hread.bind fun sheet w => (Agrees.lift _ w).bind fun _ w =>
      agrees_tracedRows input 0 sheet.records r w).bind fun r w => ih r w

theorem agrees_traced (shell : Shell) (books : WorkbookReader) (env : Environment)
    (config : Config) (w : World) :
    Agrees shell (traced shell books env (goingOn config true) w)
      (traced shell books env (goingOn config false) w) :=
  (Agrees.lift _ w).bind fun _ w => (agrees_tracedInputs config.inputs {} w).bind fun _ w =>
    .lift _ w

/-! ### A batch that breaks down -/

/-- A run whose jobs all end, or that stops with the first one that breaks down. -/
inductive Breaks {α : Type} (shell : Shell) (t : Trace α) : Prop
  | sound : (∀ step ∈ t.steps, step.Ends shell) → Breaks shell t
  | broken (good : List Step) (bad : Step) (f : Failure) :
    (∀ step ∈ good, step.Ends shell) → bad.fault? shell = some f → f.isCrash = true →
    t = ⟨good ++ [bad], .error f, bad.after shell⟩ → Breaks shell t

namespace Breaks

variable {α β : Type}

theorem lift (x : Action α) (w : World) : Breaks shell (Traced.lift x w) :=
  .sound (by simp [Traced.lift])

theorem bind {x : Traced α} {f : α → Traced β} {w : World} (hx : Breaks shell (x w))
    (hf : ∀ a w, Breaks shell (f a w)) : Breaks shell (x.bind f w) := by
  cases hx with
  | sound hends =>
    cases hr : (x w).result with
    | error e =>
      rw [Traced.bind_error hr]
      exact .sound hends
    | ok a =>
      rw [Traced.bind_ok hr]
      cases hf a (x w).world with
      | sound hends' => exact .sound (List.forall_mem_append.2 ⟨hends, hends'⟩)
      | broken good bad e hgood hbad hcrash hsame =>
        refine .broken ((x w).steps ++ good) bad e (List.forall_mem_append.2 ⟨hends, hgood⟩) hbad
          hcrash ?_
        rw [hsame, List.append_assoc]
  | broken good bad e hgood hbad hcrash hsame =>
    rw [Traced.bind_error (by rw [hsame]), hsame]
    exact .broken good bad e hgood hbad hcrash rfl

end Breaks

theorem breaks_tracedRow (input : String) (row : Nat) (cells : Dict Value) (r : Report)
    (w : World) : Breaks shell (tracedRow shell env config input row cells r w) := by
  unfold tracedRow Traced.note
  cases hend : ((Job.ofRow env config input row cells).run shell w).1 with
  | ok outcome => exact .sound (by simp [Step.ends_attempted_iff, hend])
  | error e =>
    cases hcrash : e.isCrash with
    | false => exact .sound (by simp [Step.ends_attempted_iff, hend, hcrash])
    | true =>
      refine .broken [] (.attempted (Job.ofRow env config input row cells) w) e (by simp)
        (by simp [Step.fault?, hend]) hcrash ?_
      rw [runRow_of_error hend, hcrash, Bool.not_true, Bool.and_false]
      rfl

theorem breaks_traced (shell : Shell) (books : WorkbookReader) (env : Environment)
    (config : Config) (w : World) : Breaks shell (traced shell books env config w) := by
  have hcomposes : Composes shell books env config fun x => ∀ w, Breaks shell (x w) := {
    lift := fun x _ => .lift x
    sheet := fun _ _ => .sound (by simp [Traced.note, Step.Ends, Step.fault?])
    row := breaks_tracedRow
    bind := fun hx hf w => (hx w).bind hf }
  exact hcomposes.traced w

/-! ### The account of a batch -/

/-- What a batch attempts, counts and returns. -/
structure Accounts (shell : Shell) (books : WorkbookReader) (env : Environment) (config : Config)
    (w : World) : Prop where
  /-- The steps are those of the batch, whether or not it goes on after failures. -/
  trace : ∀ goOn, run shell books env (goingOn config goOn) w =
    ((traced shell books env (goingOn config goOn) w).result,
      (traced shell books env (goingOn config goOn) w).world)
  /-- If an input file is refused, the first refusal is all that comes of the batch. -/
  refused : ∀ e, refusal? w.files config.inputs = some e →
    run shell books env config w = (.error e, w) ∧ (traced shell books env config w).steps = []
  /-- A batch that goes on, can read every sheet when it is opened, and attempts no job that breaks
  down, attempts each row once and in order, and its report counts how they end. -/
  complete : config.continueOnError = true → refusal? w.files config.inputs = none →
    (∀ input before, .opened input before ∈ (traced shell books env config w).steps →
      ∃ sheet, InputFile.sheetAt books before.files input config.layout = .ok sheet) →
    (∀ step ∈ (traced shell books env config w).steps, step.Ends shell) →
    let steps := (traced shell books env config w).steps
    let visits := steps.filterMap Step.opened?
    let report := tally {} (steps.filterMap (Step.end? shell))
    (run shell books env config w).1 = .ok report ∧ visits.map Prod.fst = config.inputs ∧
      steps.filterMap Step.job? = visits.flatMap (jobsAt books env config) ∧
      report.total =
        (visits.map fun visit => (recordsAt books config visit.1 visit.2).length).sum
  /-- A job that breaks down ends the batch there and then, whether or not it goes on after
  failures. -/
  breaks : ∀ goOn, Breaks shell (traced shell books env (goingOn config goOn) w)
  /-- A batch that stops does the same up to the first job that fails. -/
  toggle : Agrees shell (traced shell books env (goingOn config true) w)
    (traced shell books env (goingOn config false) w)

/-- **A batch keeps its accounts,** whatever its files, hooks and configuration. -/
theorem accounts_run (shell : Shell) (books : WorkbookReader) (env : Environment)
    (config : Config) (w : World) : Accounts shell books env config w where
  trace goOn := traces_traced shell books env (goingOn config goOn) w
  refused e he := by
    have hcheck : (Traced.lift (checkInputs config.inputs) w).result = .error e := by
      rw [Traced.lift, checkInputs_apply, he]
    have htraced : traced shell books env config w = ⟨[], .error e, w⟩ := by
      rw [traced, Traced.bind_error hcheck, Traced.lift, checkInputs_apply]
    rw [traces_traced shell books env config w, htraced]
    exact ⟨rfl, rfl⟩
  complete hgoesOn hok hreadable hends := by
    have hcheck : Traced.lift (checkInputs config.inputs) w = ⟨[], .ok (), w⟩ := by
      rw [Traced.lift, checkInputs_apply, hok]
    have hbegun : traced shell books env config w =
        ((tracedInputs shell books env config config.inputs {}).bind fun r => Traced.lift (do
          Action.report (.finished r)
          return r)) w := by
      rw [traced, Traced.bind_ok (congrArg Trace.result hcheck), hcheck]
      rfl
    obtain ⟨more, hmore⟩ : ∃ more, (traced shell books env config w).steps =
        (tracedInputs shell books env config config.inputs {} w).steps ++ more :=
      hbegun ▸ Traced.exists_steps_bind _ _ w
    obtain ⟨hresult, hinputs, hjobs⟩ := tracedInputs_complete hgoesOn config.inputs {} w
      (fun input before hmem => hreadable input before (hmore ▸ List.mem_append_left _ hmem))
      fun step hmem => hends step (hmore ▸ List.mem_append_left _ hmem)
    have hsteps : (traced shell books env config w).steps =
        (tracedInputs shell books env config config.inputs {} w).steps := by
      rw [hbegun, Traced.bind_ok hresult]
      exact List.append_nil _
    dsimp only
    rw [hsteps]
    refine ⟨?_, hinputs, hjobs, ?_⟩
    · rw [traces_traced shell books env config w, hbegun, Traced.bind_ok hresult]
      rfl
    · rw [total_tally, length_ends, hjobs, List.length_flatMap]
      simp [jobsAt, Report.total]
  breaks goOn := breaks_traced shell books env (goingOn config goOn) w
  toggle := agrees_traced shell books env config w

/-- The first of two rows breaks down: the batch is to go on, and finds its input file and the
sheet in it, but ends there, and the other row is never attempted. -/
theorem run_broken :
    let shell : Shell := fun _ t => ⟨some 0, "", t⟩
    let config : Config := { Config.ofPaths "/letter" "/{{ name }}.txt" with
      inputs := ["/list.csv"], continueOnError := true }
    let w : World := { files := { items := [(["letter"], .file "{{ name * n }}".toUTF8),
      (["list.csv"], .file "name,n\nAnn,9223372036854775807\nBob,1\n".toUTF8)] } }
    let steps := (traced shell .none {} config w).steps
    refusal? w.files config.inputs = none ∧
      (∀ visit ∈ steps.filterMap Step.opened?,
        (InputFile.sheetAt .none visit.2.files visit.1 config.layout).toOption.isSome) ∧
      (run shell .none {} config w).1 =
        .error (.render (.template "/letter") (.crash 3 (2 ^ 63 - 1))) ∧
      (steps.filterMap Step.job?).length = 1 ∧ (recordsAt .none config "/list.csv" w).length = 2 := by
  decide +kernel

end Batch
end MailMerge
