/-
# Batches step by step

A batch opens input files and attempts jobs.  `Batch.traced` runs a batch and notes down
these steps, each with the world it finds; without the notes it is the batch
(`Batch.traces_traced`).  What holds of the steps and of all that is put together from what
it holds of, holds of the batch (`Batch.Composes.traced`).  Between the steps the files stay
as they are, so each step finds the files that the one before has left.
-/

import MailMerge.Batch
import MailMerge.Proofs.InputFile

namespace MailMerge
namespace Batch

/-- A step of a batch, in the world it finds. -/
inductive Step where
  | opened (input : String) (before : World)
  | attempted (job : Job) (before : World)

namespace Step

/-- The world that a step finds. -/
def before : Step → World
  | opened _ w => w
  | attempted _ w => w

/-- The world that a step leaves. -/
def after (shell : Shell) : Step → World
  | opened _ w => w
  | attempted job w => (job.run shell w).2.world

/-- The job that a step attempts. -/
def job? : Step → Option Job
  | opened _ _ => none
  | attempted job _ => some job

/-- The failure of the job that a step attempts. -/
def fault? (shell : Shell) : Step → Option Failure
  | opened _ _ => none
  | attempted job w =>
    match (job.run shell w).1 with
    | .ok _ => none
    | .error f => some f

end Step

/-- What a part of a batch does: its steps, its result, and the world behind it. -/
structure Trace (α : Type) where
  steps : List Step
  result : Except Failure α
  world : World

/-- A part of a batch that notes down its steps. -/
abbrev Traced (α : Type) := World → Trace α

namespace Traced

variable {α β : Type}

/-- Does something without a note. -/
def lift (x : Action α) : Traced α := fun w => ⟨[], (x w).1, (x w).2⟩

/-- Does something as a step. -/
def note (step : World → Step) (x : Action α) : Traced α := fun w =>
  ⟨[step w], (x w).1, (x w).2⟩

/-- Does one thing and then, if that succeeds, another. -/
def bind (x : Traced α) (f : α → Traced β) : Traced β := fun w =>
  match (x w).result with
  | .ok a =>
    let t := f a (x w).world
    { t with steps := (x w).steps ++ t.steps }
  | .error e => ⟨(x w).steps, .error e, (x w).world⟩

end Traced

/-! ### The notes of a batch -/

section

variable (shell : Shell) (books : WorkbookReader) (env : Environment) (config : Config)

/-- Runs the job of one row. -/
def tracedRow (input : String) (row : Nat) (cells : Dict Value) (r : Report) : Traced Report :=
  .note (.attempted (Job.ofRow env config input row cells))
    (runRow shell env config input row cells r)

/-- Runs the jobs of rows. -/
def tracedRows (input : String) : Nat → List (Dict Value) → Report → Traced Report
  | _, [], r => .lift (pure r)
  | row, cells :: rest, r =>
    (tracedRow shell env config input row cells r).bind (tracedRows input (row + 1) rest)

/-- Runs the jobs of an input file. -/
def tracedInput (input : String) (r : Report) : Traced Report :=
  (Traced.note (.opened input) (InputFile.readSheet books input config.layout)).bind fun sheet =>
    (Traced.lift (Action.report (.inputStarted input sheet.rows.length))).bind fun _ =>
      tracedRows shell env config input 0 sheet.records r

/-- Runs the jobs of input files in turn. -/
def tracedInputs : List String → Report → Traced Report
  | [], r => .lift (pure r)
  | input :: rest, r => (tracedInput shell books env config input r).bind (tracedInputs rest)

/-- Runs a batch. -/
def traced : Traced Report :=
  (Traced.lift (checkInputs config.inputs)).bind fun _ =>
    (tracedInputs shell books env config config.inputs {}).bind fun r =>
      Traced.lift (do
        Action.report (.finished r)
        return r)

end

/-! ### The notes change nothing -/

section

variable {α β : Type}

/-- Without its notes, a part of a batch is an action. -/
def Traces (x : Traced α) (y : Action α) : Prop := ∀ w, y w = ((x w).result, (x w).world)

theorem traces_lift (x : Action α) : Traces (.lift x) x := fun _ => rfl

theorem traces_note (step : World → Step) (x : Action α) : Traces (.note step x) x := fun _ => rfl

theorem Traces.bind {x : Traced α} {y : Action α} {f : α → Traced β} {g : α → Action β}
    (h : Traces x y) (hfg : ∀ a, Traces (f a) (g a)) : Traces (x.bind f) (y >>= g) := by
  intro w
  rw [Action.bind_apply, h w, Traced.bind]
  cases (x w).result with
  | error e => rfl
  | ok a => exact hfg a _

end

variable {shell : Shell} {books : WorkbookReader} {env : Environment} {config : Config}

theorem traces_tracedRows (input : String) (row : Nat) (rows : List (Dict Value)) (r : Report) :
    Traces (tracedRows shell env config input row rows r)
      (runRows shell env config input row rows r) := by
  induction rows generalizing row r with
  | nil => exact traces_lift _
  | cons cells rest ih => exact (traces_note _ _).bind fun r => ih _ r

theorem traces_tracedInput (input : String) (r : Report) :
    Traces (tracedInput shell books env config input r)
      (runInput shell books env config input r) :=
  (traces_note _ _).bind fun _ => (traces_lift _).bind fun _ => traces_tracedRows _ _ _ _

theorem traces_tracedInputs (inputs : List String) (r : Report) :
    Traces (tracedInputs shell books env config inputs r)
      (runInputs shell books env config inputs r) := by
  induction inputs generalizing r with
  | nil => exact traces_lift _
  | cons input rest ih => exact (traces_tracedInput input r).bind fun r => ih r

/-- **The steps that are noted down are those of the batch.** -/
theorem traces_traced (shell : Shell) (books : WorkbookReader) (env : Environment)
    (config : Config) : Traces (traced shell books env config) (run shell books env config) :=
  (traces_lift _).bind fun _ => (traces_tracedInputs _ _).bind fun _ => traces_lift _

/-! ### What holds of a batch part by part -/

/-- What is wrong with the first input file that cannot be one. -/
def refusal? (t : FileTree) (inputs : List String) : Option Failure :=
  inputs.findSome? fun input => InputFile.refusal? t input (InputFile.expectsBinary input)

theorem checkInputs_apply (inputs : List String) (w : World) :
    checkInputs inputs w = ((match refusal? w.files inputs with
      | some e => .error e
      | none => .ok ()), w) := by
  induction inputs with
  | nil => rfl
  | cons input rest ih =>
    rw [checkInputs, Action.bind_apply, InputFile.check_apply, refusal?, List.findSome?_cons]
    cases InputFile.refusal? w.files input (InputFile.expectsBinary input) with
    | some e => rfl
    | none => exact ih

/-- A property that a batch has if its parts have it: its steps, and what is done between them,
which changes no files. -/
structure Composes (shell : Shell) (books : WorkbookReader) (env : Environment) (config : Config)
    (P : {α : Type} → Traced α → Prop) : Prop where
  lift : ∀ {α : Type} (x : Action α), (∀ w, (x w).2.files = w.files) → P (.lift x)
  sheet : ∀ input, P (.note (.opened input) (InputFile.readSheet books input config.layout))
  row : ∀ input row cells r, P (tracedRow shell env config input row cells r)
  bind : ∀ {α β : Type} {x : Traced α} {f : α → Traced β}, P x → (∀ a, P (f a)) → P (x.bind f)

namespace Composes

variable {P : {α : Type} → Traced α → Prop} (h : Composes shell books env config P)
include h

theorem rows (input : String) (row : Nat) (rows : List (Dict Value)) (r : Report) :
    P (tracedRows shell env config input row rows r) := by
  induction rows generalizing row r with
  | nil => exact h.lift _ fun _ => rfl
  | cons cells rest ih => exact h.bind (h.row input row cells r) fun r => ih _ r

theorem inputs (inputs : List String) (r : Report) :
    P (tracedInputs shell books env config inputs r) := by
  induction inputs generalizing r with
  | nil => exact h.lift _ fun _ => rfl
  | cons input rest ih =>
    exact h.bind (h.bind (h.sheet input) fun sheet => h.bind (h.lift _ fun _ => rfl)
      fun _ => h.rows input 0 sheet.records r) fun r => ih r

/-- **What composes holds of a batch.** -/
theorem traced : P (traced shell books env config) :=
  h.bind (h.lift _ fun w => by rw [checkInputs_apply]) fun _ =>
    h.bind (h.inputs _ _) fun _ => h.lift _ fun _ => rfl

end Composes

/-! ### From step to step -/

/-- Each step finds the files that the one before has left, from the files `t` to `t'`. -/
def Chained (shell : Shell) : FileTree → List Step → FileTree → Prop
  | t, [], t' => t' = t
  | t, step :: steps, t' => step.before.files = t ∧ Chained shell (step.after shell).files steps t'

theorem Chained.append {t t' t'' : FileTree} {steps steps' : List Step}
    (h : Chained shell t steps t') (h' : Chained shell t' steps' t'') :
    Chained shell t (steps ++ steps') t'' := by
  induction steps generalizing t with
  | nil =>
    obtain rfl : t' = t := h
    exact h'
  | cons step steps ih => exact ⟨h.1, ih h.2⟩

/-- A part of a batch changes files by its steps alone. -/
def ChangesBySteps {α : Type} (shell : Shell) (x : Traced α) : Prop :=
  ∀ w, Chained shell w.files (x w).steps (x w).world.files

namespace ChangesBySteps

variable {α β : Type}

theorem lift {x : Action α} (h : ∀ w, (x w).2.files = w.files) :
    ChangesBySteps shell (.lift x) := h

theorem note {step : World → Step} {x : Action α} (hbefore : ∀ w, (step w).before.files = w.files)
    (hafter : ∀ w, (x w).2.files = ((step w).after shell).files) :
    ChangesBySteps shell (.note step x) := fun w => ⟨hbefore w, hafter w⟩

theorem bind {x : Traced α} {f : α → Traced β} (hx : ChangesBySteps shell x)
    (hf : ∀ a, ChangesBySteps shell (f a)) : ChangesBySteps shell (x.bind f) := by
  intro w
  unfold Traced.bind
  cases (x w).result with
  | error e => exact hx w
  | ok a => exact (hx w).append (hf a _)

end ChangesBySteps

section

variable {input : String} {row : Nat} {cells : Dict Value} {w : World}

/-- A row whose job does not fail is counted. -/
theorem runRow_of_ok {outcome : Outcome}
    (h : ((Job.ofRow env config input row cells).run shell w).1 = .ok outcome) (r : Report) :
    runRow shell env config input row cells r w =
      (.ok (r.count outcome), ((Job.ofRow env config input row cells).run shell w).2.world) := by
  unfold runRow
  rw [Action.bind_apply, attempt]
  dsimp only
  rw [h]
  rfl

/-- A row whose job fails is reported and counted, or ends the batch; one whose job breaks down
ends it. -/
theorem runRow_of_error {e : Failure}
    (h : ((Job.ofRow env config input row cells).run shell w).1 = .error e) (r : Report) :
    let w' := ((Job.ofRow env config input row cells).run shell w).2.world
    runRow shell env config input row cells r w =
      if config.continueOnError && !e.isCrash then
        (.ok r.countFailure, { w' with events := w'.events ++ [.rowFailed (row + 1) input e] })
      else (.error e, w') := by
  unfold runRow
  rw [Action.bind_apply, attempt]
  dsimp only
  rw [h]
  dsimp only
  split <;> rfl

end

/-- What a row changes, its job changes. -/
theorem runRow_files (input : String) (row : Nat) (cells : Dict Value) (r : Report) (w : World) :
    (runRow shell env config input row cells r w).2.files =
      ((Job.ofRow env config input row cells).run shell w).2.world.files := by
  cases hend : ((Job.ofRow env config input row cells).run shell w).1 with
  | ok outcome => rw [runRow_of_ok hend]
  | error e =>
    rw [runRow_of_error hend]
    split <;> rfl

theorem composes_changesBySteps (shell : Shell) (books : WorkbookReader) (env : Environment)
    (config : Config) : Composes shell books env config (ChangesBySteps shell) where
  lift _ h := h
  sheet input := .note (fun _ => rfl) fun w => by
    obtain ⟨es, hread⟩ := InputFile.readSheet_apply books input config.layout w
    rw [hread]
    rfl
  row input row cells r := .note (fun _ => rfl) fun w => runRow_files input row cells r w
  bind := .bind

/-- **A batch changes files by its jobs alone.** -/
theorem changesBySteps_traced (shell : Shell) (books : WorkbookReader) (env : Environment)
    (config : Config) : ChangesBySteps shell (traced shell books env config) :=
  (composes_changesBySteps shell books env config).traced

end Batch
end MailMerge
