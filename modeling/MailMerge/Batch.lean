/-
# Batches

A batch runs a job for every row of every input file, in order.  All input files are
checked before the first job.  A job that fails ends the batch, unless the
configuration says to go on: then the failure is reported and counted.  A job that
breaks down ends the batch whatever the configuration says.
-/

import MailMerge.Job

namespace MailMerge

/-- The environment of a configuration: its delimiters, and global values. -/
def Config.environment (config : Config) (globals : Dict Value) : Environment :=
  { delimiters := config.delimiters, globals := globals }

namespace Report

/-- The report with one more row of an outcome. -/
def count (r : Report) : Outcome → Report
  | .done _ => { r with done := r.done + 1 }
  | .skipped => { r with skipped := r.skipped + 1 }

/-- The report with one more row that failed. -/
def countFailure (r : Report) : Report := { r with failed := r.failed + 1 }

end Report

namespace Batch

/-- Runs a job, whatever becomes of it. -/
def attempt (shell : Shell) (job : Job) : Action (Except Failure Outcome) := fun w =>
  match job.run shell w with
  | (result, s) => (.ok result, s.world)

/-- Runs the job of one row. -/
def runRow (shell : Shell) (env : Environment) (config : Config) (input : String) (row : Nat)
    (cells : Dict Value) (r : Report) : Action Report := do
  match ← attempt shell (Job.ofRow env config input row cells) with
  | .ok outcome => return r.count outcome
  | .error e =>
    if config.continueOnError && !e.isCrash then
      Action.report (.rowFailed (row + 1) input e)
      return r.countFailure
    else throw e

/-- Runs the jobs of rows; `row` is the number of the first one. -/
def runRows (shell : Shell) (env : Environment) (config : Config) (input : String) :
    Nat → List (Dict Value) → Report → Action Report
  | _, [], r => pure r
  | row, cells :: rest, r => do
    runRows shell env config input (row + 1) rest
      (← runRow shell env config input row cells r)

/-- Runs the jobs of an input file. -/
def runInput (shell : Shell) (books : WorkbookReader) (env : Environment) (config : Config)
    (input : String) (r : Report) : Action Report := do
  let sheet ← InputFile.readSheet books input config.layout
  Action.report (.inputStarted input sheet.rows.length)
  runRows shell env config input 0 sheet.records r

/-- Runs the jobs of input files in turn. -/
def runInputs (shell : Shell) (books : WorkbookReader) (env : Environment) (config : Config) :
    List String → Report → Action Report
  | [], r => pure r
  | input :: rest, r => do
    runInputs shell books env config rest (← runInput shell books env config input r)

/-- Refuses the first input file that cannot be one. -/
def checkInputs : List String → Action Unit
  | [] => pure ()
  | input :: rest => do
    InputFile.check input (InputFile.expectsBinary input)
    checkInputs rest

/-- Runs a batch in an environment. -/
def run (shell : Shell) (books : WorkbookReader) (env : Environment) (config : Config) :
    Action Report := do
  checkInputs config.inputs
  let r ← runInputs shell books env config config.inputs {}
  Action.report (.finished r)
  return r

end Batch

end MailMerge
