/-
# Jobs

A job renders one row of an input file to one output file.  Its variables are the
row's cells over the configured variables over what the job knows of itself.  A job
first decides whether the row is skipped, then finds its paths and flags, runs the
first hook, renders, writes, runs the second hook, and deletes the output if it is
not to stay.  The first failure ends it; files that were changed stay changed.
-/

import MailMerge.Config.Basic
import MailMerge.Context
import MailMerge.Hook
import MailMerge.OutputFile
import MailMerge.Sheet.File

namespace MailMerge

/-- One row of an input file, with the context it is rendered in. -/
structure Job where
  input : String
  row : Nat
  context : Context

/-- How a job ends that does not fail: with an output, or without having been run. -/
inductive Outcome where
  | done (path : String)
  | skipped
  deriving DecidableEq, Repr

/-- What a job changes: files and events, and the variables that are rendered. -/
structure Scene where
  world : World
  context : Context

/-- A step of a job. -/
abbrev JobAction (α : Type) := ExceptT Failure (StateM Scene) α

namespace Job

/-- A text that may be missing, as a value. -/
def textOrNull : Option String → Value
  | some s => .str s
  | none => .null

/-- What a job knows of itself: names for its input, its row, and the options. -/
def metadata (config : Config) (input : String) (row : Nat) : Dict Value :=
  let named := fun (names : List String) (v : Value) => names.map fun name => (name, v)
  Dict.ofList
    (named ["__cwd"] (.str config.cwd) ++
      named ["input", "__input", "src", "__src"] (.str input) ++
      named ["row", "__row"] (.int (Number.ofNat row)) ++
      named ["row_number", "__row_number"] (.int (Number.ofNat (row + 1))) ++
      named ["output", "__output", "destination", "__destination", "dest", "__dest"]
        (.str config.output) ++
      named ["template", "__template"] (.str config.template) ++
      named ["__pre_hook"] (textOrNull config.preHook) ++
      named ["__post_hook"] (textOrNull config.postHook) ++
      named ["__skip"] (textOrNull config.skip) ++
      named ["__force"] (.bool config.force) ++
      named ["__delete"] (.bool config.delete))

/-- The variables of a job: cells over configured variables over metadata. -/
def vars (config : Config) (input : String) (row : Nat) (cells : Dict Value) : Dict Value :=
  mergeVars (mergeVars (metadata config input row) config.vars) cells

/-- The job of a row. -/
def ofRow (env : Environment) (config : Config) (input : String) (row : Nat)
    (cells : Dict Value) : Job :=
  { input := input, row := row
    context := Context.ofValues env [] (vars config input row cells) }

/-- Does something with files and events. -/
def acting {α : Type} (x : Action α) : JobAction α := fun s =>
  match x.runOn s.world with
  | (result, w) => (result, { s with world := w })

/-- Reads something from the context. -/
def reading {α : Type} (part : JobPart) (f : Access → Read α) : JobAction α := fun s =>
  match s.context.run f with
  | (.ok x, c) => (.ok x, { s with context := c })
  | (.error e, c) => (.error (.render part e), { s with context := c })

/-- The value of a variable, which must be defined. -/
def resolve (part : JobPart) (name : String) : JobAction Value :=
  reading part fun a => do ((← a.name name).getD (.undefined name)).defined

/-- The text of a variable. -/
def resolveText (part : JobPart) (name : String) : JobAction String := do
  let v ← resolve part name
  reading part v.output

/-- Whether a variable is true. -/
def resolveFlag (part : JobPart) (name : String) : JobAction Bool :=
  Value.truthy <$> resolve part name

/-- The command of a hook, unless there is none or it is blank. -/
def resolveCommand (kind : HookKind) (name : String) : JobAction (Option String) := do
  match ← resolve (.hook kind) name with
  | .null => return none
  | v =>
    let command ← reading (.hook kind) v.output
    return if Sources.isBlankText command then none else some command

/-- Whether a value of the skip rule says to skip, if it says anything: a blank text does not,
another text has to be a truth word, and other values say what they are. -/
def skipAnswer? : Value → Option Bool
  | .str s =>
    let cs := Text.trim s.toList
    if cs.isEmpty then some false else Value.truthWord? (String.ofList cs)
  | v => some v.truthy

/-- Whether the row is skipped. -/
def shouldSkip : JobAction Bool := do
  let v ← resolve .skipRule "__skip"
  match skipAnswer? v with
  | some answer => return answer
  | none => throw (.render .skipRule (.invalid (.notBoolean v.display)))

/-- Runs a hook, if it has a command. -/
def runHook (shell : Shell) (kind : HookKind) (name folder output : String) : JobAction Unit := do
  match ← resolveCommand kind name with
  | some command => acting (Hook.run shell kind command folder output)
  | none => pure ()

/-- Renders the template file, which is found in a folder. -/
def renderTemplate (folder : String) : JobAction String := do
  let path := Path.join folder (← resolveText .templatePath "__template")
  let source ← acting (InputFile.readText path)
  let env := (← get).context.env
  reading (.template path) fun a => Evaluation.renderSource env a source

/-- Renders a row that is not skipped. -/
def process (shell : Shell) : JobAction String := do
  let folder ← resolveText .workingDirectory "__cwd"
  let output := Path.join folder (← resolveText .outputPath "__output")
  let force ← resolveFlag .forceFlag "__force"
  let delete ← resolveFlag .deleteFlag "__delete"
  runHook shell .pre "__pre_hook" folder output
  let text ← renderTemplate folder
  acting (OutputFile.write output text force)
  runHook shell .post "__post_hook" folder output
  if delete then acting (OutputFile.delete output)
  return output

/-- All that a job does for a row, which counts from one in reports. -/
def steps (shell : Shell) (input : String) (row : Nat) : JobAction Outcome := do
  if ← shouldSkip then
    acting (Action.report (.rowSkipped (row + 1) input))
    return .skipped
  else
    acting (Action.report (.rowStarted (row + 1) input))
    return .done (← process shell)

/-- Runs a job: its outcome or failure, and the files, events and variables behind it. -/
def run (shell : Shell) (job : Job) (w : World) : Except Failure Outcome × Scene :=
  steps shell job.input job.row ⟨w, job.context⟩

end Job

end MailMerge
