/-
# Configurations

Each option is taken from the first source that gives it: the caller, the
environment, the configuration file, and last its default.  Variables are merged
from all of them, the caller's on top.  A configuration exists if no option has a
problem, so whoever has one need not check it again.
-/

import MailMerge.Config.File
import MailMerge.Config.Merge
import MailMerge.Config.Source
import MailMerge.Value.Coerce

namespace MailMerge

/-- The options of a batch, complete and valid. -/
structure Config where
  inputs : List String
  /-- the path of the template, which may be a template -/
  template : String
  /-- the path of the output, which may be a template -/
  output : String
  force : Bool
  delete : Bool
  preHook : Option String
  postHook : Option String
  skip : Option String
  layout : SheetLayout
  vars : Dict Value
  continueOnError : Bool
  /-- where relative paths start and hooks run -/
  cwd : String
  delimiters : Delimiters

/-- The sources of a configuration. -/
structure Sources where
  given : Overrides := {}
  environ : Dict String := []
  file : ConfigFile := {}
  cwd : String := ""

namespace Sources

/-- The variable of the environment for an option. -/
def fromEnvironment? (s : Sources) (option : String) : Option String := s.environ.find? option

/-- A value with the problems found in it. -/
abbrev Checked (α : Type) := α × List Problem

/-- The text of an option from the first source that gives it. -/
def text? (s : Sources) (option : String) (given file : Option String) : Option String :=
  (given.or (s.fromEnvironment? option)).or file

/-- A list of paths with colons between them. -/
def splitPaths (s : String) : List String :=
  ((Text.splitOn ':' s.toList).map Text.trim).filterMap fun p =>
    if p.isEmpty then none else some (String.ofList p)

/-- The paths that a file's option gives. -/
def pathsOf : Option InputOption → List String
  | some (.one text) => splitPaths text
  | some (.many names) => names
  | none => []

/-- The input files, as seen from where the batch starts. -/
def inputs (s : Sources) : Checked (List String) :=
  let names :=
    if !s.given.input.isEmpty then s.given.input
    else
      match s.fromEnvironment? "input" with
      | some text => splitPaths text
      | none => pathsOf s.file.input
  (names.map (Path.join s.cwd), if names.isEmpty then [.noInput] else [])

/-- Whether a text holds nothing but blanks. -/
def isBlankText (s : String) : Bool := Text.isAllBlank s.toList

/-- An option that needs a value. -/
def required (option : String) : Option String → Checked String
  | some text => if isBlankText text then ("", [.required option]) else (text, [])
  | none => ("", [.required option])

/-- An option that is on or off. -/
def flag (s : Sources) (option : String) (given file : Option Bool) : Checked Bool :=
  match given, s.fromEnvironment? option with
  | some b, _ => (b, [])
  | none, some text =>
    match Value.truthWord? (String.ofList (Text.trim text.toList)) with
    | some b => (b, [])
    | none => (false, [.notBoolean option text])
  | none, none => (file.getD false, [])

/-- A hook, unless it is blank. -/
def hook (s : Sources) (option : String) (given file : Option String) : Option String :=
  (s.text? option given file).filter fun command => !isBlankText command

/-- The rule that skips rows, which has to be a template. -/
def skip (s : Sources) : Checked (Option String) :=
  let rule := s.text? "skip" s.given.skip s.file.skip
  let bad := rule.filter fun r => !s.given.delimiters.inTemplate r
  (rule, bad.toList.map .notTemplate)

/-- The character between the cells of a row. -/
def delimiter (s : Sources) : Checked Char :=
  let text := (s.text? "csv_delimiter" s.given.csvDelimiter s.file.csvDelimiter).getD ","
  match text.toList with
  | [c] => if c.toNat < 128 then (c, []) else (',', [.delimiter text])
  | _ => (',', [.delimiter text])

/-- One part of the place of the header; nothing is zero. -/
def headerPart (cs : List Char) : Checked Nat :=
  if cs.isEmpty then (0, [])
  else
    match Number.readNat? cs with
    | some n => (n, [])
    | none => (0, [.notNatural (String.ofList cs)])

/-- The place of the header in a text: a row, and a column behind a comma. -/
def headerPlace (text : String) : Checked (Nat × Nat) :=
  let parts := (Text.splitOn ',' text.toList).map Text.trim
  let row := headerPart ((parts[0]?).getD [])
  let column := headerPart ((parts[1]?).getD [])
  ((row.1, column.1),
    row.2 ++ column.2 ++ (if 2 < parts.length then [.tooManyParts text] else []))

/-- The place of the header. -/
def header (s : Sources) : Checked (Nat × Nat) :=
  let option := "header_row_column"
  match s.given.headerRowColumn.or (s.fromEnvironment? option), s.file.headerRowColumn with
  | some text, _ => headerPlace text
  | none, some (.text text) => headerPlace text
  | none, some (.row n) => headerPlace (toString n)
  | none, some (.numbers ns) =>
    let place := headerPlace (joinStrings "," (ns.map toString))
    (place.1, (if 2 < ns.length then [.tooManyNumbers] else []) ++ place.2)
  | none, none => ((0, 0), [])

/-- The variables of all sources. -/
def vars (s : Sources) : Checked (Dict Value) :=
  let below := mergeVars [] (s.file.vars.getD [])
  match s.fromEnvironment? "vars" with
  | none => (mergeVars below s.given.vars, [])
  | some text =>
    match ConfigFile.readVars? text with
    | some vs => (mergeVars (mergeVars below vs) s.given.vars, [])
    | none => (mergeVars below s.given.vars, [.notMapping])

/-- The options of all sources, with every problem in them. -/
def build (s : Sources) : Checked Config :=
  let inputs := s.inputs
  let template := required "template" (s.text? "template" s.given.template s.file.template)
  let output := required "output" (s.text? "output" s.given.output s.file.output)
  let force := s.flag "force" s.given.force s.file.force
  let delete := s.flag "delete" s.given.delete s.file.delete
  let goOn := s.flag "continue_on_error" s.given.continueOnError s.file.continueOnError
  let skip := s.skip
  let delimiter := s.delimiter
  let header := s.header
  let vars := s.vars
  ({ inputs := inputs.1, template := template.1, output := output.1
     force := force.1, delete := delete.1
     preHook := s.hook "pre_hook" s.given.preHook s.file.preHook
     postHook := s.hook "post_hook" s.given.postHook s.file.postHook
     skip := skip.1
     layout :=
       { delimiter := delimiter.1, headerRow := header.1.1, headerColumn := header.1.2 }
     vars := vars.1, continueOnError := goOn.1, cwd := s.cwd, delimiters := s.given.delimiters },
    inputs.2 ++ template.2 ++ output.2 ++ force.2 ++ delete.2 ++ goOn.2 ++ skip.2 ++
      delimiter.2 ++ header.2 ++ vars.2)

/-- The configuration of all sources, or all their problems. -/
def config (s : Sources) : Except (List Problem) Config :=
  let built := s.build
  if built.2.isEmpty then .ok built.1 else .error built.2

end Sources

namespace Config

/-- The folder that the configuration file at a path lies in, or else the working folder. -/
def startFolder (t : FileTree) (configPath : Option String) : String :=
  match (configPath.bind Path.parent?).filter fun above => !above.isEmpty with
  | some above => above
  | none => t.workingPath

/-- The options in the configuration file. -/
def loadFile : Option String → Action ConfigFile
  | none => pure {}
  | some path => do
    let content ← Action.ofExcept (.unreadableConfig path) ((← Action.files).readText path)
    match ConfigFile.ofText? content with
    | none => throw (.malformedConfig path)
    | some file =>
      Action.reportAll (file.unknown.map .unknownOption)
      return file

/-- The configuration of the caller's options, the environment, and the configuration file. -/
def load (given : Overrides) (environ : Dict String) : Action Config := do
  let file ← loadFile given.configPath
  let cwd := startFolder (← Action.files) given.configPath
  match Sources.config ⟨given, environ, file, cwd⟩ with
  | .ok config => return config
  | .error problems =>
    Action.reportAll (problems.map .problem)
    throw (.problems problems)

end Config

end MailMerge
