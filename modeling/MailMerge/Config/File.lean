/-
# Configuration files

A configuration file is a YAML mapping.  Each option it knows has a type, and a value
of another type spoils the file, as does an option given twice.  Texts are taken as
they are written, so that `true` can be a template's name.  Options it does not know
are set aside.
-/

import MailMerge.Yaml.Data

namespace MailMerge

/-- Input files: one text that may name several, or a list of names. -/
inductive InputOption where
  | one (text : String)
  | many (names : List String)
  deriving DecidableEq, Repr

/-- The place of the header: a text, a row, or a list of numbers. -/
inductive HeaderOption where
  | text (s : String)
  | row (n : Int)
  | numbers (ns : List Int)
  deriving DecidableEq, Repr

/-- The options of a configuration file. -/
structure ConfigFile where
  input : Option InputOption := none
  template : Option String := none
  output : Option String := none
  force : Option Bool := none
  delete : Option Bool := none
  preHook : Option String := none
  postHook : Option String := none
  skip : Option String := none
  csvDelimiter : Option String := none
  headerRowColumn : Option HeaderOption := none
  vars : Option (Dict Value) := none
  continueOnError : Option Bool := none
  /-- the keys that are no options, in order -/
  unknown : List String := []

namespace ConfigFile

open Yaml

/-- Reads a type of value off a tree. -/
abbrev Decoder (α : Type) := Tree → Option α

/-- Whether a tree stands for a missing value.  The outer option is about whether the tree is in
order. -/
def isAbsent? : Decoder Bool
  | .scalar none .plain text => some (text.isEmpty || Scalar.isNull text)
  | .scalar (some tag) .plain text =>
    if tag = Scalar.standardTag "null" then (if Scalar.isNull text then some true else none)
    else some false
  | _ => some false

/-- A value that may be missing. -/
def optional {α : Type} (decode : Decoder α) : Decoder (Option α) := fun t =>
  match isAbsent? t with
  | none => none
  | some true => some none
  | some false => (decode t).map some

/-- The text of a scalar of any kind. -/
def text : Decoder String
  | .scalar _ _ text => some text
  | _ => none

/-- A boolean. -/
def boolean : Decoder Bool
  | .scalar _ .plain text => Scalar.bool? text
  | .scalar (some tag) .literal text =>
    if tag = Scalar.standardTag "bool" then Scalar.bool? text else none
  | _ => none

/-- How deep the value of an option may be nested. -/
def depth : Nat := Tree.depthLimit - 1

/-- The data of a tree without tags of its own. -/
def data : Decoder Data := Data.ofTree? false depth

/-- The text of data. -/
def textOf? : Data → Option String
  | .str s => some s
  | _ => none

/-- The integer of data, if it fits in 64 bits. -/
def integerOf? : Data → Option Int
  | .int n => (Number.fit? n).map Int64.toInt
  | _ => none

/-- Input files. -/
def inputs : Decoder InputOption := fun t =>
  match data t with
  | some (.str s) => some (.one s)
  | some (.seq items) => (items.mapM textOf?).map .many
  | _ => none

/-- The place of the header. -/
def header : Decoder HeaderOption := fun t =>
  match data t with
  | some (.str s) => some (.text s)
  | some (.int n) => (integerOf? (.int n)).map .row
  | some (.seq items) => (items.mapM integerOf?).map .numbers
  | _ => none

/-- The values of the entries of a mapping whose keys are scalars, with the spelling of the
keys. -/
def entriesOf (depth : Nat) : List (Tree × Tree) → Option (List (String × Value))
  | [] => some []
  | (k, v) :: rest => do
    let key ← text k
    let d ← Data.ofTree? true depth v
    let more ← entriesOf depth rest
    pure ((key, d.value) :: more)

/-- A mapping from texts to values, nested at most `depth` deep. -/
def readVars (depth : Nat) : Decoder (Dict Value)
  | .mapping _ entries => (entriesOf (depth - 1) entries).map Dict.ofList
  | .scalar _ .plain text => if text.isEmpty then some [] else none
  | _ => none

/-- The names of the options. -/
def options : List String :=
  ["input", "template", "output", "force", "delete", "pre_hook", "post_hook", "skip",
    "csv_delimiter", "header_row_column", "vars", "continue_on_error"]

/-- Sets an option, or sets its key aside. -/
def set (f : ConfigFile) (key : String) (t : Tree) : Option ConfigFile :=
  match key with
  | "input" => (optional inputs t).map fun v => { f with input := v }
  | "template" => (optional text t).map fun v => { f with template := v }
  | "output" => (optional text t).map fun v => { f with output := v }
  | "force" => (optional boolean t).map fun v => { f with force := v }
  | "delete" => (optional boolean t).map fun v => { f with delete := v }
  | "pre_hook" => (optional text t).map fun v => { f with preHook := v }
  | "post_hook" => (optional text t).map fun v => { f with postHook := v }
  | "skip" => (optional text t).map fun v => { f with skip := v }
  | "csv_delimiter" => (optional text t).map fun v => { f with csvDelimiter := v }
  | "header_row_column" => (optional header t).map fun v => { f with headerRowColumn := v }
  | "vars" => (optional (readVars depth) t).map fun v => { f with vars := v }
  | "continue_on_error" => (optional boolean t).map fun v => { f with continueOnError := v }
  | key => (data t).map fun _ => { f with unknown := f.unknown ++ [key] }

/-- Sets the options of a mapping's entries; `given` are the keys before them, none of which may
be the same option. -/
def setAll (given : List String) (f : ConfigFile) : List (Tree × Tree) → Option ConfigFile
  | [] => some f
  | (k, t) :: rest => do
    let key ← text k
    let next ← set f key t
    if options.contains key && given.contains key then none
    else setAll (key :: given) next rest

/-- The options in a tree. -/
def ofTree? : Decoder ConfigFile
  | .mapping _ entries =>
    (setAll [] {} entries).map fun f =>
      { f with unknown := Dict.keys (Dict.ofList (f.unknown.map fun key => (key, ()))) }
  | .scalar _ .plain text => if text.isEmpty then some {} else none
  | _ => none

/-- The options in the text of a file; a blank file has none. -/
def ofText? (content : String) : Option ConfigFile :=
  if Text.isAllBlank content.toList then some {}
  else
    match document? content with
    | none => none
    | some none => some {}
    | some (some t) => (optional ofTree? t).map (·.getD {})

/-- The variables in a text: a mapping, or nothing. -/
def readVars? (content : String) : Option (Dict Value) :=
  match document? content with
  | none => none
  | some none => some []
  | some (some t) => readVars Tree.depthLimit t

end ConfigFile

end MailMerge
