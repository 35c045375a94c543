/-
# Where options come from

Options are given by the caller, by variables of the process's environment whose
names start with `ROWJINJA_`, and by a configuration file.
-/

import MailMerge.Config.File
import MailMerge.Event
import MailMerge.Template.Delimiters

namespace MailMerge

/-- Options given by the caller. -/
structure Overrides where
  configPath : Option String := none
  input : List String := []
  template : Option String := none
  output : Option String := none
  force : Option Bool := none
  delete : Option Bool := none
  preHook : Option String := none
  postHook : Option String := none
  skip : Option String := none
  csvDelimiter : Option String := none
  headerRowColumn : Option String := none
  vars : Dict Value := []
  continueOnError : Option Bool := none
  delimiters : Delimiters := {}

namespace OptionVariable

/-- What the names of variables with options start with. -/
def lead : String := "ROWJINJA_"

/-- The option that a variable of this name would give: what follows the lead, if the name
has it. -/
def key? (name : String) : Option String :=
  (Text.dropLead? lead.toList name.toList).map String.ofList

/-- The option of that name in capitals. -/
def option? (key : String) : Option String :=
  ConfigFile.options.find? fun option => option.toUpper == key

/-- The options in variables of the environment. -/
def read (environ : List (String × String)) : Dict String :=
  Dict.ofList (environ.filterMap fun (name, value) =>
    ((key? name).bind option?).map fun option => (option, value))

/-- The variables that have the lead and give no option. -/
def unknown (environ : List (String × String)) : List String :=
  (environ.map Prod.fst).filter fun name =>
    match key? name with
    | some key => (option? key).isNone
    | none => false

/-- The options in variables of the environment, with a report of the unknown ones. -/
def load (environ : List (String × String)) : Action (Dict String) := do
  Action.reportAll ((unknown environ).map .unknownVariable)
  return read environ

end OptionVariable

end MailMerge
