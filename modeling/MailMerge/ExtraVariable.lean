/-
# Variables given as text

A variable can be given as one text, its name and its value around an equals sign.
The value is read as YAML, so that numbers and lists can be given.  A template stays
the text it is, and so does whatever YAML takes for a bare text or cannot read.
-/

import MailMerge.Template.Delimiters
import MailMerge.Yaml.Data

namespace MailMerge

/-- What is wrong with a text that should give a variable. -/
inductive VariableFault where
  | noValue (text : String)
  | noName (text : String)
  deriving DecidableEq, Repr

/-- The wording of a fault. -/
def VariableFault.message : VariableFault → String
  | noValue text => "expected key=value, got '" ++ text ++ "'"
  | noName text => "missing variable name in '" ++ text ++ "'"

namespace ExtraVariable

/-- The value that a text gives. -/
def valueOf (d : Delimiters) (raw : String) : Value :=
  if Text.isAllBlank raw.toList || d.inTemplate raw then .str raw
  else
    match Yaml.data? raw with
    | none => .str raw
    | some (.str _) => .str raw
    | some data => data.value

/-- Reads a name and a value around an equals sign. -/
def read (d : Delimiters) (pair : String) : Except VariableFault (String × Value) :=
  match Text.splitOnce? '=' pair.toList with
  | none => .error (.noValue pair)
  | some (key, raw) =>
    let key := Text.trim key
    if key.isEmpty then .error (.noName pair)
    else .ok (String.ofList key, valueOf d (String.ofList raw))

end ExtraVariable

end MailMerge
