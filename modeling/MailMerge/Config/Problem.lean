/-
# Problems of a configuration

An option whose value cannot be used is a problem.  All problems of a configuration
are collected, so that they can be mended together.
-/

namespace MailMerge

/-- What is wrong with an option. -/
inductive Problem where
  | noInput
  | required (option : String)
  | notBoolean (option text : String)
  | notTemplate (rule : String)
  | delimiter (text : String)
  | tooManyNumbers
  | notNatural (text : String)
  | tooManyParts (text : String)
  | notMapping
  deriving DecidableEq, Repr

namespace Problem

/-- The option's name. -/
def option : Problem → String
  | noInput => "input"
  | required key => key
  | notBoolean key _ => key
  | notTemplate _ => "skip"
  | delimiter _ => "csv_delimiter"
  | tooManyNumbers => "header_row_column"
  | notNatural _ => "header_row_column"
  | tooManyParts _ => "header_row_column"
  | notMapping => "vars"

/-- What is wrong with it.  A text that is no mapping is refused without the reasons that a reader
of mappings has. -/
def complaint : Problem → String
  | noInput => "at least one input file is required"
  | required _ => "a value is required"
  | notBoolean _ text => "'" ++ text ++ "' is not a boolean"
  | notTemplate rule => "'" ++ rule ++ "' is not a template expression"
  | delimiter text => "'" ++ text ++ "' is not a single ASCII character"
  | tooManyNumbers => "expected at most two numbers"
  | notNatural text => "'" ++ text ++ "' is not a non-negative integer"
  | tooManyParts text => "'" ++ text ++ "' has more than two parts"
  | notMapping => "ROWJINJA_VARS is not a YAML mapping"

/-- The wording of a problem. -/
def message (p : Problem) : String := "option '" ++ p.option ++ "': " ++ p.complaint

end Problem

end MailMerge
