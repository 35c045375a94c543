/-
# What ends a batch or a job

Failures are told apart by what is at fault: the configuration, an input file, a
template, an output file or a hook.
-/

import MailMerge.Config.Problem
import MailMerge.Error
import MailMerge.FileTree
import MailMerge.Sheet.Basic

namespace MailMerge

/-- Which side of the rendering a hook runs on. -/
inductive HookKind where
  | pre | post
  deriving DecidableEq, Repr

/-- The kind's name. -/
def HookKind.name : HookKind → String
  | pre => "pre"
  | post => "post"

/-- What a job renders. -/
inductive JobPart where
  | skipRule
  | workingDirectory
  | outputPath
  | forceFlag
  | deleteFlag
  | hook (kind : HookKind)
  | templatePath
  | template (path : String)
  deriving DecidableEq, Repr

/-- The part's name. -/
def JobPart.name : JobPart → String
  | skipRule => "skip rule"
  | workingDirectory => "working directory"
  | outputPath => "output path"
  | forceFlag => "force flag"
  | deleteFlag => "delete flag"
  | hook kind => kind.name ++ " hook"
  | templatePath => "template path"
  | template path => "template '" ++ path ++ "'"

/-- Why a file cannot serve as input. -/
inductive InputFault where
  | missing
  | notAFile
  | notBinary
  | binary
  | unreadable (cause : FileError)
  | undecodable (reason : String)
  | noWorksheet
  deriving DecidableEq, Repr

/-- The wording for the file at a path. -/
def InputFault.message (path : String) : InputFault → String
  | missing => "'" ++ path ++ "' doesn't exist"
  | notAFile => "'" ++ path ++ "' is not a file"
  | notBinary => "'" ++ path ++ "' is not a binary spreadsheet file"
  | binary => "'" ++ path ++ "' is a binary file"
  | unreadable cause => "failed to read '" ++ path ++ "': " ++ cause.message
  | undecodable reason => "failed to read '" ++ path ++ "': " ++ reason
  | noWorksheet => "'" ++ path ++ "' contains no worksheet"

/-- Why an output file cannot be written or deleted. -/
inductive OutputFault where
  | notAFile
  | exists
  | unwritable (cause : FileError)
  | undeletable (cause : FileError)
  deriving DecidableEq, Repr

/-- The wording for the file at a path. -/
def OutputFault.message (path : String) : OutputFault → String
  | notAFile => "'" ++ path ++ "' exists and is not a file"
  | «exists» => "'" ++ path ++ "' already exists, use force to overwrite it"
  | unwritable cause => "cannot write '" ++ path ++ "': " ++ cause.message
  | undeletable cause => "cannot delete '" ++ path ++ "': " ++ cause.message

/-- How a hook fails. -/
inductive HookFault where
  | notStarted (command reason : String)
  | exited (code : Nat) (errors : String)
  | killed (errors : String)
  deriving DecidableEq, Repr

/-- The wording of a fault, with what the command wrote to standard error. -/
def HookFault.message : HookFault → String
  | notStarted command reason => "failed to start '" ++ command ++ "': " ++ reason
  | exited code errors => "exit code " ++ toString code ++ ": " ++ errors
  | killed errors => "terminated by signal: " ++ errors

/-- What ends a batch or a job. -/
inductive Failure where
  | unreadableConfig (path : String) (cause : FileError)
  | malformedConfig (path : String)
  | problems (all : List Problem)
  | input (path : String) (fault : InputFault)
  | sheet (path : Option String) (fault : SheetFault)
  | render (part : JobPart) (cause : RenderError)
  | output (path : String) (fault : OutputFault)
  | hook (kind : HookKind) (path : String) (fault : HookFault)
  deriving DecidableEq

namespace Failure

/-- The wording of a failure. -/
def message : Failure → String
  | unreadableConfig path cause =>
    "configuration error: cannot read config file '" ++ path ++ "': " ++ cause.message
  | malformedConfig path => "configuration error: invalid config file '" ++ path ++ "'"
  | problems all => "configuration error: " ++ joinStrings "; " (all.map Problem.message)
  | input path fault => "input error: " ++ fault.message path
  | sheet none fault => "input error: " ++ fault.message
  | sheet (some path) fault => "input error: '" ++ path ++ "': " ++ fault.message
  | render part cause => "failed to render " ++ part.name ++ ": " ++ cause.message
  | output path fault => "output error: " ++ fault.message path
  | hook kind path fault =>
    "failed to run " ++ kind.name ++ " hook for '" ++ path ++ "': " ++ fault.message

/-- Whether it is a breakdown, which ends the whole program. -/
def isCrash : Failure → Bool
  | render _ cause => cause.isCrash
  | _ => false

end Failure

end MailMerge
