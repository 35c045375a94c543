/-
# The program

From the arguments, the variables of the environment and the files to an exit code,
log lines and files.  A command line that cannot be followed ends the program before
anything else happens, and a breakdown ends it on the spot.
-/

import MailMerge.Batch
import MailMerge.CommandLine
import MailMerge.LogFilter

namespace MailMerge
namespace Program

/-- What is left when the program ends. -/
structure Ending where
  exitCode : Nat
  files : FileTree
  /-- the events that are logged -/
  logged : List Event := []
  /-- why the command line was not followed -/
  usage : Option UsageFault := none

/-- The exit code after a command line that was not followed: asking for help is no fault. -/
def usageCode : UsageFault → Nat
  | .displayHelp => 0
  | .displayVersion => 0
  | _ => 2

/-- The exit code after a breakdown. -/
def crashCode : Nat := 101

/-- What the program does once it has its command line. -/
def batch (shell : Shell) (books : WorkbookReader) (line : CommandLine)
    (environ : List (String × String)) : Action Report := do
  let options ← OptionVariable.load environ
  let config ← Config.load line.overrides options
  Batch.run shell books (config.environment []) config

/-- Which events are logged: as a variable of the environment says, or as the command line
does. -/
def filterFor (line : CommandLine) (environ : List (String × String)) : LogFilter :=
  ((environ.lookup "RUST_LOG").bind LogFilter.ofText?).getD (.ofVerbosity line.verbosity)

/-- Runs the program. -/
def run (shell : Shell) (books : WorkbookReader) (args : List String)
    (environ : List (String × String)) (files : FileTree) : Ending :=
  match CommandLine.read args with
  | .error fault => { exitCode := usageCode fault, files := files, usage := some fault }
  | .ok line =>
    let (result, w) := (batch shell books line environ).runOn { files := files }
    let (code, events) := match result with
      | .ok _ => (0, w.events)
      | .error e =>
        if e.isCrash then (crashCode, w.events) else (1, w.events ++ [Event.stopped e])
    { exitCode := code, files := w.files
      logged := events.filter (filterFor line environ).admits }

end Program
end MailMerge
