/-
# Command lines

Options are spelled with two hyphens and a name, or with one hyphen and a letter;
letters of options without a value can stand together.  A value follows its option, or
is attached to it, behind an equals sign if the option is spelled out.  A value does
not start with a hyphen unless it is attached or a lone hyphen.  The option for
variables takes any number of values.

A value is looked at when it is known to be complete: at the next option, or at the
end.  So an unknown option is noticed before the value of the option in front of it.
-/

import MailMerge.Config.Source
import MailMerge.ExtraVariable

namespace MailMerge

/-- Why a command line is not followed.  Two of the reasons are wishes. -/
inductive UsageFault where
  | invalidValue
  | unknownArgument
  | argumentConflict
  | valueValidation
  | tooManyValues
  | displayHelp
  | displayVersion
  deriving DecidableEq, Repr

/-- The options of the command line. -/
inductive Switch where
  | config | input | template | output | force | delete | preHook | postHook | skip
  | csvDelimiter | headerRowColumn | extraVars | continueOnError | verbose | help | version
  deriving DecidableEq, Repr

namespace Switch

/-- The option of a name. -/
def ofName? (name : String) : Option Switch :=
  match name with
  | "config" => some config
  | "input" => some input
  | "template" => some template
  | "output" => some output
  | "force" => some force
  | "delete" => some delete
  | "pre-hook" => some preHook
  | "post-hook" => some postHook
  | "skip" => some skip
  | "csv-delimiter" => some csvDelimiter
  | "header-row-column" => some headerRowColumn
  | "extra-vars" => some extraVars
  | "continue-on-error" => some continueOnError
  | "verbose" => some verbose
  | "help" => some help
  | "version" => some version
  | _ => none

/-- The option of a letter. -/
def ofLetter? (c : Char) : Option Switch :=
  match c with
  | 'c' => some config
  | 'i' => some input
  | 't' => some template
  | 'o' => some output
  | 'f' => some force
  | 'e' => some extraVars
  | 'v' => some verbose
  | 'h' => some help
  | 'V' => some version
  | _ => none

/-- Whether an option takes a value. -/
def takesValue : Switch → Bool
  | force => false
  | delete => false
  | continueOnError => false
  | verbose => false
  | help => false
  | version => false
  | _ => true

/-- Whether an option takes any number of values at a time. -/
def takesMany (s : Switch) : Bool := s = extraVars

/-- Whether an option may be given again. -/
def repeats : Switch → Bool
  | input => true
  | extraVars => true
  | verbose => true
  | _ => false

/-- Whether the values of an option are paths, which are not empty. -/
def isPath : Switch → Bool
  | config => true
  | input => true
  | _ => false

end Switch

/-- The options given on a command line, with the values of each in order. -/
structure CommandLine where
  given : List (Switch × List String) := []

namespace CommandLine

/-- Whether an option is given. -/
def has (c : CommandLine) (s : Switch) : Bool := c.given.any fun g => g.1 = s

/-- All values of an option. -/
def values (c : CommandLine) (s : Switch) : List String :=
  (c.given.filter fun g => g.1 = s).flatMap Prod.snd

/-- The value of an option. -/
def value? (c : CommandLine) (s : Switch) : Option String := (c.values s).head?

/-- An option without a value: on if it is given. -/
def flag? (c : CommandLine) (s : Switch) : Option Bool := if c.has s then some true else none

/-- How often more detail is asked for. -/
def verbosity (c : CommandLine) : Nat :=
  min 255 (c.given.filter fun g => g.1 = .verbose).length

/-- The variables that are given. -/
def vars (c : CommandLine) : Dict Value :=
  Dict.ofList ((c.values .extraVars).filterMap fun pair => (ExtraVariable.read {} pair).toOption)

/-- The options of a batch. -/
def overrides (c : CommandLine) : Overrides :=
  { configPath := c.value? .config, input := c.values .input
    template := c.value? .template, output := c.value? .output
    force := c.flag? .force, delete := c.flag? .delete
    preHook := c.value? .preHook, postHook := c.value? .postHook, skip := c.value? .skip
    csvDelimiter := c.value? .csvDelimiter, headerRowColumn := c.value? .headerRowColumn
    vars := c.vars, continueOnError := c.flag? .continueOnError }

/-- What is wrong with the values of an option. -/
def valueFault? (s : Switch) (values : List String) : Option UsageFault :=
  if s.takesValue && values.isEmpty then some .invalidValue
  else if s.isPath && values.any String.isEmpty then some .invalidValue
  else if s = .extraVars && values.any fun v => !(ExtraVariable.read {} v).isOk then
    some .valueValidation
  else none

/-- Gives an option its values. -/
def give (c : CommandLine) (s : Switch) (values : List String) : Except UsageFault CommandLine :=
  if s = .help then .error .displayHelp
  else if s = .version then .error .displayVersion
  else if s.takesValue && values.isEmpty then .error .invalidValue
  else if !s.repeats && c.has s then .error .argumentConflict
  else
    match valueFault? s values with
    | some fault => .error fault
    | none => .ok ⟨c.given ++ [(s, values)]⟩

/-- What has been read: the complete options, and the last one with its values so far, which may
still get more. -/
structure Progress where
  line : CommandLine := {}
  pending : Option (Switch × List String) := none

namespace Progress

/-- Completes the last option. -/
def settle (p : Progress) : Except UsageFault CommandLine :=
  match p.pending with
  | some (s, values) => p.line.give s values
  | none => .ok p.line

/-- Starts an option: with an attached value it is complete at once. -/
def start (p : Progress) (s : Switch) (attached : Option String) : Except UsageFault Progress := do
  let line ← p.settle
  match attached with
  | some value => return { line := ← line.give s [value] }
  | none =>
    if s.takesValue then return { line := line, pending := some (s, []) }
    else return { line := ← line.give s [] }

/-- Takes an option that is spelled out, with what follows its equals sign. -/
def takeNamed (p : Progress) (name : String) (attached : Option String) :
    Except UsageFault Progress :=
  match Switch.ofName? name with
  | none => .error .unknownArgument
  | some s =>
    if attached.isSome && !s.takesValue then .error .tooManyValues else p.start s attached

/-- What is attached to the letter of an option: the rest of the argument, without an equals
sign. -/
def attachedTo : List Char → Option String
  | [] => none
  | '=' :: rest => some (String.ofList rest)
  | rest => some (String.ofList rest)

/-- Takes the letters of an argument. -/
def takeLetters (p : Progress) : List Char → Except UsageFault Progress
  | [] => .ok p
  | c :: rest =>
    match Switch.ofLetter? c with
    | none => .error .unknownArgument
    | some s =>
      if s.takesValue then p.start s (attachedTo rest)
      else
        match p.start s none with
        | .ok p => takeLetters p rest
        | .error e => .error e

/-- Takes an argument that is no option: a value of the last option. -/
def takeValue (p : Progress) (value : String) : Except UsageFault Progress :=
  match p.pending with
  | none => .error .unknownArgument
  | some (s, values) => .ok { p with pending := some (s, values ++ [value]) }

/-- Whether the last option still takes a value. -/
def takesMore (p : Progress) : Bool :=
  match p.pending with
  | some (s, values) => s.takesMany || values.isEmpty
  | none => false

/-- Takes an argument. -/
def take (p : Progress) (arg : String) : Except UsageFault Progress :=
  match arg.toList with
  | '-' :: '-' :: rest =>
    match Text.splitOnce? '=' rest with
    | some (name, value) => p.takeNamed (String.ofList name) (some (String.ofList value))
    | none => p.takeNamed (String.ofList rest) none
  | '-' :: c :: rest => p.takeLetters (c :: rest)
  | _ => if p.takesMore then p.takeValue arg else .error .unknownArgument

/-- Takes arguments in turn.  Nothing may follow a lone pair of hyphens. -/
def takeAll (p : Progress) : List String → Except UsageFault CommandLine
  | [] => p.settle
  | arg :: args =>
    if arg = "--" then (if args.isEmpty then p.settle else .error .unknownArgument)
    else
      match p.take arg with
      | .ok p => takeAll p args
      | .error e => .error e

end Progress

/-- Reads the arguments of a command line. -/
def read (args : List String) : Except UsageFault CommandLine := Progress.takeAll {} args

end CommandLine

end MailMerge
