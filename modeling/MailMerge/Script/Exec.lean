/-
# Running scripts

Commands run one after the other and leave a status; zero is success.  A script whose
commands are nested too deeply ends, and so does a loop that does not stop.  What a
pipeline, a subshell or a captured script does to variables is forgotten, what it does
to files is not.
-/

import MailMerge.Hook
import MailMerge.Script.Builtin
import MailMerge.Script.Expand
import MailMerge.Script.Reader
import MailMerge.Script.Tool

namespace MailMerge
namespace Script
namespace Exec

/-- Runs a script given as text. -/
abbrev Runner := Bytes → Run Unit

/-- What a script puts out, without what it changes. -/
def outputOf (run : Runner) (source : Bytes) : Run Bytes :=
  Run.capture (Run.apart (run source))

/-- Ends the script if the last command failed where that matters. -/
def settle : Run Unit := do
  let s ← get
  if s.strict && !s.tested && s.status ≠ 0 then throw .exit

/-- Runs something whose status is looked at. -/
def asTest (x : Run Unit) : Run Unit := do
  let before := (← get).tested
  modify fun s => { s with tested := true }
  x.followedBy (modify fun s => { s with tested := before })

/-- Runs something that a command reads as a script, as messages about it say. -/
def withCaption (caption : String) (x : Run Unit) : Run Unit := do
  let before := (← get).caption
  modify fun s => { s with caption := caption }
  x.followedBy (modify fun s => { s with caption := before })

/-! Streams -/

/-- Sets where a stream leads. -/
def setStream (stream : Nat) (sink : Sink) : Run Unit :=
  modify fun s => { s with streams := (stream, sink) :: s.streams.filter fun p => p.1 != stream }

/-- Opens a file for a stream; the result says whether that could be done. -/
def openFile (stream : Nat) (opening : Opening) (path : Bytes) : Run Bool := do
  let name := toText path
  if name = "/dev/null" then
    if opening = .read then modify fun s => { s with input := [] } else setStream stream .nowhere
    return true
  let t := (← get).files
  match opening with
  | .read =>
    match t.read name with
    | .ok content =>
      modify fun s => { s with input := unpack content }
      return true
    | .error .isAFolder => return true
    | .error e =>
      Run.report ("cannot open " ++ name ++ ": " ++
        (if e = .notFound then "No such file" else reason e))
      return false
  | opening =>
    let before := if opening = .append then ((t.read name).toOption).getD ByteArray.empty
      else ByteArray.empty
    match t.write name before, t.locate name with
    | .ok t, .ok place =>
      modify fun s => { s with files := t }
      setStream stream (.file place)
      return true
    | .error e, _ =>
      Run.report ("cannot create " ++ name ++ ": " ++
        (if e = .notFound then "Directory nonexistent" else reason e))
      return false
    | _, .error _ => return false

/-- Does a redirection; the result says whether that could be done. -/
def redirect (run : Runner) (r : Redirect) : Run Bool := do
  match r with
  | .file stream opening path => openFile stream opening (← Expand.text (outputOf run) path)
  | .text _ body =>
    let text ← Expand.text (outputOf run) body
    modify fun s => { s with input := text }
    return true
  | .same stream target =>
    let text ← Expand.text (outputOf run) target
    if text == ['-'] then
      if stream ≤ 2 then setStream stream .nowhere
      else modify fun s => { s with streams := s.streams.filter fun p => p.1 != stream }
      return true
    else if Number.isDigits text then
      match (← get).streams.lookup (Number.ofDigits text) with
      | some sink =>
        setStream stream sink
        return true
      | none =>
        if Number.ofDigits text == 0 then return true
        Run.report (toText text ++ ": Bad file descriptor")
        return false
    else openFile stream .write text

/-- Does redirections in turn, up to the first that cannot be done. -/
def redirectAll (run : Runner) : List Redirect → Run Bool
  | [] => return true
  | r :: rs => do
    if ← redirect run r then redirectAll run rs else return false

/-- Whether a redirection changes what is read. -/
def changesInput : Redirect → Bool
  | .file _ opening _ => opening = .read
  | .text _ _ => true
  | .same _ _ => false

/-- Runs something with redirections, which are undone behind it.  If one cannot be done,
nothing is run; `vital` says that this ends the script. -/
def withRedirects (run : Runner) (vital : Bool) (rs : List Redirect) (x : Run Unit) :
    Run Unit := do
  if rs.isEmpty then x
  else
    let before ← get
    let attempt : Run Unit := do
      if ← redirectAll run rs then x
      else
        Run.setStatus 2
        if vital then throw .exit
    attempt.followedBy (modify fun s =>
      { s with
        streams := before.streams
        input := if rs.any changesInput then before.input else s.input })

/-! Commands of the shell that change its course -/

/-- The number that an argument of a command gives; what is none ends the script. -/
def numberOf (command : String) (arg : Bytes) : Run Nat := do
  if Number.isDigits arg then return Number.ofDigits arg
  else Run.refuse (command ++ ": Illegal number: " ++ toText arg)

/-- The number that the first argument of a command gives, if there is one. -/
def firstNumber (command : String) (default : Nat) (args : List Bytes) : Run Nat :=
  match args with
  | [] => return default
  | arg :: _ => numberOf command arg

/-- The status that an argument gives, or what the last one was. -/
def statusOf (command : String) (args : List Bytes) : Run Nat := do
  return (← firstNumber command (← get).status args) % 256

/-- Goes to a folder. -/
def changeFolder (args : List Bytes) : Run Nat := do
  let s ← get
  let path := match args with
    | [] => (s.vars.lookup "HOME".toList).getD []
    | ['-'] :: _ => (s.vars.lookup "OLDPWD".toList).getD []
    | arg :: _ => arg
  match s.files.folder (toText path) with
  | .ok place =>
    Run.setVariable "OLDPWD".toList (ofText s.files.workingPath)
    modify fun s => { s with files := { s.files with here := place } }
    Run.setVariable "PWD".toList (ofText (← get).files.workingPath)
    return 0
  | .error _ =>
    Run.shellComplain ("cd: can't cd to " ++ toText path)
    return 2

/-- The names of the signals from the first on; the end of a script counts as number zero. -/
def signals : List String :=
  ["EXIT", "HUP", "INT", "QUIT", "ILL", "TRAP", "ABRT", "BUS", "FPE", "KILL", "USR1", "SEGV",
    "USR2", "PIPE", "ALRM", "TERM", "STKFLT", "CHLD", "CONT", "STOP", "TSTP", "TTIN", "TTOU",
    "URG", "XCPU", "XFSZ", "VTALRM", "PROF", "WINCH", "POLL", "PWR", "SYS"]

/-- The signal that a number or a name stands for. -/
def signal? (text : Bytes) : Option String :=
  if Number.isDigits text then signals[Number.ofDigits text]?
  else signals.find? fun name => name.toList == text.map Char.toUpper

/-- The signals that a script does not end with: those for children, going on, urgent data and
window sizes, and the number zero. -/
def harmless : List String := ["EXIT", "CHLD", "CONT", "URG", "WINCH"]

/-- How the command that sends signals is used. -/
def killUsage : String :=
  "kill: Usage: kill [-s sigspec | -signum | -sigspec] [pid | job]... or\nkill -l [exitstatus]"

/-- Sends a signal, which can only reach the script itself. -/
def kill (run : Runner) (args : List Bytes) : Run Nat := do
  let (signal, processes) ← match args with
    | ['-', 's'] :: name :: rest =>
      if (signal? name).isNone then
        Run.shellComplain ("kill: invalid signal number or name: " ++ toText name)
      pure (signal? name, rest)
    | ('-' :: c :: name) :: rest =>
      if (signal? (c :: name)).isNone then
        Run.shellComplain ("kill: Illegal option -" ++ toText [c])
      pure (signal? (c :: name), rest)
    | rest => pure (some "TERM", rest)
  match signal with
  | none => return 2
  | some signal =>
    let s ← get
    if processes.isEmpty then
      Run.shellComplain killUsage
      return 2
    else if processes.contains ((Expand.parameter? s ['$']).getD []) then
      match s.traps.lookup signal with
      | some action =>
        if signal = "KILL" ∨ signal = "STOP" then throw .killed
        if signal ≠ "EXIT" then run action
        return 0
      | none => if harmless.contains signal then return 0 else throw .killed
    else
      match processes.find? fun p => !Number.isDigits p with
      | some p =>
        Run.shellComplain ("kill: Illegal number: " ++ toText p)
        return 2
      | none =>
        Run.shellComplain "kill: No such process\n"
        return 1

/-- Sets what is run for signals, or at the end. -/
def trap (args : List Bytes) : Run Nat := do
  let (action, names) := match args with
    | ['-', '-'] :: action :: names => (some action, names)
    | [] => (none, [])
    | action :: names =>
      if Number.isDigits action || names.isEmpty then (none, action :: names)
      else (some action, names)
  let action := action.filter (· != ['-'])
  match names.find? fun name => (signal? name).isNone with
  | some name =>
    Run.complain ("trap: " ++ toText name ++ ": bad trap")
    return 1
  | none =>
    let named := names.filterMap signal?
    modify fun s =>
      let others := s.traps.filter fun t => !named.contains t.1
      { s with traps := (match action with
          | some action => named.map fun name => (name, action)
          | none => []) ++ others }
    return 0

/-- The names of the options of the shell with their letters. -/
def optionNames : List (String × Char) :=
  [("errexit", 'e'), ("nounset", 'u'), ("xtrace", 'x'), ("noglob", 'f'), ("ignoreeof", 'I'),
    ("interactive", 'i'), ("monitor", 'm'), ("noexec", 'n'), ("stdin", 's'), ("verbose", 'v'),
    ("vi", 'V'), ("emacs", 'E'), ("noclobber", 'C'), ("allexport", 'a'), ("notify", 'b')]

/-- Turns an option of the shell on or off. -/
def setOption (on : Bool) (letter : Char) : Run Unit := do
  if letter = 'e' then modify fun s => { s with strict := on }
  else if letter = 'u' then modify fun s => { s with needsValues := on }
  else if letter = 'x' then modify fun s => { s with traced := on }
  else if !(optionNames.any fun o => o.2 == letter) then
    Run.refuse ("set: Illegal option -" ++ toText [letter])

/-- Sets options from letters, of which `o` takes a name from the arguments behind. -/
def setLetters (on : Bool) : Bytes → List Bytes → Run (List Bytes)
  | [], args => return args
  | 'o' :: letters, name :: args => do
    match optionNames.find? fun o => o.1.toList == name with
    | some o => setOption on o.2
    | none => Run.refuse ("set: Illegal option -o " ++ toText name)
    setLetters on letters args
  | 'o' :: letters, [] => setLetters on letters []
  | letter :: letters, args => do
    setOption on letter
    setLetters on letters args

/-- Sets the options at the start of some arguments.  The result are the arguments behind them,
or none if there was no end of options and nothing behind. -/
def takeOptions : Nat → List Bytes → Run (Option (List Bytes))
  | 0, args => return some args
  | fuel + 1, args => do
    match args with
    | [] => return none
    | ['-', '-'] :: rest => return some rest
    | ['-'] :: rest => return if rest.isEmpty then none else some rest
    | ('-' :: letters) :: rest => takeOptions fuel (← setLetters true letters rest)
    | ('+' :: letters) :: rest => takeOptions fuel (← setLetters false letters rest)
    | rest => return some rest

/-- Sets options and arguments. -/
def setOptions (args : List Bytes) : Run Nat := do
  match ← takeOptions (args.length + 1) args with
  | some rest => modify fun s => { s with arguments := rest }
  | none => pure ()
  return 0

/-- Does something with the names, and values if they have some, that a command declares. -/
def declare (command : String) (f : Bytes → Option Bytes → Run Unit) (args : List Bytes) :
    Run Nat := do
  let args := args.filter (· != ['-', 'p'])
  for arg in args do
    let (name, value) := match Text.splitOnce? '=' arg with
      | some (name, value) => (name, some value)
      | none => (arg, none)
    if !Reader.isName name then Run.refuse (command ++ ": " ++ toText name ++ ": bad variable name")
    f name value
  return 0

/-- Sets a variable for a command of the shell that declares it. -/
def setDeclared (command : String) (name : Bytes) (value : Option Bytes) : Run Unit :=
  withCaption (command ++ ": ") (value.forM (Run.setVariable name))

/-- Shows variables to programs. -/
def exportNames : List Bytes → Run Nat :=
  declare "export" fun name value => do
    setDeclared "export" name value
    modify fun s => { s with exported := name :: s.exported }

/-- Has variables keep their values. -/
def freezeNames : List Bytes → Run Nat :=
  declare "readonly" fun name value => do
    setDeclared "readonly" name value
    modify fun s => { s with frozen := name :: s.frozen }

/-- Makes variables local to a function. -/
def localNames (args : List Bytes) : Run Nat := do
  if (← get).saved.isNone then Run.refuse "local: not in a function"
  args |> declare "local" fun name value => do
    modify fun s =>
      { s with saved := s.saved.map fun saved => (name, s.vars.lookup name) :: saved }
    setDeclared "local" name value

/-- Takes a line from what is read, with each character whether a backslash was before it, and
whether a line break ended it.  `plain` says that backslashes mean nothing. -/
def takeLine (plain : Bool) : Bytes → Field × Bytes × Bool
  | [] => ([], [], false)
  | '\\' :: c :: cs =>
    if plain then
      let (line, rest, ended) := takeLine plain (c :: cs)
      (('\\', false) :: line, rest, ended)
    else
      let (line, rest, ended) := takeLine plain cs
      (if c = '\n' then line else (c, true) :: line, rest, ended)
  | c :: cs =>
    if c = '\n' then ([], cs, true)
    else
      let (line, rest, ended) := takeLine plain cs
      ((c, false) :: line, rest, ended)

/-- Fills variables from a line; the last one takes what is left of it. -/
def fillNames (separators : Bytes) : List Bytes → Field → Run Unit
  | [], _ => pure ()
  | name :: names, line => do
    let isBlank := fun (c : Char × Bool) =>
      !c.2 && separators.contains c.1 && blanks.contains c.1
    let parts := fun (c : Char × Bool) => !c.2 && separators.contains c.1
    let line := line.dropWhile isBlank
    let word := line.takeWhile fun c => !parts c
    let behind := (line.drop word.length).dropWhile isBlank
    let behind := match behind with
      | c :: rest => if parts c then rest.dropWhile isBlank else behind
      | [] => []
    if names.isEmpty && !behind.isEmpty then
      Run.setVariable name (Field.text (line.reverse.dropWhile isBlank).reverse)
    else
      Run.setVariable name (Field.text word)
      fillNames separators names behind

/-- Reads a line into variables. -/
def readLine (args : List Bytes) : Run Nat := do
  let (options, names) := Tool.optionsOf "p" args
  match options.find? fun o => o.1 != 'r' && o.1 != 'p', names.find? fun n => !Reader.isName n with
  | some o, _ =>
    Run.shellComplain ("read: Illegal option -" ++ toText [o.1])
    return 2
  | none, some name =>
    Run.shellComplain ("read: " ++ toText name ++ ": bad variable name")
    return 2
  | none, none =>
    if names.isEmpty then
      Run.shellComplain "read: arg count"
      return 2
    let s ← get
    let (line, rest, ended) := takeLine (Tool.given options 'r') s.input
    set { s with input := rest }
    try
      withCaption "read: " (fillNames (separators s) names line)
      return if ended then 0 else 1
    catch _ => return 2

/-- Drops the first arguments. -/
def shift (args : List Bytes) : Run Nat := do
  let n ← firstNumber "shift" 1 args
  let s ← get
  if s.arguments.length < n then Run.refuse "shift: can't shift that many"
  set { s with arguments := s.arguments.drop n }
  return 0

/-- Forgets variables, or functions. -/
def unset (args : List Bytes) : Run Nat := do
  let (options, names) := Tool.optionsOf "" args
  if Tool.given options 'f' then
    modify fun s => { s with functions := s.functions.filter fun f => !names.contains f.1 }
    return 0
  names |> declare "unset" fun name _ => do
    if (← get).frozen.contains name then Run.refuse ("unset: " ++ toText name ++ ": is read only")
    modify fun s => { s with
      vars := s.vars.filter fun v => v.1 != name
      exported := s.exported.filter (· != name) }

/-- Writes the working folder. -/
def showFolder : Run Nat := do
  Run.write 1 (ofText ((← get).files.workingPath ++ "\n"))
  return 0

/-- The commands of the shell by name. -/
def builtin? (name : String) : Option (List Bytes → Run Nat) :=
  match name with
  | ":" => some Tool.succeed
  | "true" => some Tool.succeed
  | "false" => some Tool.fail
  | "echo" => some Builtin.echo
  | "printf" => some Builtin.printf
  | "test" => some (Builtin.test "test")
  | "[" => some Builtin.bracket
  | "cd" => some changeFolder
  | "pwd" => some fun _ => showFolder
  | "set" => some setOptions
  | "export" => some exportNames
  | "readonly" => some freezeNames
  | "local" => some localNames
  | "read" => some readLine
  | "shift" => some shift
  | "unset" => some unset
  | "trap" => some trap
  | "wait" => some Tool.succeed
  | "umask" => some Tool.succeed
  | "alias" => some Tool.succeed
  | "hash" => some Tool.succeed
  | "ulimit" => some Tool.succeed
  | "times" => some Tool.succeed
  | "exit" => some fun args => do
    Run.setStatus (← statusOf "exit" args)
    throw .exit
  | "return" => some fun args => do
    Run.setStatus (← statusOf "return" args)
    throw .back
  | "break" => some fun args => do
    let n ← firstNumber "break" 1 args
    Run.setStatus 0
    throw (.leave n)
  | "continue" => some fun args => do
    let n ← firstNumber "continue" 1 args
    Run.setStatus 0
    throw (.again n)
  | _ => none

/-- The commands of the shell that end a script if they fail. -/
def vitalCommands : List String :=
  [":", ".", "break", "continue", "eval", "exec", "exit", "export", "readonly", "return", "set",
    "shift", "times", "trap", "unset"]

/-- The name of a tool without the folder that programs are in. -/
def toolName (name : Bytes) : String :=
  let folders := ["/bin/", "/usr/bin/"]
  toText ((folders.findSome? fun f => Text.dropLead? f.toList name).getD name)

/-- How the shell finds a command: as part of itself or on a path. -/
def found? (s : State) (name : Bytes) : Option Bytes :=
  let text := toText name
  if (s.functions.lookup name).isSome || (builtin? text).isSome || vitalCommands.contains text ||
    ["command", "kill", "type"].contains text || Reader.reserved.contains text then some name
  else if (Tool.all.lookup (toolName name)).isSome || ["sh", "env"].contains (toolName name) then
    some (if name.contains '/' then name else "/usr/bin/".toList ++ name)
  else none

/-- Says what commands are. -/
def describe (names : List Bytes) : Run Nat :=
  names |> Tool.forEach fun name => do
    let s ← get
    let text := toText name
    let what := match found? s name with
      | none => ": not found"
      | some path =>
        if Reader.reserved.contains text then " is a shell keyword"
        else if (s.functions.lookup name).isSome then " is a shell function"
        else if vitalCommands.contains text then " is a special shell builtin"
        else if path = name && !name.contains '/' then " is a shell builtin"
        else " is " ++ toText path
    Run.write 1 (name ++ ofText (what ++ "\n"))
    return if (found? s name).isSome then 0 else 127

/-- The status of a command that is nowhere: one with a slash may be a file that is no
program. -/
def notFound (name : Bytes) : Run Nat := do
  let s ← get
  if name.contains '/' && s.files.occupied (toText name) then
    Run.report (toText name ++ ": Permission denied")
    return 126
  else
    Run.report (toText name ++ ": not found")
    return 127

/-! Commands -/

/-- Runs something up to where it returns. -/
def untilReturn (x : Run Unit) : Run Unit := do
  try x
  catch stop => if stop = .back then return () else throw stop

/-- Variables of which some are set back to what they were, the latest first. -/
def setBack (saved : List (Bytes × Option Bytes)) (vars : List (Bytes × Bytes)) :
    List (Bytes × Bytes) :=
  saved.foldl (fun vs v =>
    (v.2.map fun value => (v.1, value)).toList ++ vs.filter fun w => w.1 != v.1) vars

/-- Runs a function's body with arguments and local variables of its own. -/
def inFunction (args : List Bytes) (x : Run Unit) : Run Unit := do
  let before ← get
  set { before with arguments := args, saved := some [] }
  (untilReturn x).followedBy (modify fun s =>
    { s with
      arguments := before.arguments, saved := before.saved
      vars := setBack (s.saved.getD []) s.vars })

/-- Sets variables for a command that sees them, and back behind it. -/
def withVariables (vs : List (Bytes × Bytes)) (x : Run Unit) : Run Unit := do
  if vs.isEmpty then x
  else
    let before ← get
    let saved := vs.map fun v => (v.1, before.vars.lookup v.1)
    let all : Run Unit := do
      vs.forM fun v => Run.setVariable v.1 v.2
      modify fun s => { s with exported := vs.map Prod.fst ++ s.exported }
      x
    all.followedBy (modify fun s =>
      { s with vars := setBack saved s.vars, exported := before.exported })

/-- Runs a script and, however it ends, what it has asked to be run then.  Its status stays
what it was unless it is ended by an exit of its own. -/
def toTheEnd (run : Runner) (x : Run Unit) : Run Unit := do
  let stop ← try
      x
      pure (none : Option Stop)
    catch stop => pure (some stop)
  if stop = some .killed then throw .killed
  let s ← get
  match s.traps.lookup "EXIT" with
  | none => pure ()
  | some action =>
    set { s with traps := s.traps.filter fun t => t.1 != "EXIT" }
    try
      run action
      Run.setStatus s.status
    catch stop => if stop = .killed then throw stop
  if stop.isSome then throw .exit

/-- Runs a script in a shell that knows nothing but what programs see. -/
def inNewShell (run : Runner) (name : Bytes) (args : List Bytes) (script : Bytes) : Run Unit :=
  Run.apart (do
    modify fun s =>
      { s with
        vars := s.vars.filter fun v => s.exported.contains v.1
        name, arguments := args, functions := [], frozen := [], saved := none, traps := []
        caption := "", line := 1, strict := false, tested := false, needsValues := false
        traced := false, status := 0 }
    toTheEnd run (run script))

/-- Runs another shell: a script that is given, in a file, or what is left to read. -/
def newShell (run : Runner) (args : List Bytes) : Run Unit := do
  let options := args.takeWhile fun a => a.head? == some '-' && a.length > 1
  let letters := options.flatMap (·.drop 1)
  let rest := args.drop options.length
  let prepared : Runner := fun script => do
    (letters.filter fun c => c != 'c' && c != 's').forM (setOption true)
    run script
  let refuse := fun (message : String) (status : Nat) => do
    modify fun s => { s with line := 0 }
    Run.shellComplain message
    Run.setStatus status
  match letters.contains 'c', rest with
  | true, [] => refuse "-c requires an argument" 2
  | true, [script] => inNewShell prepared ['s', 'h'] [] script
  | true, script :: name :: args => inNewShell prepared name args script
  | false, [] => inNewShell prepared ['s', 'h'] [] (← Tool.takeInput)
  | false, path :: args =>
    if letters.contains 's' then
      inNewShell prepared ['s', 'h'] (path :: args) (← Tool.takeInput)
    else
      match (← get).files.read (toText path) with
      | .ok content => inNewShell prepared path args (unpack content)
      | .error _ => refuse ("cannot open " ++ toText path ++ ": No such file") 2

/-- Runs the script in a file as a part of this one. -/
def includeFile (run : Runner) (args : List Bytes) : Run Unit := do
  match args with
  | [] => Run.setStatus 0
  | path :: _ =>
    if !path.contains '/' then Run.refuse (".: " ++ toText path ++ ": not found")
    match (← get).files.read (toText path) with
    | .ok content =>
      withCaption (toText path ++ ": ") (untilReturn (run (unpack content)))
    | .error _ => Run.refuse (".: cannot open " ++ toText path ++ ": No such file")

/-- Runs a command with variables set for it, or shows those that programs see. -/
def withEnvironment (run : List Bytes → Run Unit) (args : List Bytes) : Run Unit := do
  let (empty, args) := match args with
    | ['-', 'i'] :: args => (true, args)
    | args => (false, args)
  let assigned := (args.takeWhile fun a => a.contains '=').filterMap (Text.splitOnce? '=')
  let command := args.dropWhile fun a => a.contains '='
  let before ← get
  let inside : Run Unit := do
    if empty then modify fun s => { s with vars := [] }
    withVariables assigned (do
      match command with
      | [] => Run.setStatus (← Tool.env [])
      | name :: _ =>
        if (found? (← get) name).isNone then
          Run.complain ("env: '" ++ toText name ++ "': No such file or directory")
          Run.setStatus 127
        else run command)
  inside.followedBy (modify fun s => { s with vars := before.vars })

/-- Runs a loop's body, and says whether the loop goes on. -/
def turn (body : Run Unit) : Run Bool := do
  try
    body
    return true
  catch stop =>
    match stop with
    | .leave 0 => return false
    | .leave 1 => return false
    | .leave (n + 1) => throw (.leave n)
    | .again 0 => return true
    | .again 1 => return true
    | .again (n + 1) => throw (.again n)
    | stop => throw stop

/-- Repeats a body while a condition has the wanted outcome. -/
def repeatWhile (stopsAt : Bool) (condition body : Run Unit) : Nat → Nat → Run Unit
  | 0, last => Run.setStatus last
  | fuel + 1, last => do
    asTest condition
    if ((← get).status == 0) == stopsAt then Run.setStatus last
    else if ← turn body then repeatWhile stopsAt condition body fuel (← get).status
    else Run.setStatus 0

/-- Runs a body for each value of a variable. -/
def forValues (name : Bytes) (body : Run Unit) : List Bytes → Run Unit
  | [] => pure ()
  | v :: vs => do
    Run.setVariable name v
    if ← turn body then forValues name body vs

/-- Shows assignments and arguments on standard error if commands are shown. -/
def showTraced (values : List (Bytes × Bytes)) (args : List Bytes) : Run Unit := do
  if (← get).traced && !(values.isEmpty && args.isEmpty) then
    let shown := (values.map fun v => v.1 ++ '=' :: v.2) ++ args
    Run.write 2 (['+', ' '] ++ Text.joinWith [' '] shown ++ ['\n'])

mutual

/-- Runs a command. -/
def command : Nat → Command → Run Unit
  | 0, _ => throw .exit
  | fuel + 1, c => do
    match c with
    | .simple line assignments words rs => do
      modify fun s => { s with line := line }
      simple fuel assignments words rs
      settle
    | .redirected body rs => withRedirects (source fuel) false rs (command fuel body)
    | .pipe negated stages =>
      if negated then
        asTest (pipeline fuel stages)
        modify fun s => { s with status := if s.status = 0 then 1 else 0 }
      else
        pipeline fuel stages
        settle
    | .both first second =>
      asTest (command fuel first)
      if (← get).status = 0 then command fuel second
    | .either first second =>
      asTest (command fuel first)
      if (← get).status ≠ 0 then command fuel second
    | .sequence cs => inTurn fuel cs
    | .subshell body =>
      Run.apart (command fuel body)
      settle
    | .branch cases otherwise => branch fuel cases otherwise
    | .loop stopsAt condition body =>
      repeatWhile stopsAt (command fuel condition) (command fuel body) 100000 0
    | .each name words body =>
      let values ← match words with
        | some ws => Expand.arguments (outputOf (source fuel)) ws
        | none => pure (← get).arguments
      Run.setStatus 0
      forValues name (command fuel body) values
    | .choose w cases =>
      let text ← Expand.text (outputOf (source fuel)) w
      choose fuel text cases
    | .define name body =>
      modify fun s => { s with functions := (name, body) :: s.functions, status := 0 }

/-- Runs commands in turn. -/
def inTurn : Nat → List Command → Run Unit
  | 0, _ => throw .exit
  | _, [] => pure ()
  | fuel + 1, c :: cs => do
    command fuel c
    inTurn fuel cs

/-- Runs the stages of a pipeline, each reading what the one before puts out. -/
def pipeline : Nat → List Command → Run Unit
  | 0, _ => throw .exit
  | _, [] => pure ()
  | fuel + 1, [last] => command fuel last
  | fuel + 1, c :: cs => do
    let before := (← get).input
    let text ← Run.capture (Run.apart (command fuel c))
    modify fun s => { s with input := text }
    match cs with
    | [last] => Run.apart (command fuel last)
    | cs => pipeline fuel cs
    modify fun s => { s with input := before }

/-- Runs the first case whose condition holds. -/
def branch : Nat → List (Command × Command) → Option Command → Run Unit
  | 0, _, _ => throw .exit
  | fuel + 1, (condition, body) :: rest, otherwise => do
    asTest (command fuel condition)
    if (← get).status = 0 then command fuel body else branch fuel rest otherwise
  | fuel + 1, [], some body => command fuel body
  | _, [], none => Run.setStatus 0

/-- Runs the first case that has a pattern for a text. -/
def choose : Nat → Bytes → List (List Word × Command) → Run Unit
  | 0, _, _ => throw .exit
  | _, _, [] => Run.setStatus 0
  | fuel + 1, text, (ws, body) :: rest => do
    let patterns ← ws.mapM (Expand.pattern (outputOf (source fuel)))
    if patterns.any fun p => Wildcard.fits p text then
      Run.setStatus 0
      command fuel body
    else choose fuel text rest

/-- Runs a simple command. -/
def simple : Nat → List (Bytes × Word) → List Word → List Redirect → Run Unit
  | 0, _, _, _ => throw .exit
  | fuel + 1, assignments, words, rs => do
    let output := outputOf (source fuel)
    let before := (← get).status
    if words.isEmpty then Run.setStatus 0
    let args ← Expand.arguments output words
    match args with
    | [] =>
      let values ← assignments.mapM fun a => do
        let value ← Expand.text output a.2
        Run.setVariable a.1 value
        pure (a.1, value)
      showTraced values []
      withRedirects (source fuel) false rs (pure ())
    | name :: args =>
      let values ← assignments.mapM fun a => return (a.1, ← Expand.text output a.2)
      showTraced values (name :: args)
      Run.setStatus before
      if name == "exec".toList then
        if !(← redirectAll (source fuel) rs) then
          Run.setStatus 2
          throw .exit
        if !args.isEmpty then
          withCaption "exec: " (withVariables values (args.head?.forM fun name =>
            call fuel name (args.drop 1)))
          throw .exit
      else
        withRedirects (source fuel) (vitalCommands.contains (toText name)) rs
          (withVariables values (call fuel name args))

/-- Runs the command of a name with arguments. -/
def call : Nat → Bytes → List Bytes → Run Unit
  | 0, _, _ => throw .exit
  | fuel + 1, name, args => do
    let s ← get
    match s.functions.lookup name with
    | some body => inFunction args (command fuel body)
    | none =>
      match toolName name, args with
      | "eval", args => withCaption "eval: " (source fuel (Text.joinWith [' '] args))
      | ".", args => includeFile (source fuel) args
      | "kill", args => Run.setStatus (← kill (source fuel) args)
      | "type", args => Run.setStatus (← describe args)
      | "command", ['-', 'v'] :: name :: _ =>
        (found? s name).forM fun path => Run.write 1 (path ++ ['\n'])
        Run.setStatus (if (found? s name).isSome then 0 else 127)
      | "command", ['-', 'V'] :: names => Run.setStatus (← describe names)
      | "command", name :: args => call fuel name args
      | "command", [] => Run.setStatus 0
      | "sh", args => newShell (source fuel) args
      | "env", args =>
        args |> withEnvironment fun command =>
          command.head?.forM fun name => call fuel name (command.drop 1)
      | _, args =>
        match (builtin? (toText name)).or (Tool.all.lookup (toolName name)) with
        | some f => Run.setStatus (← f args)
        | none => Run.setStatus (← notFound name)

/-- Runs a script line by line.  A line that cannot be read ends it. -/
def source : Nat → Bytes → Run Unit
  | 0, _ => throw .exit
  | fuel + 1, text => lines fuel (tokens text)

/-- Runs the lines of a script whose tokens have been read. -/
def lines : Nat → List Token → Run Unit
  | 0, _ => throw .exit
  | fuel + 1, ts => do
    match (Reader.nextLine (4 * ts.length + 20)).run ts with
    | .error fault =>
      modify fun s => { s with line := fault.line }
      Run.abandon ("Syntax error: " ++ fault.message)
    | .ok (none, _) => pure ()
    | .ok (some c, rest) =>
      command fuel c
      lines fuel rest

end

/-- How deep commands may be nested, where each command of a row is one deeper. -/
def depthLimit : Nat := 1000000

/-- The state a script starts with. -/
def start (environ : List (String × String)) (t : FileTree) : State :=
  { files := t
    vars := (environ.map fun v => (ofText v.1, ofText v.2)) ++
      [("PWD".toList, ofText t.workingPath)]
    exported := environ.map fun v => ofText v.1 }

end Exec

/-- The shell that runs scripts, with variables of the environment. -/
def shell (environ : List (String × String)) : Shell := fun script t =>
  let run := Exec.source Exec.depthLimit
  let (stop, s) := ((Exec.toTheEnd run (run (ofText script))).run).run (Exec.start environ t)
  let killed := match stop with
    | .error .killed => true
    | _ => false
  { code := if killed then none else some s.status
    errors := toText (Run.bufferText s 2), files := s.files }

end Script
end MailMerge
