/-
# Reading the commands of a script

A script is read and run line by line: what a line needs to be complete belongs to it.
So a fault in a later line does not keep the earlier ones from being run.
-/

import MailMerge.Script.Lexer

namespace MailMerge
namespace Script

/-- Why a script cannot be read on: a message, and the line it is about. -/
structure ReadFault where
  line : Nat
  message : String

/-- A reader of commands over the tokens ahead. -/
abbrev Reader (α : Type) := StateT (List Token) (Except ReadFault) α

namespace Reader

/-- The words that structure a script where a command may start. -/
def reserved : List String :=
  ["!", "\x7b", "\x7d", "if", "then", "elif", "else", "fi", "while", "until", "for", "do",
    "done", "case", "esac", "in"]

/-- A token as it is named in a message. -/
def nameOf : Token → String
  | .newline _ => "newline"
  | .operator _ op =>
    if ["<", ">", ">>", "<<", "<&", ">&", ">|", "<>"].contains op then "redirection"
    else "\"" ++ op ++ "\""
  | .word _ w =>
    match bareText? w with
    | some text =>
      let s := String.ofList text
      if reserved.contains s then "\"" ++ s ++ "\"" else "word"
    | none => "word"
  | .fault _ _ => "word"
  | .finish _ => "end of file"
  | _ => "redirection"

/-- The line of the next token. -/
def line : Reader Nat := do
  match (← get).head? with
  | some (.word n _) => return n
  | some (.operator n _) => return n
  | some (.newline n) => return n
  | some (.fault n _) => return n
  | some (.finish n) => return n
  | _ => return 1

/-- Refuses the script at the next token. -/
def refuse {α : Type} (message : String) : Reader α := do
  throw ⟨← line, message⟩

/-- Refuses the next token; `expected` is what had to stand there, if only one thing could. -/
def unexpected {α : Type} (expected : Option String) : Reader α := do
  match (← get).head? with
  | some (.fault _ message) => refuse message
  | t =>
    let hint := match expected with
      | some e => " (expecting " ++ e ++ ")"
      | none => ""
    refuse ((t.map nameOf).getD "end of file" ++ " unexpected" ++ hint)

/-- Refuses the next token in place of a word or operator. -/
def expecting {α : Type} (text : String) : Reader α := unexpected (some ("\"" ++ text ++ "\""))

/-- Goes on behind the next token. -/
def skip : Reader Unit := modify (·.drop 1)

/-- The text of the next token, if it is a word without quotes. -/
def bareWord? : Reader (Option String) := do
  match (← get).head? with
  | some (.word _ w) => return (bareText? w).map String.ofList
  | _ => return none

/-- Whether the next token is a word of the given text. -/
def seesWord (s : String) : Reader Bool := return (← bareWord?) == some s

/-- Whether the next token is an operator. -/
def seesOperator (op : String) : Reader Bool := do
  match (← get).head? with
  | some (.operator _ text) => return text == op
  | _ => return false

/-- Takes an operator if it is next. -/
def takesOperator (op : String) : Reader Bool := do
  if ← seesOperator op then
    skip
    return true
  else return false

/-- Takes a word of the given text, which has to be next. -/
def needWord (s : String) : Reader Unit := do
  if ← seesWord s then skip else expecting s

/-- Takes an operator that has to be next. -/
def needOperator (op : String) : Reader Unit := do
  if !(← takesOperator op) then expecting op

/-- Goes on over line breaks. -/
def skipNewlines : Reader Unit := modify (·.dropWhile fun
  | .newline _ => true
  | _ => false)

/-- Whether the script ends here. -/
def atFinish : Reader Bool := do
  match (← get).head? with
  | none => return true
  | some (.finish _) => return true
  | _ => return false

/-- Takes a word of any text. -/
def needAnyWord : Reader Word := do
  match (← get).head? with
  | some (.word _ w) =>
    skip
    return w
  | _ => unexpected none

/-- The name and value of an assignment at the start of a word. -/
def assignment? (w : Word) : Option (Bytes × Word) :=
  let rec go (name : Bytes) : Word → Option (Bytes × Word)
    | .text false text :: rest =>
      match text with
      | ['='] => if name.isEmpty then none else some (name, rest)
      | [c] =>
        if (if name.isEmpty then startsName c else inName c) then go (name ++ [c]) rest else none
      | _ => none
    | _ => none
  go [] w

/-- Takes a redirection, if one is next. -/
def redirect? : Reader (Option Redirect) := do
  let (given, rest) := match ← get with
    | .stream n :: rest => (some n, rest)
    | rest => (none, rest)
  match rest with
  | .operator _ op :: rest =>
    let file := fun (stream : Nat) (opening : Opening) => do
      set rest
      let w ← needAnyWord
      return some (Redirect.file (given.getD stream) opening w)
    match op, rest with
    | "<<", .lines body :: rest =>
      set rest
      return some (.text (given.getD 0) body)
    | "<<", _ => file 0 .read
    | "<", _ => file 0 .read
    | "<>", _ => file 0 .read
    | ">", _ => file 1 .write
    | ">|", _ => file 1 .write
    | ">>", _ => file 1 .append
    | ">&", _ =>
      set rest
      let w ← needAnyWord
      return some (.same (given.getD 1) w)
    | "<&", _ =>
      set rest
      let w ← needAnyWord
      return some (.same (given.getD 0) w)
    | _, _ => return none
  | _ => return none

/-- Takes redirections. -/
def redirects : Nat → Reader (List Redirect)
  | 0 => return []
  | fuel + 1 => do
    match ← redirect? with
    | some r => return r :: (← redirects fuel)
    | none => return []

/-- What a simple command is made of. -/
structure Parts where
  assignments : List (Bytes × Word) := []
  words : List Word := []
  redirects : List Redirect := []

/-- Takes the words and redirections of a simple command. -/
def parts : Nat → Parts → Reader Parts
  | 0, p => return p
  | fuel + 1, p => do
    match ← redirect? with
    | some r => parts fuel { p with redirects := p.redirects ++ [r] }
    | none =>
      match (← get).head? with
      | some (.word _ w) =>
        skip
        match p.words, assignment? w with
        | [], some a => parts fuel { p with assignments := p.assignments ++ [a] }
        | ws, _ => parts fuel { p with words := ws ++ [w] }
      | _ => return p

/-- Takes a simple command. -/
def simple (fuel : Nat) : Reader Command := do
  let n ← line
  let p ← parts fuel {}
  if p.assignments.isEmpty && p.words.isEmpty && p.redirects.isEmpty then unexpected none
  else return .simple n p.assignments p.words p.redirects

/-- Whether a text is a name. -/
def isName (text : Bytes) : Bool := (text.head?.map startsName).getD false && text.all inName

/-- The name of a function that is defined here. -/
def functionName? : Reader (Option Bytes) := do
  match ← get with
  | .word n w :: .operator _ "(" :: rest =>
    match assignment? w with
    | some _ => return none
    | none =>
      set rest
      needOperator ")"
      match (bareText? w).filter isName with
      | some name => return some name
      | none => throw ⟨n, "Bad function name"⟩
  | _ => return none

/-- Takes words up to the end of a command. -/
def restOfWords : Nat → Reader (List Word)
  | 0 => return []
  | fuel + 1 => do
    match (← get).head? with
    | some (.word _ w) =>
      skip
      return w :: (← restOfWords fuel)
    | _ => return []

/-- Takes patterns with bars between them up to the closing bracket. -/
def patterns : Nat → Reader (List Word)
  | 0 => unexpected none
  | fuel + 1 => do
    match (← get).head? with
    | some (.word _ w) =>
      skip
      if ← takesOperator "|" then return w :: (← patterns fuel)
      needOperator ")"
      return [w]
    | _ => expecting ")"

/-- Takes the name of the variable of a loop. -/
def loopName : Reader Bytes := do
  match (← get).head? with
  | some (.word _ w) =>
    match (bareText? w).filter isName with
    | some name =>
      skip
      return name
    | none => refuse "Bad for loop variable"
  | some (.fault _ message) => refuse message
  | _ => refuse "Bad for loop variable"

/-- Takes a semicolon or line break that has to be next. -/
def needSeparator : Reader Unit := do
  if !(← takesOperator ";") then
    match (← get).head? with
    | some (.newline _) => pure ()
    | _ => unexpected none

mutual

/-- Takes commands up to one of the given words or what ends a list.  `lines` says whether line
breaks part them. -/
def list : Nat → Bool → Reader Command
  | 0, _ => unexpected none
  | fuel + 1, lines => do
    if lines then skipNewlines
    if lines && (← atFinish) then return .sequence []
    let first ← andOr fuel
    let rest ← listRest fuel lines
    return .sequence (first :: rest)

/-- Takes the further commands of a list. -/
def listRest : Nat → Bool → Reader (List Command)
  | 0, _ => unexpected none
  | fuel + 1, lines => do
    let parted := (← takesOperator ";") || (← takesOperator "&")
    let newline := match (← get).head? with
      | some (.newline _) => true
      | _ => false
    if lines then skipNewlines
    if !(parted || (lines && newline)) || (← atEnd lines) then return []
    let next ← andOr fuel
    let rest ← listRest fuel lines
    return next :: rest

/-- Whether nothing can follow in a list. -/
def atEnd (lines : Bool) : Reader Bool := do
  match (← get).head? with
  | none => return true
  | some (.finish _) => return true
  | some (.newline _) => return !lines
  | some (.operator _ op) => return op == ")" || op == ";;"
  | some (.word _ w) =>
    let stops := ["then", "elif", "else", "fi", "do", "done", "esac", "\x7d"]
    return ((bareText? w).map fun t => stops.contains (String.ofList t)).getD false
  | _ => return false

/-- Takes pipelines of which one depends on the other. -/
def andOr : Nat → Reader Command
  | 0 => unexpected none
  | fuel + 1 => do
    let first ← pipeline fuel
    andOrRest fuel first

/-- Takes the further pipelines behind `first`. -/
def andOrRest : Nat → Command → Reader Command
  | 0, _ => unexpected none
  | fuel + 1, first => do
    if ← takesOperator "&&" then
      skipNewlines
      let second ← pipeline fuel
      andOrRest fuel (.both first second)
    else if ← takesOperator "||" then
      skipNewlines
      let second ← pipeline fuel
      andOrRest fuel (.either first second)
    else return first

/-- Takes commands with bars between them. -/
def pipeline : Nat → Reader Command
  | 0 => unexpected none
  | fuel + 1 => do
    let negated ← seesWord "!"
    if negated then skip
    let first ← command fuel
    let rest ← stages fuel
    return if negated || !rest.isEmpty then .pipe negated (first :: rest) else first

/-- Takes the further commands of a pipeline. -/
def stages : Nat → Reader (List Command)
  | 0 => unexpected none
  | fuel + 1 => do
    if ← takesOperator "|" then
      skipNewlines
      let next ← command fuel
      return next :: (← stages fuel)
    else return []

/-- Takes a command with its redirections. -/
def command : Nat → Reader Command
  | 0 => unexpected none
  | fuel + 1 => do
    match ← functionName? with
    | some name =>
      skipNewlines
      let body ← command fuel
      return .define name body
    | none =>
      match ← compound? fuel with
      | some c =>
        let rs ← redirects fuel
        return if rs.isEmpty then c else .redirected c rs
      | none => simple fuel

/-- Takes a command that is made of commands, if one is next. -/
def compound? : Nat → Reader (Option Command)
  | 0 => unexpected none
  | fuel + 1 => do
    if ← takesOperator "(" then
      let body ← list fuel true
      needOperator ")"
      return some (.subshell body)
    match ← bareWord? with
    | some "\x7b" =>
      skip
      let body ← list fuel true
      needWord "\x7d"
      return some body
    | some "if" =>
      skip
      return some (← branches fuel [])
    | some "while" =>
      skip
      return some (← loopFrom fuel false)
    | some "until" =>
      skip
      return some (← loopFrom fuel true)
    | some "for" =>
      skip
      let name ← loopName
      skipNewlines
      let words ← if ← seesWord "in" then do
          skip
          let ws ← restOfWords fuel
          needSeparator
          pure (some ws)
        else do
          let _ ← takesOperator ";"
          pure none
      skipNewlines
      needWord "do"
      let body ← list fuel true
      needWord "done"
      return some (.each name words body)
    | some "case" =>
      skip
      let w ← match (← get).head? with
        | some (.word _ w) => pure w
        | _ => unexpected (some "word")
      skip
      skipNewlines
      needWord "in"
      return some (.choose w (← choices fuel))
    | some s => if reserved.contains s && s ≠ "in" then unexpected none else return none
    | none => return none

/-- Takes the cases of `if` behind the word. -/
def branches : Nat → List (Command × Command) → Reader Command
  | 0, _ => unexpected none
  | fuel + 1, before => do
    let condition ← list fuel true
    needWord "then"
    let body ← list fuel true
    let all := before ++ [(condition, body)]
    match ← bareWord? with
    | some "elif" =>
      skip
      branches fuel all
    | some "else" =>
      skip
      let otherwise ← list fuel true
      needWord "fi"
      return .branch all (some otherwise)
    | _ =>
      needWord "fi"
      return .branch all none

/-- Takes the condition and body of a loop. -/
def loopFrom : Nat → Bool → Reader Command
  | 0, _ => unexpected none
  | fuel + 1, stopsAt => do
    let condition ← list fuel true
    needWord "do"
    let body ← list fuel true
    needWord "done"
    return .loop stopsAt condition body

/-- Takes the cases of `case` up to its end. -/
def choices : Nat → Reader (List (List Word × Command))
  | 0 => unexpected none
  | fuel + 1 => do
    skipNewlines
    if ← seesWord "esac" then
      skip
      return []
    let _ ← takesOperator "("
    let ws ← patterns fuel
    skipNewlines
    let body ← if (← seesOperator ";;") || (← seesWord "esac") then pure (.sequence [])
      else list fuel true
    if ← takesOperator ";;" then return (ws, body) :: (← choices fuel)
    else if ← seesWord "esac" then
      skip
      return [(ws, body)]
    else expecting ";;"

end

/-- Takes the next line of a script, if there is one. -/
def nextLine (fuel : Nat) : Reader (Option Command) := do
  skipNewlines
  if ← atFinish then return none
  let c ← list fuel false
  match (← get).head? with
  | some (.newline _) => return some c
  | _ => if ← atFinish then return some c else unexpected none

end Reader

end Script
end MailMerge
