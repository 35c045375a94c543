/-
# Reading the tokens of a script

Blanks part words, operators stand for themselves, and a line that asks for lines of
text (`<<`) is followed by them.  Quotes and dollar signs are read into the pieces of
words.  Every step takes a character, so as many steps as characters are enough.
-/

import MailMerge.Script.Tree
import MailMerge.Number.Word
import MailMerge.Text.Basic

namespace MailMerge
namespace Script

/-- Whether a character ends a word. -/
def endsWord (c : Char) : Bool := " \t\n;&|<>()".toList.contains c

/-- Whether a character may start a name. -/
def startsName (c : Char) : Bool := c.isAlpha || c == '_'

/-- Whether a character may stand in a name. -/
def inName (c : Char) : Bool := c.isAlphanum || c == '_'

/-- What a reader of words finds, or why it cannot: what is missing at the end. -/
abbrev Found (α : Type) := Except String (α × Bytes)

/-- The message about a quote that is not closed. -/
def openQuote : String := "Unterminated quoted string"

/-- What precedes the bracket that closes an opened one, and what follows it.  Brackets in
quotes do not count, and `missing` is the message if there is none. -/
def upToClosing (opening closing : Char) (missing : String) :
    Nat → Option Char → Bytes → Found Bytes
  | _, none, [] => .error missing
  | _, some _, [] => .error openQuote
  | depth, some quote, '\\' :: c :: cs =>
    let quote := if quote ≠ '"' ∧ c = quote then none else some quote
    (upToClosing opening closing missing depth quote cs).map fun p => ('\\' :: c :: p.1, p.2)
  | depth, none, '\\' :: c :: cs =>
    (upToClosing opening closing missing depth none cs).map fun p => ('\\' :: c :: p.1, p.2)
  | depth, some quote, c :: cs =>
    (upToClosing opening closing missing depth (if c = quote then none else some quote) cs).map
      fun p => (c :: p.1, p.2)
  | depth, none, c :: cs =>
    if c = '\'' ∨ c = '"' then
      (upToClosing opening closing missing depth (some c) cs).map fun p => (c :: p.1, p.2)
    else if c = closing then
      match depth with
      | 0 => .ok ([], cs)
      | depth + 1 =>
        (upToClosing opening closing missing depth none cs).map fun p => (c :: p.1, p.2)
    else
      let depth := if c = opening then depth + 1 else depth
      (upToClosing opening closing missing depth none cs).map fun p => (c :: p.1, p.2)

/-- What precedes the two brackets that close an arithmetic expression, and what follows them.
A single one that closes nothing belongs to the expression. -/
def upToSum : Nat → Bytes → Found Bytes
  | _, [] => .error "Missing '))'"
  | 0, ')' :: ')' :: cs => .ok ([], cs)
  | depth, '\\' :: c :: cs => (upToSum depth cs).map fun p => ('\\' :: c :: p.1, p.2)
  | depth, c :: cs =>
    let depth := if c = '(' then depth + 1 else if c = ')' then depth - 1 else depth
    (upToSum depth cs).map fun p => (c :: p.1, p.2)

/-- What precedes the next backquote, with the backslashes before backquotes, dollar signs and
backslashes taken away, and what follows it. -/
def upToBackquote : Bytes → Found Bytes
  | [] => .error "EOF in backquote substitution"
  | '\\' :: c :: cs =>
    let kept := if "\x60$\\".toList.contains c then [c] else ['\\', c]
    (upToBackquote cs).map fun p => (kept ++ p.1, p.2)
  | c :: cs =>
    if c = '\x60' then .ok ([], cs) else (upToBackquote cs).map fun p => (c :: p.1, p.2)

/-- The name of a parameter at the start of a text, and what follows it. -/
def parameterName (cs : Bytes) : Bytes × Bytes :=
  match cs with
  | [] => ([], [])
  | c :: rest =>
    if startsName c then (cs.takeWhile inName, cs.dropWhile inName)
    else if c.isDigit || "@*#?-$!".toList.contains c then ([c], rest)
    else ([], cs)

/-- The piece inside the braces of a parameter. -/
def bracedParameter (quoted : Bool) (inside : Bytes) : Piece :=
  match inside with
  | '#' :: c :: rest => .parameter quoted (c :: rest) ['#'] []
  | _ =>
    let (name, rest) :=
      if (inside.head?.map Char.isDigit).getD false then
        (inside.takeWhile Char.isDigit, inside.dropWhile Char.isDigit)
      else parameterName inside
    let marks := match rest with
      | ':' :: c :: _ => if "-=?+".toList.contains c then 2 else 1
      | '%' :: '%' :: _ => 2
      | '#' :: '#' :: _ => 2
      | _ => 1
    .parameter quoted name (rest.take marks) (rest.drop marks)

/-- The piece that a dollar sign starts, and what follows it. -/
def dollarPiece (quoted : Bool) (cs : Bytes) : Found Piece :=
  match cs with
  | '(' :: '(' :: rest => (upToSum 0 rest).map fun p => (.arithmetic quoted p.1, p.2)
  | '(' :: rest =>
    let missing := "end of file unexpected (expecting \")\")"
    (upToClosing '(' ')' missing 0 none rest).map fun p => (.output quoted p.1, p.2)
  | '\x7b' :: rest =>
    (upToClosing '\x7b' '\x7d' "Missing '\x7d'" 0 none rest).map fun p =>
      (bracedParameter quoted p.1, p.2)
  | cs =>
    let (name, behind) := parameterName cs
    if name.isEmpty then .ok (.text quoted ['$'], cs)
    else .ok (.parameter quoted name [] [], behind)

/-- How a text ends that is read as between double quotes: with a quote, or as lines or the
braces of a parameter with its own end.  A quote means nothing in lines and is passed over in
braces. -/
inductive QuoteEnd where
  | quote
  | lines
  | braces
  deriving DecidableEq, Repr

/-- The pieces of a text that is read as between double quotes, and what follows it. -/
def doubleQuoted (ending : QuoteEnd) : Nat → Bytes → Found Word
  | 0, cs => .ok ([], cs)
  | fuel + 1, cs =>
    let more := fun (p : Piece) (rest : Bytes) =>
      (doubleQuoted ending fuel rest).map fun r => (p :: r.1, r.2)
    match cs with
    | [] => if ending = .quote then .error openQuote else .ok ([], [])
    | '\\' :: '\n' :: rest => more (.text true []) rest
    | '\\' :: c :: rest =>
      let escapes := "\x60$\\".toList ++ (if ending = .lines then [] else ['"'])
      more (.text true (if escapes.contains c then [c] else ['\\', c])) rest
    | c :: rest =>
      if c = '"' ∧ ending = .quote then .ok ([.text true []], rest)
      else if c = '"' ∧ ending = .braces then more (.text true []) rest
      else if c = '$' then (dollarPiece true rest).bind fun p => more p.1 p.2
      else if c = '\x60' then (upToBackquote rest).bind fun p => more (.output true p.1) p.2
      else more (.text true [c]) rest

/-- The pieces of a word, and what follows it. -/
def wordPieces : Nat → Bytes → Found Word
  | 0, cs => .ok ([], cs)
  | fuel + 1, cs =>
    let more := fun (ps : Word) (rest : Bytes) =>
      (wordPieces fuel rest).map fun r => (ps ++ r.1, r.2)
    match cs with
    | [] => .ok ([], [])
    | '\\' :: '\n' :: rest => wordPieces fuel rest
    | '\\' :: c :: rest => more [.text true [c]] rest
    | c :: rest =>
      if endsWord c then .ok ([], cs)
      else if c = '\'' then
        match Text.splitOnce? '\'' rest with
        | some (inside, behind) => more [.text true inside] behind
        | none => .error openQuote
      else if c = '"' then
        (doubleQuoted .quote fuel rest).bind fun p => more (.text true [] :: p.1) p.2
      else if c = '$' then (dollarPiece false rest).bind fun p => more [p.1] p.2
      else if c = '\x60' then (upToBackquote rest).bind fun p => more [.output false p.1] p.2
      else more [.text false [c]] rest

/-- The pieces of a text with an end of its own, as between double quotes. -/
def quotedText (ending : QuoteEnd) (text : Bytes) : Word :=
  match doubleQuoted ending (text.length + 1) text with
  | .ok (w, _) => w
  | .error _ => [.text true text]

/-- The text of a word without its quotes. -/
def unquoted (w : Word) : Bytes := w.flatMap fun
  | .text _ text => text
  | _ => []

/-- Whether a word has quotes. -/
def hasQuotes (w : Word) : Bool := w.any fun
  | .text quoted _ => quoted
  | _ => false

/-- The operators, longer ones first. -/
def operators : List String :=
  ["<<-", "&&", "||", ";;", "<<", ">>", "<&", ">&", ">|", "<>", "&", "|", ";", "<", ">", "(", ")"]

/-- Takes lines of text up to the one that is `stop`; leading tabs may be dropped.  The last
line of a script ends without a line break. -/
def takeLines (dropTabs : Bool) (stop : Bytes) : List Bytes → Bytes × List Bytes
  | [] => ([], [])
  | line :: rest =>
    let line := if dropTabs then line.dropWhile (· == '\t') else line
    if line = stop then ([], rest)
    else
      let (body, behind) := takeLines dropTabs stop rest
      (line ++ (if rest.isEmpty then [] else ['\n']) ++ body, behind)

/-- Lines that a command asks for: whether tabs are dropped, the line that ends them, and
whether they are taken as they are. -/
structure Wanted where
  dropTabs : Bool
  stop : Bytes
  verbatim : Bool

/-- The pieces of lines of text. -/
def linesWord (verbatim : Bool) (text : Bytes) : Word :=
  if verbatim then [.text true text] else quotedText .lines text

/-- Takes the lines that the commands of a line ask for, in turn. -/
def takeWanted : List Wanted → Bytes → List Word × Bytes
  | [], cs => ([], cs)
  | w :: ws, cs =>
    let (body, behind) := takeLines w.dropTabs w.stop (Text.splitOn '\n' cs)
    let (words, rest) := takeWanted ws (Text.joinWith ['\n'] behind)
    (linesWord w.verbatim body :: words, rest)

/-- Puts the words of lines in place of the marks left for them. -/
def fillLines : List Token → List Word → List Token
  | .lines _ :: ts, w :: ws => .lines w :: fillLines ts ws
  | t :: ts, ws => t :: fillLines ts ws
  | [], _ => []

/-- The tokens of a script.  `line` is the number of the line, `wanted` are the lines it asks
for, and `current` its tokens so far. -/
def tokensFrom : Nat → Nat → List Wanted → List Token → Bytes → List Token
  | 0, _, _, current, _ => current
  | fuel + 1, line, wanted, current, cs =>
    let cannot := fun (message : String) => current ++ [.fault (line + cs.count '\n') message]
    match cs with
    | [] => fillLines current (takeWanted wanted []).1 ++ [.finish line]
    | '\n' :: rest =>
      let (words, behind) := takeWanted wanted rest
      let taken := (rest.take (rest.length - behind.length)).count '\n'
      fillLines current words ++
        .newline (line + 1) :: tokensFrom fuel (line + 1 + taken) [] [] behind
    | '\\' :: '\n' :: rest => tokensFrom fuel (line + 1) wanted current rest
    | c :: rest =>
      if c = ' ' ∨ c = '\t' then tokensFrom fuel line wanted current rest
      else if c = '#' then
        tokensFrom fuel line wanted current (rest.dropWhile (· != '\n'))
      else
        match operators.find? fun op => Text.startsWith op.toList cs with
        | some op =>
          let behind := cs.drop op.length
          if op = "<<" ∨ op = "<<-" then
            let behind := behind.dropWhile fun d => d == ' ' || d == '\t'
            match wordPieces (behind.length + 1) behind with
            | .error message => cannot message
            | .ok (w, after) =>
              if after.length = behind.length then
                tokensFrom fuel line wanted (current ++ [.operator line "<<"]) behind
              else
                let want : Wanted := ⟨op == "<<-", unquoted w, hasQuotes w⟩
                tokensFrom fuel line (wanted ++ [want])
                  (current ++ [.operator line "<<", .lines []]) after
          else tokensFrom fuel line wanted (current ++ [.operator line op]) behind
        | none =>
          match wordPieces (cs.length + 1) cs with
          | .error message => cannot message
          | .ok (w, behind) =>
            let text := (bareText? w).getD []
            let redirects := behind.head? == some '<' || behind.head? == some '>'
            let lines := (cs.take (cs.length - behind.length)).count '\n'
            let t := if Number.isDigits text && redirects then Token.stream (Number.ofDigits text)
              else .word line w
            tokensFrom fuel (line + lines) wanted (current ++ [t]) behind

/-- The tokens of a script. -/
def tokens (source : Bytes) : List Token := tokensFrom (source.length + 1) 1 [] [] source

end Script
end MailMerge
