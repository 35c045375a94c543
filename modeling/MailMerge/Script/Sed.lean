/-
# Line edits

A small language that edits a text line by line: each command applies to some lines
and replaces what matches a pattern, drops the line, or writes it.  Its patterns come
in two spellings, of which the basic one puts a backslash before the operators.
-/

import MailMerge.Pattern.Search
import MailMerge.Pattern.Replace
import MailMerge.Script.Wildcard

namespace MailMerge
namespace Script
namespace Sed

/-- The character that a letter behind a backslash stands for. -/
def escape? (c : Char) : Option Char :=
  match c with
  | 'n' => some '\n'
  | 't' => some '\t'
  | 'r' => some '\r'
  | 'a' => some (Char.ofNat 7)
  | 'b' => some (Char.ofNat 8)
  | 'f' => some (Char.ofNat 12)
  | 'v' => some (Char.ofNat 11)
  | '0' => some (Char.ofNat 0)
  | _ => none

/-- The characters that are operators with a backslash in one spelling and without it in the
other. -/
def isSwitched (c : Char) : Bool := "()\x7b\x7d|+?".toList.contains c

/-- A pattern in the spelling of `Pattern.Program.compile?`.  Inside brackets a backslash stands for
itself. -/
def patternSource (extended : Bool) (cs : Bytes) : Bytes := go false cs
where
  /-- the rest of the pattern, inside a bracket or not -/
  go : Bool → Bytes → Bytes
    | _, [] => []
    | true, c :: rest =>
      if c = ']' then c :: go false rest
      else if c = '\\' then '\\' :: '\\' :: go true rest
      else c :: go true rest
    | false, '\\' :: c :: rest =>
      if c = 'n' ∨ c = 't' then '\\' :: c :: go false rest
      else if isSwitched c then (if extended then ['\\', c] else [c]) ++ go false rest
      else if c = '/' then '/' :: go false rest
      else '\\' :: c :: go false rest
    | false, '[' :: '^' :: c :: rest => '[' :: '^' :: c :: go true rest
    | false, '[' :: c :: rest => '[' :: c :: go true rest
    | false, c :: rest =>
      (if isSwitched c && !extended then ['\\', c] else [c]) ++ go false rest

/-- A part of the text that is put for a match. -/
inductive Part where
  | char (c : Char)
  | group (n : Nat)

/-- The parts of a replacement. -/
def partsOf : Bytes → List Part
  | '\\' :: c :: rest =>
    (if c.isDigit then .group (Number.digitValue c) else .char ((escape? c).getD c)) ::
      partsOf rest
  | '&' :: rest => .group 0 :: partsOf rest
  | c :: rest => .char c :: partsOf rest
  | [] => []

/-- Which line a command starts or stops at. -/
inductive Address where
  | line (n : Nat)
  | last
  | pattern (prog : Pattern.Program)

/-- What a command does with a line. -/
inductive Edit where
  | replace (prog : Pattern.Program) (parts : List Part) (everywhere shown : Bool) (nth : Nat)
  | delete
  | print
  | quit

/-- A command: an edit, and the lines it applies to. -/
structure Rule where
  from? : Option Address := none
  to? : Option Address := none
  negated : Bool := false
  edit : Edit

/-- What precedes the next `stop` that has no backslash before it, and what follows it. -/
def upTo? (stop : Char) : Bytes → Option (Bytes × Bytes)
  | [] => none
  | '\\' :: c :: rest =>
    let kept := if c = stop ∧ c ≠ '&' then [c] else ['\\', c]
    (upTo? stop rest).map fun p => (kept ++ p.1, p.2)
  | c :: rest =>
    if c = stop then some ([], rest) else (upTo? stop rest).map fun p => (c :: p.1, p.2)

/-- Reads an address, if one is next. -/
def address? (extended : Bool) : Bytes → Option (Option Address × Bytes)
  | '$' :: rest => some (some .last, rest)
  | '/' :: rest => do
    let (source, behind) ← upTo? '/' rest
    let prog ← Pattern.Program.compile? false false (String.ofList (patternSource extended source))
    pure (some (.pattern prog), behind)
  | c :: rest =>
    if c.isDigit then
      some (some (.line (Number.ofDigits ((c :: rest).takeWhile Char.isDigit))),
        rest.dropWhile Char.isDigit)
    else some (none, c :: rest)
  | [] => some (none, [])

/-- Reads what follows the letter of a replacement. -/
def replacement? (extended : Bool) : Bytes → Option (Edit × Bytes)
  | [] => none
  | stop :: rest => do
    let (source, rest) ← upTo? stop rest
    let (text, rest) ← upTo? stop rest
    let flags := rest.takeWhile fun c => c.isAlphanum
    let prog ← Pattern.Program.compile? (flags.contains 'i' || flags.contains 'I') false
      (String.ofList (patternSource extended source))
    let nth := Number.ofDigits (flags.filter Char.isDigit)
    pure (.replace prog (partsOf text) (flags.contains 'g') (flags.contains 'p') (max nth 1),
      rest.drop flags.length)

/-- Reads an edit. -/
def edit? (extended : Bool) : Bytes → Option (Edit × Bytes)
  | 's' :: rest => replacement? extended rest
  | 'd' :: rest => some (.delete, rest)
  | 'p' :: rest => some (.print, rest)
  | 'q' :: rest => some (.quit, rest)
  | _ => none

/-- Whether a character parts commands. -/
def isSeparator (c : Char) : Bool := c == ';' || c == '\n' || c == ' '

/-- Reads commands. -/
def rules? (extended : Bool) : Nat → Bytes → Option (List Rule)
  | 0, _ => none
  | fuel + 1, cs =>
    match cs.dropWhile isSeparator with
    | [] => some []
    | cs => do
      let (start, rest) ← address? extended cs
      let (stop, rest) ← match rest with
        | ',' :: rest => address? extended rest
        | rest => some (none, rest)
      let rest := rest.dropWhile (· == ' ')
      let (negated, rest) := match rest with
        | '!' :: rest => (true, rest)
        | rest => (false, rest)
      let (edit, rest) ← edit? extended rest
      let more ← rules? extended fuel rest
      pure ({ from? := start, to? := stop, negated := negated, edit := edit } :: more)

/-- Reads a script. -/
def read? (extended : Bool) (script : Bytes) : Option (List Rule) :=
  rules? extended (script.length + 1) script

/-- The text that parts stand for at a match. -/
def fill (subject : Bytes) (m : Pattern.Match) (parts : List Part) : Bytes :=
  parts.flatMap fun
    | .char c => [c]
    | .group n => ((m.text? subject n).getD "").toList

/-- A line with the matches from the `nth` on replaced, or only that one. -/
def replaceIn (prog : Pattern.Program) (parts : List Part) (everywhere : Bool) (nth : Nat)
    (line : Bytes) : Option Bytes :=
  let found := (prog.findAll line).drop (nth - 1)
  let found := if everywhere then found else found.take 1
  if found.isEmpty then none
  else
    let (text, at') := found.foldl (fun (text, at') m =>
      (text ++ (line.take m.start).drop at' ++ fill line m parts, m.stop)) (([] : Bytes), 0)
    some (text ++ line.drop at')

/-- Whether an address is a line. -/
def Address.isAt (n count : Nat) (line : Bytes) : Address → Bool
  | .line k => n == k
  | .last => n == count
  | .pattern prog => (prog.find? line).isSome

/-- Whether a rule applies to a line, and whether the lines it applies to go on behind it. -/
def Rule.applies (r : Rule) (inside : Bool) (n count : Nat) (line : Bytes) : Bool × Bool :=
  let (applies, goesOn) :=
    match r.from?, r.to? with
    | none, _ => (true, false)
    | some a, none => (a.isAt n count line, false)
    | some a, some b =>
      if inside then (true, !b.isAt n count line)
      else if a.isAt n count line then
        (true, match b with
          | .line k => n < k
          | _ => true)
      else (false, false)
  (applies != r.negated, goesOn)

/-- What has become of a line: its text, what has been written before it, whether it is dropped,
and whether it is the last one. -/
structure Line where
  text : Bytes
  written : Bytes := []
  dropped : Bool := false
  ends : Bool := false

/-- A line after an edit. -/
def Edit.apply (l : Line) : Edit → Line
  | .replace prog parts everywhere shown nth =>
    match replaceIn prog parts everywhere nth l.text with
    | some text =>
      { l with
        text := text
        written := if shown then l.written ++ text ++ ['\n'] else l.written }
    | none => l
  | .delete => { l with dropped := true }
  | .print => { l with written := l.written ++ l.text ++ ['\n'] }
  | .quit => { l with ends := true }

/-- A line after all rules, and for each rule whether its lines go on. -/
def editLine (n count : Nat) : List (Rule × Bool) → Line → Line × List (Rule × Bool)
  | [], l => (l, [])
  | (r, inside) :: rest, l =>
    if l.dropped || l.ends then (l, (r, inside) :: rest)
    else
      let (applies, goesOn) := r.applies inside n count l.text
      let (l, rest) := editLine n count rest (if applies then r.edit.apply l else l)
      (l, (r, goesOn) :: rest)

/-- The text of lines after all rules. -/
def editLines (silent : Bool) (count : Nat) : Nat → List (Rule × Bool) → List Bytes → Bytes
  | _, _, [] => []
  | n, rules, line :: rest =>
    let (l, rules) := editLine n count rules { text := line }
    let shown := if silent || l.dropped then [] else l.text ++ ['\n']
    l.written ++ shown ++ (if l.ends then [] else editLines silent count (n + 1) rules rest)

/-- A text after the edits of a script. -/
def run (rules : List Rule) (silent : Bool) (text : Bytes) : Bytes :=
  let lines := match (Text.splitOn '\n' text).reverse with
    | [] :: back => back.reverse
    | back => back.reverse
  let out := editLines silent lines.length 1 (rules.map fun r => (r, false)) lines
  if text.getLast? = some '\n' then out else out.dropLast

end Sed
end Script
end MailMerge
