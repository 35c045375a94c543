/-
# Expanding words

A word becomes the arguments of a command: parameters, outputs and arithmetic are
replaced by their texts, what was not in quotes is split at blanks, and wildcards are
replaced by paths.
-/

import MailMerge.Script.Arithmetic
import MailMerge.Script.Wildcard

namespace MailMerge
namespace Script

/-- The characters that part fields where nothing else is set: spaces, tabs and line breaks. -/
def blanks : Bytes := [' ', '\t', '\n']

/-- The characters that part fields. -/
def separators (s : State) : Bytes := (s.vars.lookup "IFS".toList).getD blanks

/-- The fields of a word so far, the latest first, and the one that is being made. -/
structure Fields where
  complete : List Field := []
  current : Option Field := none
  /-- whether a blank has ended the last field, which another separator then does not do again -/
  ended : Bool := false

namespace Fields

/-- Adds characters to the field that is being made. -/
def add (fs : Fields) (quoted : Bool) (text : Bytes) : Fields :=
  { fs with current := some (fs.current.getD [] ++ text.map fun c => (c, quoted)), ended := false }

/-- Ends the field that is being made. -/
def close (fs : Fields) : Fields :=
  match fs.current with
  | some f => { complete := f :: fs.complete, ended := true }
  | none => fs

/-- Ends a field, which may be an empty one. -/
def part (fs : Fields) : Fields :=
  match fs.current with
  | some f => { complete := f :: fs.complete }
  | none => if fs.ended then { fs with ended := false } else { complete := [] :: fs.complete }

/-- Adds a text that is split at separators.  Blanks among them count once, others each. -/
def addSplit (separators : Bytes) (fs : Fields) (text : Bytes) : Fields :=
  text.foldl (fun fs c =>
    if !separators.contains c then fs.add false [c]
    else if blanks.contains c then fs.close else fs.part) fs

/-- Adds a text, in quotes or split. -/
def addResult (separators : Bytes) (fs : Fields) (quoted : Bool) (text : Bytes) : Fields :=
  if quoted then fs.add true text else fs.addSplit separators text

/-- The fields in order. -/
def all (fs : Fields) : List Field := fs.close.complete.reverse

end Fields

namespace Expand

/-- The value of a parameter, if it is set. -/
def parameter? (s : State) (name : Bytes) : Option Bytes :=
  match name with
  | ['?'] => some (ofText (toString s.status))
  | ['$'] => some (ofText "4242")
  | ['#'] => some (ofText (toString s.arguments.length))
  | ['0'] => some s.name
  | ['@'] => if s.arguments.isEmpty then none else some (Text.joinWith [' '] s.arguments)
  | ['*'] =>
    if s.arguments.isEmpty then none
    else some (Text.joinWith ((separators s).take 1) s.arguments)
  | ['-'] => some []
  | name =>
    if Number.isDigits name then s.arguments[Number.ofDigits name - 1]?
    else s.vars.lookup name

/-- The pieces of what follows the operator of a parameter. -/
def argumentPieces : Nat → Bytes → Word
  | 0, _ => []
  | _, [] => []
  | fuel + 1, cs =>
    match wordPieces (cs.length + 1) cs with
    | .error _ => [.text true cs]
    | .ok (w, []) => w
    | .ok (w, c :: rest) => w ++ .text false [c] :: argumentPieces fuel rest

/-- The shortest, or longest, start of a text that matches a pattern is cut off. -/
def cutStart (longest : Bool) (pattern : List Wildcard.Element) (text : Bytes) : Bytes :=
  let cuts := (List.range (text.length + 1)).filter fun n => Wildcard.fits pattern (text.take n)
  match (if longest then cuts.getLast? else cuts.head?) with
  | some n => text.drop n
  | none => text

/-- The shortest, or longest, end of a text that matches a pattern is cut off. -/
def cutEnd (longest : Bool) (pattern : List Wildcard.Element) (text : Bytes) : Bytes :=
  let cuts := (List.range (text.length + 1)).filter fun n => Wildcard.fits pattern (text.drop n)
  match (if longest then cuts.head? else cuts.getLast?) with
  | some n => text.take n
  | none => text

/-- Output without the line breaks at its end. -/
def dropBreaks (text : Bytes) : Bytes := (text.reverse.dropWhile (· == '\n')).reverse

/-- The value of an arithmetic expression, whose assignments are done. -/
def calculate (source : Bytes) : Run Bytes := do
  match Arithmetic.evaluate (← get).vars source with
  | .ok (n, assigned) =>
    assigned.forM fun a => Run.setVariable a.1 (ofText (toString a.2))
    return ofText (toString n)
  | .error fault => Run.abandon (fault.message source)

/-- Whether the operator of a parameter needs its value. -/
def needsValue (operator : Bytes) : Bool :=
  match operator.getLast? with
  | none => true
  | some c => c == '#' || c == '%'

mutual

/-- Adds the pieces of a word to fields.  `output` runs a script and returns what it puts out,
and `fuel` bounds how deep words are nested in parameters. -/
def pieces (output : Bytes → Run Bytes) (split : Bool) : Nat → Word → Fields → Run Fields
  | 0, _, fs => return fs
  | _, [], fs => return fs
  | fuel + 1, p :: rest, fs => do
    let fs ← match p with
      | .text quoted text => pure (fs.add quoted text)
      | .output quoted source => do
        let text ← output source
        pure (fs.addResult (separators (← get)) (quoted || !split) (dropBreaks text))
      | .arithmetic quoted source => do
        let inner ← pieces output false fuel (quotedText .braces source) {}
        let text ← calculate (inner.all.flatMap Field.text)
        pure (fs.addResult (separators (← get)) (quoted || !split) text)
      | .parameter quoted name op argument =>
        parameter output (quoted || !split) fuel name op argument fs
    pieces output split fuel rest fs

/-- Adds the value of a parameter to fields. -/
def parameter (output : Bytes → Run Bytes) (quoted : Bool) :
    Nat → Bytes → Bytes → Bytes → Fields → Run Fields
  | 0, _, _, _, fs => return fs
  | fuel + 1, name, op, argument, fs => do
    let s ← get
    let value := parameter? s name
    let filled := if op.head? == some ':' then value.filter fun v => !v.isEmpty else value
    if s.needsValues && value.isNone && needsValue op && name != ['@'] && name != ['*'] then
      Run.abandon (toText name ++ ": parameter not set")
    let add := fun (text : Bytes) => fs.addResult (separators s) quoted text
    let unquotedWord := argumentPieces (argument.length + 1) argument
    let w := if quoted then quotedText .braces argument else unquotedWord
    let argumentText : Run Bytes := do
      return (← pieces output false fuel w {}).all.flatMap Field.text
    let argumentPattern : Run (List Wildcard.Element) := do
      return Wildcard.ofField (← pieces output false fuel unquotedWord {}).all.flatten
    match op.getLast? with
    | none =>
      if name.isEmpty then Run.abandon "Bad substitution"
      else if name == ['@'] || (name == ['*'] && !quoted) then
        match s.arguments with
        | [] => return fs
        | first :: others =>
          return others.foldl (fun fs a => fs.close.addResult (separators s) quoted a) (add first)
      else return add (value.getD [])
    | some '-' =>
      match filled with
      | some v => return add v
      | none => pieces output (!quoted) fuel w fs
    | some '=' =>
      match filled with
      | some v => return add v
      | none =>
        let v ← argumentText
        Run.setVariable name v
        return add v
    | some '+' => if filled.isSome then pieces output (!quoted) fuel w fs else return fs
    | some '?' =>
      match filled with
      | some v => return add v
      | none =>
        let v ← argumentText
        Run.abandon (toText name ++ ": " ++ (if v.isEmpty then "parameter not set" else toText v))
    | some '#' =>
      if argument.isEmpty && op.length == 1 then
        return add (ofText (toString (value.getD []).length))
      else return add (cutStart (op.length == 2) (← argumentPattern) (value.getD []))
    | some '%' => return add (cutEnd (op.length == 2) (← argumentPattern) (value.getD []))
    | some _ => Run.abandon "Bad substitution"

end

/-- A bound for the nesting of a word: no word is nested deeper than it is long. -/
def bound (w : Word) : Nat :=
  w.foldl (fun n p => n + match p with
    | .text _ text => text.length + 1
    | .parameter _ _ _ argument => 2 * argument.length + 3
    | .output _ _ => 1
    | .arithmetic _ source => source.length + 2) 1

/-- The arguments that words become. -/
def arguments (output : Bytes → Run Bytes) (ws : List Word) : Run (List Bytes) := do
  let fields ← ws.mapM fun w => do return (← pieces output true (bound w) w {}).all
  let t := (← get).files
  return fields.flatten.flatMap (Wildcard.expand t)

/-- The one text that a word becomes where nothing is split. -/
def text (output : Bytes → Run Bytes) (w : Word) : Run Bytes := do
  return (← pieces output false (bound w) w {}).all.flatMap Field.text

/-- The pattern that a word becomes. -/
def pattern (output : Bytes → Run Bytes) (w : Word) : Run (List Wildcard.Element) := do
  return Wildcard.ofField (← pieces output false (bound w) w {}).all.flatten

end Expand

end Script
end MailMerge
