/-
# Reading patterns

    x y   x|y                     one after the other, either
    * + ? {n} {n,} {n,m}          repetitions; a `?` behind one makes it reluctant
    (…) (?:…) (?P<n>…) (?<n>…)    groups: numbered, not remembered, named
    (?flags) (?flags:…)           flags from here on, or inside the group only
    [a-z] [^…] [[:alpha:]] && -- ~~   sets of characters and their combinations
    . \d \s \w \pL \p{Name}       sets with a name; a capital is the complement
    ^ $ \A \z \b \B \< \>         places

The flags are `i` any case, `m` lines, `s` dot matches line breaks, `U` swaps
greed, `u` Unicode classes, `x` blanks and comments are skipped, `R` line breaks
with carriage return.  There is no look-around and no reference to a group.  The
reader gives `none` for whatever is not such a pattern.
-/

import MailMerge.Pattern.Size
import MailMerge.Number.Word
import MailMerge.Property.Name
import MailMerge.Text.Basic

namespace MailMerge
namespace Pattern

/-- The flags in force. -/
structure Flags where
  anyCase : Bool := false
  lines : Bool := false
  dotAll : Bool := false
  swapGreed : Bool := false
  unicode : Bool := true
  verbose : Bool := false
  crlf : Bool := false
  deriving DecidableEq, Repr

/-- What is left to read, the flags in force, and the groups opened so far. -/
structure ReadState where
  rest : List Char
  flags : Flags
  groups : Nat := 0
  names : List (String × Nat) := []

/-- A reader of a part of a pattern. -/
abbrev PatternReader (α : Type) := StateT ReadState Option α

namespace PatternReader

variable {α : Type}

/-- What is left to read. -/
def rest : PatternReader (List Char) := return (← get).rest

/-- The flags in force. -/
def flags : PatternReader Flags := return (← get).flags

/-- Goes on with `cs`. -/
def goOn (cs : List Char) : PatternReader Unit := modify fun s => { s with rest := cs }

/-- Drops blanks, and comments up to the end of their line. -/
def dropVerbose : Nat → List Char → List Char
  | 0, cs => cs
  | _ + 1, [] => []
  | fuel + 1, c :: cs =>
    if Text.isBlank c then dropVerbose fuel cs
    else if c = '#' then dropVerbose fuel (cs.dropWhile (· ≠ '\n'))
    else c :: cs

/-- What is left to read after the blanks that the verbose flag skips. -/
def skipped : PatternReader (List Char) := do
  let s ← get
  if s.flags.verbose then
    let cs := dropVerbose (s.rest.length + 1) s.rest
    goOn cs
    pure cs
  else pure s.rest

/-- A set under the flag for any case.  Without Unicode classes only the letters of ASCII have
another case. -/
def cased (f : Flags) (s : CharSet) : CharSet :=
  if !f.anyCase then s
  else if f.unicode then .anyCase s
  else .inter (.anyCase s) .ascii

/-- The set that a character stands for. -/
def literalSet (f : Flags) (c : Char) : CharSet :=
  if f.unicode || c.toNat < 128 then cased f (.single c) else .single c

/-- The set that a class letter names, under the flags. -/
def classOf? (f : Flags) (c : Char) : Option CharSet :=
  let ascii := fun name => (CharSet.ofPosixName? name).getD .none
  match c.toLower with
  | 'd' => some (if f.unicode then .table Property.digits else ascii "digit")
  | 's' => some (if f.unicode then .table Property.blanks else ascii "space")
  | 'w' => some (if f.unicode then .table Property.wordCharacters else ascii "word")
  | _ => none

/-- A set or its complement.  The complement of an ASCII class would match parts of
characters, and is refused. -/
def complementIf (f : Flags) (negated : Bool) (s : CharSet) : Option CharSet :=
  if negated then (if f.unicode then some (.compl s) else none) else some s

/-- What is left to read up to a character, which is dropped.  Blanks between the characters
are skipped as the verbose flag says. -/
def upTo (stop : Char) : Nat → PatternReader (List Char)
  | 0 => failure
  | fuel + 1 => do
    match ← skipped with
    | [] => failure
    | c :: cs =>
      goOn cs
      if c = stop then pure [] else return c :: (← upTo stop fuel)

/-- The set of `name`, `key=value` or `key:value`.  For `key!=value` it is the complement that
is meant. -/
def property? (cs : List Char) : Option (CharSet × Bool) :=
  match Text.splitAround? ['!', '='] cs with
  | some (key, value) => (Property.valued? key value).map fun s => (.table s, true)
  | none =>
    match (Text.splitOnce? ':' cs).or (Text.splitOnce? '=' cs) with
    | some (key, value) => (Property.valued? key value).map fun s => (.table s, false)
    | none => (Property.named? cs).map fun s => (.table s, false)

/-- Reads what follows `\p` or `\P`. -/
def propertyClass (negated : Bool) : PatternReader CharSet := do
  let f ← flags
  if !f.unicode then failure
  let name ← match ← skipped with
    | '\x7b' :: cs => do
      goOn cs
      upTo '\x7d' (cs.length + 1)
    | c :: cs => do
      goOn cs
      pure [c]
    | [] => failure
  let (set, differs) ← property? name
  let set := cased f set
  return if differs != negated then .compl set else set

/-- The character of a code point, if it is one. -/
def charOf? (n : Nat) : Option Char :=
  if n < 0xd800 || (0xdfff < n && n < 0x110000) then some (Char.ofNat n) else none

/-- Reads `n` characters. -/
def takeSkipping : Nat → PatternReader (List Char)
  | 0 => pure []
  | n + 1 => do
    match ← skipped with
    | c :: cs =>
      goOn cs
      return c :: (← takeSkipping n)
    | [] => failure

/-- The character with a code point in hexadecimal digits. -/
def hexCharOf? (ds : List Char) : Option Char :=
  if ds.isEmpty || !(ds.all fun d => (Number.hexValue? d).isSome) then none
  else charOf? (Number.ofRadix 16 ds)

/-- Reads `n` hexadecimal digits, or any number of them in braces.  Two digits without braces
are a byte, which without Unicode classes has to be a character of ASCII. -/
def hexChar (n : Nat) : PatternReader Char := do
  match ← skipped with
  | '\x7b' :: cs =>
    goOn cs
    hexCharOf? (← upTo '\x7d' (cs.length + 1))
  | _ =>
    let c ← hexCharOf? (← takeSkipping n)
    if n = 2 && !(← flags).unicode && 128 ≤ c.toNat then failure
    pure c

/-- What an escape stands for. -/
inductive Escape where
  | literal (c : Char)
  | set (s : CharSet)
  | anchor (a : Anchor)

/-- Whether a backslash before a character makes it a literal. -/
def isEscapable (c : Char) : Bool :=
  c.toNat < 128 && !c.isAlphanum && c != '<' && c != '>'

/-- The boundary that `\b{…}` names. -/
def boundary? (ascii : Bool) : String → Option Anchor
  | "start" => some (.wordStart ascii)
  | "end" => some (.wordEnd ascii)
  | "start-half" => some (.wordStartHalf ascii)
  | "end-half" => some (.wordEndHalf ascii)
  | _ => none

/-- Reads what follows `\b`. -/
def wordBoundary : PatternReader Anchor := do
  let f ← flags
  let ascii := !f.unicode
  match ← rest with
  | '\x7b' :: cs =>
    let inside := if f.verbose then dropVerbose (cs.length + 1) cs else cs
    match inside with
    | c :: _ =>
      if c.isAlpha || c == '-' then
        goOn inside
        boundary? ascii (String.ofList (← upTo '\x7d' (inside.length + 1)))
      else pure (.wordEdge ascii)
    | [] => failure
  | _ => pure (.wordEdge ascii)

/-- Reads what follows a backslash. -/
def escape : PatternReader Escape := do
  let f ← flags
  let ascii := !f.unicode
  match ← rest with
  | [] => failure
  | c :: cs =>
    goOn cs
    if c.isDigit then failure
    else if isEscapable c then pure (.literal c)
    else match c with
      | 'x' => return .literal (← hexChar 2)
      | 'u' => return .literal (← hexChar 4)
      | 'U' => return .literal (← hexChar 8)
      | 'p' => return .set (← propertyClass false)
      | 'P' => return .set (← propertyClass true)
      | 'a' => pure (.literal (Char.ofNat 7))
      | 'f' => pure (.literal (Char.ofNat 12))
      | 't' => pure (.literal '\t')
      | 'n' => pure (.literal '\n')
      | 'r' => pure (.literal '\r')
      | 'v' => pure (.literal (Char.ofNat 11))
      | 'A' => pure (.anchor .textStart)
      | 'z' => pure (.anchor .textEnd)
      | 'b' => return .anchor (← wordBoundary)
      | 'B' => pure (.anchor (.noWordEdge ascii))
      | '<' => pure (.anchor (.wordStart ascii))
      | '>' => pure (.anchor (.wordEnd ascii))
      | c =>
        let set ← classOf? f c
        let set ← complementIf f c.isUpper set
        pure (.set set)

/-- One character or escape of a bracket expression. -/
def memberOf : PatternReader Escape := do
  match ← skipped with
  | [] => failure
  | '\\' :: cs =>
    goOn cs
    escape
  | c :: cs =>
    goOn cs
    pure (.literal c)

/-- Whether a member may stand in a bracket expression: without Unicode classes only what is
ASCII may. -/
def isMember (f : Flags) : Escape → Bool
  | .literal c => f.unicode || c.toNat < 128
  | .set _ => true
  | .anchor _ => false

/-- One member of a bracket expression: a character or a set. -/
def member : PatternReader Escape := do
  let e ← memberOf
  if isMember (← flags) e then pure e else failure

/-- The set of a member. -/
def memberSet : Escape → CharSet
  | .literal c => .single c
  | .set s => s
  | .anchor _ => .none

/-- The first character after the next one, as the verbose flag sees it. -/
def peekAfter (cs : List Char) : PatternReader (Option Char) := do
  let f ← flags
  let after := cs.drop 1
  let after := if f.verbose then dropVerbose (after.length + 1) after else after
  pure after.head?

/-- A member of a bracket expression, or a range of characters. -/
def memberOrRange : PatternReader CharSet := do
  let first ← member
  let cs ← skipped
  match cs with
  | [] => failure
  | '-' :: after =>
    match ← peekAfter cs with
    | some ']' => pure (memberSet first)
    | some '-' => pure (memberSet first)
    | _ =>
      goOn after
      let last ← member
      match first, last with
      | .literal a, .literal b => if a ≤ b then pure (.range a.toNat b.toNat) else failure
      | _, _ => failure
  | _ => pure (memberSet first)

/-- The name in `[:name:]` or `[:^name:]` at the start of a text, and what follows. -/
def posixClass? (f : Flags) (cs : List Char) : Option (CharSet × List Char) := do
  let cs ← Text.dropLead? ['[', ':'] cs
  let (negated, cs) := match cs with
    | '^' :: cs => (true, cs)
    | cs => (false, cs)
  let (name, cs) ← Text.splitOnce? ':' cs
  let cs ← Text.dropLead? [']'] cs
  let set ← CharSet.ofPosixName? (String.ofList name)
  let set ← complementIf f negated (cased f set)
  pure (set, cs)

/-- The sign of an operation on sets at the start of a text, and what follows. -/
def setOperation? : List Char → Option ((CharSet → CharSet → CharSet) × List Char)
  | '&' :: '&' :: cs => some (.inter, cs)
  | '-' :: '-' :: cs => some (.diff, cs)
  | '~' :: '~' :: cs => some (.symmDiff, cs)
  | _ => none

/-- How many hyphens a bracket expression starts with. -/
def leadingHyphens : Nat → PatternReader Nat
  | 0 => failure
  | fuel + 1 => do
    match ← skipped with
    | '-' :: cs =>
      goOn cs
      return (← leadingHyphens fuel) + 1
    | _ => pure 0

/-- A set, how many members it was made of, and how deep they are nested. -/
structure Gathered where
  set : CharSet := .none
  members : Nat := 0
  depth : Nat := 0

namespace Gathered

/-- With one more member. -/
def add (g : Gathered) (s : CharSet) (depth : Nat) : Gathered :=
  ⟨if g.members = 0 then s else .union g.set s, g.members + 1, max g.depth depth⟩

/-- How deep a set is nested: several members are one level. -/
def level (g : Gathered) : Nat := if g.members < 2 then g.depth else g.depth + 1

/-- What was gathered after the sign of an operation, combined with what stands before it.  The
flag for any case counts for each side. -/
def combine (f : Flags) (op : Option (CharSet → CharSet → CharSet)) (before now : Gathered) :
    Gathered :=
  match op with
  | none => now
  | some op =>
    ⟨op (cased f before.set) (cased f now.set), 1, max before.level now.level + 1⟩

end Gathered

mutual

/-- A bracket expression, from behind its opening bracket on, and how deep it is nested. -/
def bracket : Nat → PatternReader (CharSet × Nat)
  | 0 => failure
  | fuel + 1 => do
    let f ← flags
    let cs ← skipped
    let negated := cs.head? == some '^'
    if negated then goOn (cs.drop 1)
    let hyphens ← leadingHyphens (cs.length + 1)
    let start : Gathered := ⟨if hyphens = 0 then .none else .single '-', hyphens, 0⟩
    let start ← match ← skipped with
      | ']' :: cs =>
        if hyphens = 0 then do
          goOn cs
          pure (start.add (.single ']') 0)
        else pure start
      | _ => pure start
    let all ← bracketRest fuel none {} start
    let set ← complementIf f negated (cased f all.set)
    pure (set, all.level + 1)

/-- The rest of a bracket expression.  `before` is what stands before the last operation `op`,
`now` what has been gathered since. -/
def bracketRest : Nat → Option (CharSet → CharSet → CharSet) → Gathered → Gathered →
    PatternReader Gathered
  | 0, _, _, _ => failure
  | fuel + 1, op, before, now => do
    let f ← flags
    match ← skipped with
    | [] => failure
    | ']' :: cs =>
      goOn cs
      pure (Gathered.combine f op before now)
    | '[' :: cs =>
      match posixClass? f ('[' :: cs) with
      | some (set, cs) =>
        goOn cs
        bracketRest fuel op before (now.add set 0)
      | none =>
        goOn cs
        let (set, depth) ← bracket fuel
        bracketRest fuel op before (now.add set depth)
    | cs =>
      match setOperation? cs with
      | some (op', cs) =>
        goOn cs
        bracketRest fuel (some op') (Gathered.combine f op before now) {}
      | none =>
        let set ← memberOrRange
        bracketRest fuel op before (now.add set 0)

end

/-- Reads a number of repetitions. -/
def count? : PatternReader (Option Nat) := do
  let cs ← skipped
  let cs := cs.dropWhile Text.isBlank
  let ds := cs.takeWhile Char.isDigit
  goOn (cs.drop ds.length)
  let cs ← rest
  goOn (cs.dropWhile Text.isBlank)
  if ds.isEmpty then pure none
  else
    let n := Number.ofDigits ds
    if n < Nat.pow 2 32 then pure (some n) else failure

/-- Reads the bounds of a repetition, from behind its opening brace on. -/
def bounds : PatternReader (Nat × Option Nat) := do
  let least ← count?
  match ← skipped with
  | ',' :: cs =>
    goOn cs
    match ← skipped with
    | '\x7d' :: cs =>
      goOn cs
      let least ← least
      pure (least, none)
    | _ =>
      let least ← least
      let most ← count?
      let most ← most
      match ← skipped with
      | '\x7d' :: cs =>
        goOn cs
        if least ≤ most then pure (least, some most) else failure
      | _ => failure
  | '\x7d' :: cs =>
    goOn cs
    let least ← least
    pure (least, some least)
  | _ => failure

/-- The bounds of the repetition at the start of what is left, if there is one. -/
def repetition? : PatternReader (Option (Nat × Option Nat)) := do
  match ← skipped with
  | '*' :: cs => do goOn cs; pure (some (0, none))
  | '+' :: cs => do goOn cs; pure (some (1, none))
  | '?' :: cs => do goOn cs; pure (some (0, some 1))
  | '\x7b' :: cs => do
    goOn cs
    let b ← bounds
    let _ ← skipped
    pure (some b)
  | _ => pure none

/-- Takes the `?` that makes a repetition reluctant, and says whether it was there. -/
def reluctant : PatternReader Bool := do
  match ← rest with
  | '?' :: cs => do goOn cs; pure true
  | _ => pure false

/-- A pattern and how deep it is nested: groups, repetitions, bracket expressions, and patterns
that stand in a row or are separated by bars are a level each. -/
structure Nested where
  tree : Tree
  depth : Nat := 0

/-- The repetitions behind a pattern. -/
def repetitionsOf : Nat → Nested → PatternReader Nested
  | 0, _ => failure
  | fuel + 1, body => do
    match ← repetition? with
    | none => pure body
    | some (least, most) =>
      let f ← flags
      let lazily ← reluctant
      repetitionsOf fuel
        ⟨.repeated body.tree least most (lazily == f.swapGreed), body.depth + 1⟩

/-- Sets or clears the flag of a letter. -/
def setFlag (f : Flags) (on : Bool) : Char → Option Flags
  | 'i' => some { f with anyCase := on }
  | 'm' => some { f with lines := on }
  | 's' => some { f with dotAll := on }
  | 'U' => some { f with swapGreed := on }
  | 'u' => some { f with unicode := on }
  | 'x' => some { f with verbose := on }
  | 'R' => some { f with crlf := on }
  | _ => none

/-- Reads flags up to a colon or parenthesis: the flags then in force, and whether a group
follows.  A letter may occur once, and something must follow a minus. -/
def flagRow : Nat → Flags → Bool → Bool → List Char → PatternReader (Flags × Bool)
  | 0, _, _, _, _ => failure
  | fuel + 1, f, on, dangling, seen => do
    match ← rest with
    | ':' :: cs => if dangling then failure else do goOn cs; pure (f, true)
    | ')' :: cs => if dangling then failure else do goOn cs; pure (f, false)
    | '-' :: cs => if on then do goOn cs; flagRow fuel f false true seen else failure
    | c :: cs =>
      if seen.contains c then failure
      else
        let f ← setFlag f on c
        goOn cs
        flagRow fuel f on false (c :: seen)
    | [] => failure

/-- Whether a group's name may start with a character. -/
def isNameStart (c : Char) : Bool := c == '_' || Text.isLetter c

/-- Whether a group's name may go on with a character. -/
def isNameChar (c : Char) : Bool :=
  c == '_' || c == '.' || c == '[' || c == ']' || Text.isAlphanumeric c

/-- Opens the next group under a name, which must be new. -/
def openNamed (cs : List Char) : PatternReader Nat := do
  let (name, cs) ← Text.splitOnce? '>' cs
  let proper := match name with
    | c :: r => isNameStart c && r.all isNameChar
    | [] => false
  if !proper then failure
  let s ← get
  let key := String.ofList name
  if (s.names.lookup key).isSome then failure
  let n := s.groups + 1
  set { s with rest := cs, groups := n, names := s.names ++ [(key, n)] }
  pure n

/-- Opens the next group. -/
def openNumbered (cs : List Char) : PatternReader Nat := do
  let s ← get
  let n := s.groups + 1
  set { s with rest := cs, groups := n }
  pure n

/-- The set that a dot matches. -/
def dotSet (f : Flags) : Option CharSet :=
  if !f.unicode then none
  else if f.dotAll then some .all
  else if f.crlf then some (.compl (.union (.single '\n') (.single '\r')))
  else some (.compl (.single '\n'))

/-- The place that `^` tests. -/
def startAnchor (f : Flags) : Anchor :=
  if f.lines then (if f.crlf then .lineStartCr else .lineStart) else .textStart

/-- The place that `$` tests. -/
def endAnchor (f : Flags) : Anchor :=
  if f.lines then (if f.crlf then .lineEndCr else .lineEnd) else .textEnd

/-- What an escape matches outside brackets. -/
def escapeTree (f : Flags) : Escape → Tree
  | .literal c => .char (literalSet f c)
  | .set s => .char s
  | .anchor a => .anchor a

/-- Patterns that have been read one after the other: rows of flags count, but match nothing. -/
structure Row where
  tree : Option Tree := none
  parts : Nat := 0
  depth : Nat := 0

namespace Row

/-- With one more pattern, or a row of flags. -/
def add (r : Row) : Option Nested → Row
  | none => { r with parts := r.parts + 1 }
  | some n =>
    let tree := match r.tree with
      | none => n.tree
      | some t => .both t n.tree
    ⟨some tree, r.parts + 1, max r.depth n.depth⟩

/-- The row as one pattern. -/
def nested (r : Row) : Nested :=
  ⟨r.tree.getD .empty, if r.parts < 2 then r.depth else r.depth + 1⟩

end Row

mutual

/-- Patterns separated by bars, up to a closing parenthesis or the end. -/
def alternatives (fuel : Nat) : PatternReader Nested := do
  match fuel with
  | 0 => failure
  | fuel + 1 =>
    let first ← sequence fuel {}
    match ← skipped with
    | '|' :: _ =>
      let all ← furtherAlternatives fuel first
      pure ⟨all.tree, all.depth + 1⟩
    | _ => pure first

/-- The alternatives behind a first one, and that one; the depth is that of the deepest. -/
def furtherAlternatives (fuel : Nat) (first : Nested) : PatternReader Nested := do
  match fuel with
  | 0 => failure
  | fuel + 1 =>
    match ← skipped with
    | '|' :: cs =>
      goOn cs
      let second ← sequence fuel {}
      let others ← furtherAlternatives fuel second
      pure ⟨.either first.tree others.tree, max first.depth others.depth⟩
    | _ => pure first

/-- Patterns one after the other behind those of a row. -/
def sequence (fuel : Nat) (before : Row) : PatternReader Nested := do
  match fuel with
  | 0 => failure
  | fuel + 1 =>
    match ← skipped with
    | [] => pure before.nested
    | '|' :: _ => pure before.nested
    | ')' :: _ => pure before.nested
    | _ =>
      match ← item fuel with
      | none => sequence fuel (before.add none)
      | some n => sequence fuel (before.add (some (← repetitionsOf (fuel + 1) n)))

/-- One pattern without its repetitions; `none` for a row of flags. -/
def item (fuel : Nat) : PatternReader (Option Nested) := do
  match fuel with
  | 0 => failure
  | fuel + 1 =>
    let f ← flags
    match ← rest with
    | '(' :: cs => group fuel cs
    | '[' :: cs =>
      goOn cs
      let (set, depth) ← bracket (2 * cs.length + 2)
      pure (some ⟨.char set, depth⟩)
    | '\\' :: cs =>
      goOn cs
      return some ⟨escapeTree f (← escape), 0⟩
    | '.' :: cs =>
      goOn cs
      let set ← dotSet f
      pure (some ⟨.char set, 0⟩)
    | '^' :: cs =>
      goOn cs
      pure (some ⟨.anchor (startAnchor f), 0⟩)
    | '$' :: cs =>
      goOn cs
      pure (some ⟨.anchor (endAnchor f), 0⟩)
    | '*' :: _ => failure
    | '+' :: _ => failure
    | '?' :: _ => failure
    | '\x7b' :: _ => failure
    | c :: cs =>
      goOn cs
      pure (some ⟨.char (literalSet f c), 0⟩)
    | [] => failure

/-- A group or a row of flags, from behind the opening parenthesis on.  The flags in force
outside a group come back behind it. -/
def group (fuel : Nat) (cs : List Char) : PatternReader (Option Nested) := do
  match fuel with
  | 0 => failure
  | fuel + 1 =>
    let outside ← flags
    goOn cs
    let number ← match ← skipped with
      | '?' :: 'P' :: '<' :: cs => do pure (some (← openNamed cs))
      | '?' :: '<' :: c :: cs =>
        if c == '=' || c == '!' then failure else do pure (some (← openNamed (c :: cs)))
      | '?' :: cs => do
        goOn cs
        pure none
      | cs => do pure (some (← openNumbered cs))
    let opens ← match number with
      | some _ => pure true
      | none => do
        let cs ← rest
        if cs.head? == some ')' then failure
        let (f, isGroup) ← flagRow (cs.length + 1) outside true false []
        modify fun s => { s with flags := f }
        pure isGroup
    if opens then
      let body ← alternatives fuel
      match ← skipped with
      | ')' :: cs =>
        modify fun s => { s with rest := cs, flags := outside }
        pure (some ⟨match number with
          | some n => .group n body.tree
          | none => body.tree, body.depth + 1⟩)
      | _ => failure
    else pure none

end

end PatternReader

/-- How deep a pattern may be nested. -/
def depthLimit : Nat := 250

/-- Reads a pattern under the flags for any case and for lines. -/
def read? (anyCase lines : Bool) (source : String) : Option Parsed :=
  let cs := source.toList
  let start : ReadState := { rest := cs, flags := { anyCase := anyCase, lines := lines } }
  match (PatternReader.alternatives (4 * cs.length + 8)).run start with
  | some (n, s) =>
    if s.rest.isEmpty && n.depth ≤ depthLimit && n.tree.size ≤ sizeLimit then
      some ⟨n.tree, s.names⟩
    else none
  | none => none

end Pattern
end MailMerge
