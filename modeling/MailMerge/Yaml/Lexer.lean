/-
# Reading the tokens of YAML

The lexer knows where it is: in how many brackets, at which column, and which columns
the enclosing blocks started at.  Outside of brackets, a token further left than a
block ends it, and an entry further right starts one.

What stands before a colon is a key, and that shows only at the colon.  So whatever
could be one is remembered with the number of tokens before it, and when the colon
comes the tokens of the key are put in there.  Such a key lies on one line and is at
most 1024 characters before its colon.  Every step takes a character, so as many
steps as characters are enough.
-/

import MailMerge.Yaml.Token
import MailMerge.Number.Word
import MailMerge.Text.Basic

namespace MailMerge
namespace Yaml

/-- What could turn out to be a key: how many tokens precede it, whether it must be one, and
where it stands. -/
structure Candidate where
  tokens : Nat
  required : Bool
  index : Nat
  line : Nat
  column : Nat

/-- Where the lexer is. `indent` is the column of the innermost block, -1 outside of blocks,
and `outer` those around it; `candidates` are the possible keys, one for each open bracket and
one outside of them. -/
structure LexState where
  rest : List Char
  index : Nat := 0
  line : Nat := 0
  column : Nat := 0
  flow : Nat := 0
  indent : Int := -1
  outer : List Int := []
  keyAllowed : Bool := true
  candidates : List (Option Candidate) := [none]
  tokens : Array Token := #[]

/-- A step of the lexer, which fails where the text is no YAML. -/
abbrev Lexer (α : Type) := StateT LexState Option α

namespace Lexer

/-- The character `n` places ahead. -/
def ahead? (n : Nat) : Lexer (Option Char) := return (← get).rest[n]?

/-- Whether the character `n` places ahead is `c`. -/
def sees (n : Nat) (c : Char) : Lexer Bool := return (← ahead? n) == some c

/-- Whether a word ends `n` places ahead: at a space, a line break or the end. -/
def wordEnds (n : Nat) : Lexer Bool := return ((← ahead? n).map isGapOrBreak).getD true

/-- Whether a line ends here. -/
def lineEnds : Lexer Bool := return ((← ahead? 0).map isBreak).getD true

/-- Goes on by `n` characters of a line. -/
def skip (n : Nat) : Lexer Unit :=
  modify fun s =>
    { s with rest := s.rest.drop n, index := s.index + n, column := s.column + n }

/-- Takes the characters of the line that have a property. -/
def takeWhile (p : Char → Bool) : Lexer (List Char) := do
  let cs := (← get).rest.takeWhile p
  skip cs.length
  return cs

/-- Goes on over spaces and tabs. -/
def skipGaps : Lexer Unit := do
  let _ ← takeWhile isGap

/-- Goes on over a comment, if there is one. -/
def skipComment : Lexer Unit := do
  if ← sees 0 '#' then
    let _ ← takeWhile fun c => !isBreak c

/-- Takes a line break, if there is one, as it counts in a text. -/
def takeBreak : Lexer String := do
  let s ← get
  let next := fun (n : Nat) (rest : List Char) =>
    set { s with rest := rest, index := s.index + n, line := s.line + 1, column := 0 }
  match s.rest with
  | '\r' :: '\n' :: rest =>
    next 2 rest
    return "\n"
  | c :: rest =>
    if isBreak c then
      next 1 rest
      return if 0x2000 ≤ c.toNat then c.toString else "\n"
    else return ""
  | [] => return ""

/-- Adds a token. -/
def emit (t : Token) : Lexer Unit := modify fun s => { s with tokens := s.tokens.push t }

/-- Sets whether a key may start where the next token is. -/
def allowKey (allowed : Bool) : Lexer Unit := modify fun s => { s with keyAllowed := allowed }

/-- Whether the lexer is outside of brackets. -/
def inBlock : Lexer Bool := return (← get).flow == 0

/-- Drops the candidates that are too far back, which those that must be keys cannot be. -/
def dropStale : Lexer Unit := do
  let s ← get
  let stale := fun (c : Candidate) => c.line < s.line || c.index + 1024 < s.index
  if s.candidates.any fun c => (c.map fun c => stale c && c.required).getD false then failure
  let fresh := s.candidates.map fun (c : Option Candidate) => c.filter fun c => !stale c
  set { s with candidates := fresh }

/-- Drops the innermost candidate, which it cannot be if it must be a key. -/
def dropCandidate : Lexer Unit := do
  let s ← get
  match s.candidates with
  | some c :: others => if c.required then failure else set { s with candidates := none :: others }
  | _ => pure ()

/-- Remembers that a key may start here, if one may. -/
def addCandidate : Lexer Unit := do
  let s ← get
  if s.keyAllowed then
    dropCandidate
    let c : Candidate :=
      { tokens := s.tokens.size, required := s.flow == 0 && s.indent == s.column
        index := s.index, line := s.line, column := s.column }
    modify fun s => { s with candidates := some c :: s.candidates.drop 1 }

/-- The tokens and blocks after all blocks further right than a column are ended. -/
def closeBlocks (column : Int) : Int → List Int → Array Token → Int × List Int × Array Token
  | indent, [], tokens => (indent, [], tokens)
  | indent, o :: outer, tokens =>
    if column < indent then closeBlocks column o outer (tokens.push .blockEnd)
    else (indent, o :: outer, tokens)

/-- Ends the blocks further right than a column. -/
def unroll (column : Int) : Lexer Unit := do
  let s ← get
  if s.flow == 0 then
    let (indent, outer, tokens) := closeBlocks column s.indent s.outer s.tokens
    set { s with indent := indent, outer := outer, tokens := tokens }

/-- Starts a block at a column, if it is further right than the innermost one.  Its token comes
behind the given number of tokens. -/
def roll (column : Nat) (before : Nat) (t : Token) : Lexer Unit :=
  modify fun s =>
    if s.flow == 0 && s.indent < (column : Int) then
      { s with
        indent := (column : Int), outer := s.indent :: s.outer
        tokens := s.tokens.insertIdxIfInBounds before t }
    else s

/-- Starts a block here. -/
def rollHere (t : Token) : Lexer Unit := do
  let s ← get
  roll s.column s.tokens.size t

/-- Goes on to the next token, over spaces, comments and line breaks.  A tab is no indentation,
and outside of brackets a key may start on a new line. -/
def nextToken : Nat → Lexer Unit
  | 0 => pure ()
  | fuel + 1 => do
    let s ← get
    let tabs := s.flow ≠ 0 || !s.keyAllowed
    let _ ← takeWhile fun c => c == ' ' || (tabs && c == '\t')
    skipComment
    if (← takeBreak) ≠ "" then
      if ← inBlock then allowKey true
      nextToken fuel

/-- Whether a line starts here with three marks `c`. -/
def marks (c : Char) : Lexer Bool := do
  let s ← get
  return s.column == 0 && Text.startsWith [c, c, c] s.rest && (← wordEnds 3)

/-- Whether a line starts here that parts documents. -/
def atDocumentMark : Lexer Bool := do
  if ← marks '-' then return true
  marks '.'

/-! Scalars -/

/-- What lies between two words: spaces, or a first line break and further ones. -/
structure Between where
  spaces : String := ""
  first : String := ""
  more : String := ""
  broken : Bool := false

/-- What it counts for in a text: one line break is a space, further ones are kept. -/
def Between.text (b : Between) : String :=
  if b.broken then
    if b.first == "\n" then (if b.more.isEmpty then " " else b.more) else b.first ++ b.more
  else b.spaces

/-- Takes spaces, tabs and line breaks.  No tab may stand left of column `limit` of a new
line. -/
def takeBetween (limit : Nat) : Nat → Between → Lexer Between
  | 0, b => return b
  | fuel + 1, b => do
    match ← ahead? 0 with
    | none => return b
    | some c =>
      if isGap c then
        if b.broken && c == '\t' && (← get).column < limit then failure
        skip 1
        takeBetween limit fuel (if b.broken then b else { b with spaces := b.spaces.push c })
      else if isBreak c then
        let text ← takeBreak
        takeBetween limit fuel
          (if b.broken then { b with more := b.more ++ text }
           else { first := text, broken := true })
      else return b

/-- The character that a letter behind a backslash stands for. -/
def escaped? (c : Char) : Option Char :=
  match c with
  | '0' => some (Char.ofNat 0)
  | 'a' => some (Char.ofNat 7)
  | 'b' => some (Char.ofNat 8)
  | 't' => some '\t'
  | '\t' => some '\t'
  | 'n' => some '\n'
  | 'v' => some (Char.ofNat 11)
  | 'f' => some (Char.ofNat 12)
  | 'r' => some '\r'
  | 'e' => some (Char.ofNat 27)
  | ' ' => some ' '
  | '"' => some '"'
  | '/' => some '/'
  | '\\' => some '\\'
  | 'N' => some (Char.ofNat 0x85)
  | '_' => some (Char.ofNat 0xa0)
  | 'L' => some (Char.ofNat 0x2028)
  | 'P' => some (Char.ofNat 0x2029)
  | _ => none

/-- How many hexadecimal digits follow a letter behind a backslash. -/
def escapeLength? (c : Char) : Option Nat :=
  match c with
  | 'x' => some 2
  | 'u' => some 4
  | 'U' => some 8
  | _ => none

/-- Takes a character given by its code point in `n` hexadecimal digits. -/
def takeHex (n : Nat) : Lexer Char := do
  let digits := (← get).rest.take n
  if digits.length < n || !digits.all fun d => (Number.hexValue? d).isSome then failure
  skip n
  let code := Number.ofRadix 16 digits
  if code.isValidChar then return Char.ofNat code else failure

/-- Takes what stands behind a backslash. -/
def takeEscape : Lexer Char := do
  match ← ahead? 0 with
  | none => failure
  | some c =>
    skip 1
    match escaped? c, escapeLength? c with
    | some d, _ => return d
    | none, some n => takeHex n
    | none, none => failure

/-- Takes the rest of a word in a quoted scalar.  The result also says whether a backslash
before a line break ended it. -/
def quotedWord (quote : Char) : Nat → String → Lexer (String × Bool)
  | 0, out => return (out, false)
  | fuel + 1, out => do
    match (← get).rest with
    | [] => return (out, false)
    | c :: rest =>
      if isGapOrBreak c then return (out, false)
      else if c == quote then
        if quote == '\'' && rest.head? == some '\'' then
          skip 2
          quotedWord quote fuel (out.push '\'')
        else return (out, false)
      else if c == '\\' && quote == '"' then
        skip 1
        match rest.head? with
        | none => failure
        | some d =>
          if isBreak d then
            let _ ← takeBreak
            return (out, true)
          else
            let e ← takeEscape
            quotedWord quote fuel (out.push e)
      else
        skip 1
        quotedWord quote fuel (out.push c)

/-- Takes a quoted scalar up to its quote. -/
def quotedText (quote : Char) : Nat → String → Lexer String
  | 0, _ => failure
  | fuel + 1, out => do
    if ← atDocumentMark then failure
    let (out, broken) ← quotedWord quote fuel out
    if ← sees 0 quote then
      skip 1
      return out
    else if (← ahead? 0).isNone then failure
    else
      let b ← takeBetween 0 fuel { broken := broken }
      quotedText quote fuel (out ++ b.text)

/-- Whether a character is a bracket or comma, which end a plain scalar inside brackets. -/
def isFlowMark (c : Char) : Bool := ",[]\x7b\x7d".toList.contains c

/-- Takes the rest of a word in a plain scalar.  What lies before the word is added with its
first character. -/
def plainWord : Nat → String → Between → Lexer (String × Between)
  | 0, out, b => return (out, b)
  | fuel + 1, out, b => do
    let s ← get
    match s.rest with
    | [] => return (out, b)
    | c :: rest =>
      let flow := s.flow ≠ 0
      if isGapOrBreak c then return (out, b)
      else if flow && c == ':' && (rest.head?.map fun d => isFlowMark d || d == '?').getD false then
        failure
      else if (c == ':' && (← wordEnds 1)) || (flow && isFlowMark c) then return (out, b)
      else
        skip 1
        plainWord fuel ((out ++ b.text).push c) {}

/-- Takes a plain scalar, which further lines continue if they are indented enough. -/
def plainText (limit : Nat) : Nat → String → Between → Lexer (String × Between)
  | 0, out, b => return (out, b)
  | fuel + 1, out, b => do
    if (← atDocumentMark) || (← sees 0 '#') then return (out, b)
    let (out, b) ← plainWord fuel out b
    if ((← ahead? 0).map isGapOrBreak).getD false then
      let b ← takeBetween limit fuel b
      if (← inBlock) && (← get).column < limit then return (out, b)
      else plainText limit fuel out b
    else return (out, b)

/-- Takes the spaces that indent the next filled line of a block scalar, and the line breaks
before it.  Without a known indentation the deepest line found is what counts. -/
def takeIndent (indent : Option Nat) : Nat → Nat → String → Lexer (Nat × String)
  | 0, deepest, out => return (deepest, out)
  | fuel + 1, deepest, out => do
    let column := (← get).column
    let spaces := ((← get).rest.takeWhile (· == ' ')).length
    skip (match indent with
      | some n => min spaces (n - column)
      | none => spaces)
    let column := (← get).column
    let deepest := max deepest column
    if (← sees 0 '\t') && (indent.map fun n => decide (column < n)).getD true then failure
    match ← takeBreak with
    | "" => return (deepest, out)
    | text => takeIndent indent fuel deepest (out ++ text)

/-- What is kept of the line breaks at the end of a block scalar. -/
inductive Chomping where
  | strip | clip | keep

/-- Takes the lines of a block scalar: the text so far, the line break behind the last line,
the empty lines after it, and whether that line started with a space. -/
def blockLines (folded : Bool) (indent : Nat) :
    Nat → String → String → String → Bool → Lexer (String × String × String)
  | 0, out, last, empty, _ => return (out, last, empty)
  | fuel + 1, out, last, empty, spaced => do
    let s ← get
    match s.rest.head? with
    | none => return (out, last, empty)
    | some c =>
      if s.column ≠ indent then return (out, last, empty)
      else
        let fold := folded && last == "\n" && !spaced && !isGap c
        let joint := if fold then (if empty.isEmpty then " " else "") else last
        let line ← takeWhile fun d => !isBreak d
        let out := out ++ joint ++ empty ++ String.ofList line
        let last ← takeBreak
        let (_, empty) ← takeIndent (some indent) fuel 0 ""
        blockLines folded indent fuel out last empty (isGap c)

/-- Takes a digit for the indentation of a block scalar, if there is one; zero is none. -/
def takeIncrement : Lexer (Option Nat) := do
  match ← ahead? 0 with
  | some c =>
    if c.isDigit then
      skip 1
      if c == '0' then failure else return some (Number.digitValue c)
    else return none
  | none => return none

/-- Takes a sign for the end of a block scalar, if there is one. -/
def takeChomping : Lexer (Option Chomping) := do
  if ← sees 0 '+' then
    skip 1
    return some .keep
  else if ← sees 0 '-' then
    skip 1
    return some .strip
  else return none

/-- Takes a block scalar. -/
def blockText (folded : Bool) (fuel : Nat) : Lexer String := do
  skip 1
  let before ← takeChomping
  let increment ← takeIncrement
  let behind ← if before.isNone then takeChomping else pure none
  skipGaps
  skipComment
  if !(← lineEnds) then failure
  let _ ← takeBreak
  let outer := (← get).indent
  let known := increment.map fun n => if 0 ≤ outer then outer.toNat + n else n
  let (deepest, empty) ← takeIndent known fuel 0 ""
  let indent := known.getD (max deepest (max (outer + 1).toNat 1))
  let (out, last, empty) ← blockLines folded indent fuel "" "" empty false
  return match (before.or behind).getD .clip with
    | .strip => out
    | .clip => out ++ last
    | .keep => out ++ last ++ empty

/-! Anchors, tags and directives -/

/-- Takes the name behind `&` or `*`. -/
def takeName : Lexer String := do
  skip 1
  let name ← takeWhile isNameChar
  let closed := ((← ahead? 0).map fun c => "?:,]\x7d%@`".toList.contains c).getD false
  if name.isEmpty || !((← wordEnds 0) || closed) then failure
  return String.ofList name

/-- Whether a character may stand in a tag; brackets and commas may where it is written in
full. -/
def isTagChar (full : Bool) (c : Char) : Bool :=
  isNameChar c || ";/?:@&=+$.%!~*'()".toList.contains c || (full && ",[]".toList.contains c)

/-- The byte that a percent sign and two hexadecimal digits stand for. -/
def percentByte? : List Char → Option (UInt8 × List Char)
  | '%' :: a :: b :: rest => do
    let high ← Number.hexValue? a
    let low ← Number.hexValue? b
    pure ((high * 16 + low).toUInt8, rest)
  | _ => none

/-- The bytes of a tag, with percent signs read. -/
def tagBytes : Nat → List Char → Option (List UInt8)
  | 0, _ => some []
  | _, [] => some []
  | fuel + 1, '%' :: cs => do
    let (b, rest) ← percentByte? ('%' :: cs)
    (tagBytes fuel rest).map (b :: ·)
  | fuel + 1, c :: cs => (tagBytes fuel cs).map (c.toString.toUTF8.toList ++ ·)

/-- Takes the rest of a tag whose start has been read. -/
def takeTag (full : Bool) (start : List Char) (needed : Bool) : Lexer String := do
  let cs ← takeWhile (isTagChar full)
  if needed && cs.isEmpty then failure
  match (tagBytes cs.length cs).bind fun bytes => String.fromUTF8? ⟨bytes.toArray⟩ with
  | some text => return String.ofList start ++ text
  | none => failure

/-- Takes an exclamation mark, the name behind it, and the mark that may end it. -/
def takeHandle : Lexer (List Char) := do
  if !(← sees 0 '!') then failure
  skip 1
  let name ← takeWhile isNameChar
  if ← sees 0 '!' then
    skip 1
    return '!' :: name ++ ['!']
  else return '!' :: name

/-- Takes a tag. -/
def scanTag : Lexer Token := do
  let t ← if ← sees 1 '<' then do
      skip 2
      let text ← takeTag true [] true
      if !(← sees 0 '>') then failure
      skip 1
      pure (Token.tag "" text)
    else do
      let handle ← takeHandle
      if 1 < handle.length && handle.getLast? == some '!' then
        let text ← takeTag false [] true
        pure (.tag (String.ofList handle) text)
      else
        let text ← takeTag false (handle.drop 1) false
        pure (if text.isEmpty then .tag "" "!" else .tag "!" text)
  if !((← wordEnds 0) || (!(← inBlock) && (← sees 0 ','))) then failure
  return t

/-- Takes a number of at most nine digits. -/
def takeVersion : Lexer Nat := do
  let ds ← takeWhile Char.isDigit
  if ds.isEmpty || 9 < ds.length then failure
  return Number.ofDigits ds

/-- Takes a directive: a version or the text that a handle of tags stands for. -/
def scanDirective : Lexer Token := do
  skip 1
  let name ← takeWhile isNameChar
  if !(← wordEnds 0) then failure
  skipGaps
  let t ← match String.ofList name with
    | "YAML" => do
      let major ← takeVersion
      if !(← sees 0 '.') then failure
      skip 1
      let minor ← takeVersion
      pure (Token.version major minor)
    | "TAG" => do
      let handle ← takeHandle
      if handle.getLast? ≠ some '!' || !(((← ahead? 0).map isGap).getD false) then failure
      skipGaps
      let text ← takeTag true [] true
      if !(← wordEnds 0) then failure
      pure (Token.tagPrefix (String.ofList handle) text)
    | _ => failure
  skipGaps
  skipComment
  if !(← lineEnds) then failure
  let _ ← takeBreak
  return t

/-! Tokens -/

/-- Emits a token of `n` characters. -/
def mark (n : Nat) (t : Token) : Lexer Unit := do
  skip n
  emit t

/-- Emits what starts a collection in brackets. -/
def openFlow (t : Token) : Lexer Unit := do
  addCandidate
  modify fun s =>
    { s with candidates := none :: s.candidates, flow := s.flow + 1, keyAllowed := true }
  mark 1 t

/-- Emits what ends a collection in brackets. -/
def closeFlow (t : Token) : Lexer Unit := do
  dropCandidate
  modify fun s =>
    if s.flow == 0 then { s with keyAllowed := false }
    else { s with candidates := s.candidates.drop 1, flow := s.flow - 1, keyAllowed := false }
  mark 1 t

/-- Starts a block, which only may happen where a key may start. -/
def openBlock (t : Token) : Lexer Unit := do
  if ← inBlock then
    if !(← get).keyAllowed then failure
    rollHere t

/-- Emits the token of a value, and the tokens of the key before it. -/
def scanValue : Lexer Unit := do
  let s ← get
  match s.candidates with
  | some c :: others =>
    set { s with
      candidates := none :: others, keyAllowed := false
      tokens := s.tokens.insertIdxIfInBounds c.tokens .key }
    roll c.column c.tokens .blockMapping
  | _ =>
    openBlock .blockMapping
    allowKey (← inBlock)
  mark 1 .value

/-- Emits a token that a key can start with. -/
def keyPart (scan : Lexer Token) : Lexer Unit := do
  addCandidate
  allowKey false
  let t ← scan
  emit t

/-- Whether a plain scalar starts at a character, before the next one. -/
def startsPlain (block : Bool) (c : Char) (next : Option Char) : Bool :=
  let marks := "-?:,[]\x7b\x7d#&*!|>'\"%@`".toList
  let spaced := (next.map isGapOrBreak).getD true
  !(isGapOrBreak c || marks.contains c) ||
    (c == '-' && !((next.map isGap).getD false)) || (block && (c == '?' || c == ':') && !spaced)

/-- Takes a plain scalar. -/
def scanPlain (fuel : Nat) : Lexer Token := do
  let (text, b) ← plainText ((← get).indent + 1).toNat fuel "" {}
  if b.broken then allowKey true
  return .scalar .plain text

/-- Reads the next token, which starts with `c`. -/
def scanToken (fuel : Nat) (c : Char) : Lexer Unit := do
  let s ← get
  let block := s.flow == 0
  let spaced ← wordEnds 1
  if s.column == 0 && c == '%' then
    unroll (-1)
    dropCandidate
    allowKey false
    let t ← scanDirective
    emit t
  else if ← atDocumentMark then
    unroll (-1)
    dropCandidate
    allowKey false
    mark 3 (if c == '-' then .documentStart else .documentEnd)
  else if c == '[' then openFlow .flowSequence
  else if c == '\x7b' then openFlow .flowMapping
  else if c == ']' then closeFlow .flowSequenceEnd
  else if c == '\x7d' then closeFlow .flowMappingEnd
  else if c == ',' then
    dropCandidate
    allowKey true
    mark 1 .comma
  else if c == '-' && spaced then
    openBlock .blockSequence
    dropCandidate
    allowKey true
    mark 1 .item
  else if c == '?' && (!block || spaced) then
    openBlock .blockMapping
    dropCandidate
    allowKey block
    mark 1 .key
  else if c == ':' && (!block || spaced) then scanValue
  else if c == '*' then keyPart (Token.alias <$> takeName)
  else if c == '&' then keyPart (Token.anchor <$> takeName)
  else if c == '!' then keyPart scanTag
  else if block && (c == '|' || c == '>') then
    dropCandidate
    allowKey true
    let text ← blockText (c == '>') fuel
    emit (.scalar (if c == '>' then .folded else .literal) text)
  else if c == '\'' || c == '"' then
    keyPart (do
      skip 1
      let text ← quotedText c fuel ""
      return .scalar .quoted text)
  else if startsPlain block c (← ahead? 1) then keyPart (scanPlain fuel)
  else failure

/-- Reads tokens up to the end. -/
def scanAll : Nat → Lexer Unit
  | 0 => failure
  | fuel + 1 => do
    nextToken (fuel + 1)
    dropStale
    unroll (← get).column
    match ← ahead? 0 with
    | some c =>
      scanToken (fuel + 1) c
      scanAll fuel
    | none =>
      unroll (-1)
      dropCandidate

end Lexer

/-- The tokens of a text, if it is YAML as far as tokens go. -/
def tokens? (source : String) : Option (List Token) :=
  let cs := match source.toList with
    | c :: rest => if c.toNat == 0xfeff then rest else c :: rest
    | [] => []
  if cs.all isAllowed then
    ((Lexer.scanAll (cs.length + 1)).run { rest := cs }).map fun (_, s) => s.tokens.toList
  else none

end Yaml
end MailMerge
