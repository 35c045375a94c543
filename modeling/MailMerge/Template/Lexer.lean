/-
# Cutting a template into tokens

The lexer is in one of two modes.  In text it looks for the nearest marker that
starts a tag; of several that start at one place the longest counts.  Inside a tag
it reads one token after the other up to the marker that ends the tag.

    comment          from its start marker to the next end marker, dropped
    raw block        verbatim up to the first `endraw` tag
    `-` at a marker  strips the blanks on that side of the tag
    `+` at a start   keeps the line before a tag as it is
    trim blocks      a line break right after a block or comment is dropped
    lstrip blocks    spaces and tabs between the line start and such a tag are dropped

Brackets are counted, so that a mapping that ends in front of the end of a tag
does not end the tag.  A step consumes characters or changes the mode, so a text
of `n` characters is cut up in at most `2 * (n + 1)` steps unless empty markers
keep the lexer at one place for ever.
-/

import MailMerge.Template.Delimiters
import MailMerge.Error

namespace MailMerge

/-- Whether line breaks after tags and blanks before them are dropped. -/
structure Whitespace where
  trimBlocks : Bool := true
  lstripBlocks : Bool := true
  deriving DecidableEq, Repr

/-- A place in a template: what is left of it, the number of the line, and whether nothing
precedes it on that line. -/
structure Cursor where
  rest : List Char
  line : Nat := 1
  lineStart : Bool := true

namespace Cursor

/-- The place `n` characters further on. -/
def advance : Nat → Cursor → Cursor
  | 0, c => c
  | _ + 1, ⟨[], line, start⟩ => ⟨[], line, start⟩
  | n + 1, ⟨c :: rest, line, _⟩ =>
    advance n ⟨rest, if c = '\n' then line + 1 else line, c == '\n'⟩

/-- The place where only `rest` is left, which must be an end of what is left here. -/
def advanceTo (rest : List Char) (c : Cursor) : Cursor :=
  c.advance (c.rest.length - rest.length)

end Cursor

/-- The three kinds of tags. -/
inductive TagKind where
  | variable | block | comment
  deriving DecidableEq, Repr

/-- Where the lexer is: in text, or inside a tag under a number of open brackets. -/
inductive LexMode where
  | text
  | tag (isBlock : Bool) (depth : Nat)
  deriving DecidableEq, Repr

/-- The state of the lexer.  `strip` is set when the tag just left asked to drop the blanks
that follow it. -/
structure Lexer where
  cursor : Cursor
  mode : LexMode := .text
  strip : Bool := false

/-- A token, with the line the lexer was on before and after reading it. -/
structure Lexeme where
  token : Token
  lineBefore : Nat
  lineAfter : Nat

/-- All tokens of a template, and the error that cut it short, if any. -/
structure Scan where
  lexemes : List Lexeme
  error? : Option SyntaxError

/-- The error that cut a template short, as an error of rendering. -/
def Scan.failure (scan : Scan) : Option RenderError := scan.error?.map SyntaxError.toRenderError

namespace Delimiters

/-- The marker that starts a tag of a kind. -/
def start (d : Delimiters) : TagKind → List Char
  | .variable => d.variableStart.toList
  | .block => d.blockStart.toList
  | .comment => d.commentStart.toList

/-- The longer of two markers that start here, the earlier one if they are equally long. -/
def longer (d : Delimiters) (best : Option TagKind) (kind : TagKind) (cs : List Char) :
    Option TagKind :=
  if Text.startsWith (d.start kind) cs then
    match best with
    | none => some kind
    | some b => if (d.start b).length < (d.start kind).length then some kind else some b
  else best

/-- The kind of the tag that starts at the beginning of a text. -/
def tagAt (d : Delimiters) (cs : List Char) : Option TagKind :=
  let best := d.longer none .comment cs
  let best := d.longer best .block cs
  d.longer best .variable cs

/-- The first tag of a text: how many characters precede it, and its kind. -/
def findTag (d : Delimiters) : List Char → Option (Nat × TagKind)
  | [] => (d.tagAt []).map (0, ·)
  | c :: cs =>
    match d.tagAt (c :: cs) with
    | some kind => some (0, kind)
    | none => (d.findTag cs).map fun (n, kind) => (n + 1, kind)

/-- Reads a block tag that holds just `word`: what follows it, and whether it ends in `-`. -/
def wordTag? (d : Delimiters) (word : String) (cs : List Char) : Option (Bool × List Char) := do
  let cs ← Text.dropLead? d.blockStart.toList cs
  let cs := match cs with
    | '-' :: cs => cs
    | '+' :: cs => cs
    | cs => cs
  let cs ← Text.dropLead? word.toList (Text.trimStart cs)
  let (strips, cs) := match Text.trimStart cs with
    | '-' :: cs => (true, cs)
    | cs => (false, cs)
  let cs ← Text.dropLead? d.blockEnd.toList cs
  pure (strips, cs)

/-- The text before the first `endraw` tag, whether that tag ends in `-`, and what follows it.
A marker that starts no such tag is passed over as a whole. -/
def findEndRaw (d : Delimiters) (passOver : Nat) :
    List Char → Option (List Char × Bool × List Char)
  | [] => none
  | c :: cs =>
    match passOver with
    | n + 1 => (d.findEndRaw n cs).map fun (body, r) => (c :: body, r)
    | 0 =>
      if Text.startsWith d.blockStart.toList (c :: cs) then
        match d.wordTag? "endraw" (c :: cs) with
        | some r => some ([], r)
        | none =>
          (d.findEndRaw (d.blockStart.toList.length - 1) cs).map fun (body, r) => (c :: body, r)
      else (d.findEndRaw 0 cs).map fun (body, r) => (c :: body, r)

end Delimiters

namespace Lexer

/-- What one step of the lexer does. -/
inductive Step where
  | emit (token : Token) (next : Lexer)
  | skip (next : Lexer)
  | fail (error : SyntaxError)
  | finish

/-- An error at a place. -/
def fault (c : Cursor) (f : SyntaxFault) : Step := .fail ⟨c.line, f⟩

/-- Emits a text unless it is empty. -/
def emitText (cs : List Char) (next : Lexer) : Step :=
  if cs.isEmpty then .skip next else .emit (.text (String.ofList cs)) next

/-- Drops the spaces and tabs between the last line start of a text and its end. -/
def dropIndent (lineStart : Bool) (cs : List Char) : List Char :=
  let isIndent := fun c => c == ' ' || c == '\t'
  let before := cs.reverse.dropWhile isIndent
  match before with
  | [] => if lineStart then [] else cs
  | c :: _ => if c = '\n' then before.reverse else cs

/-- Back in text behind a tag: either the blanks that follow are to be dropped, or the line
break right behind the tag is. -/
def leaveTag (w : Whitespace) (strips trims : Bool) (c : Cursor) : Lexer :=
  if strips then { cursor := c, strip := true }
  else if trims && w.trimBlocks then
    match c.rest with
    | '\n' :: _ => { cursor := c.advance 1 }
    | '\r' :: '\n' :: _ => { cursor := c.advance 2 }
    | _ => { cursor := c }
  else { cursor := c }

/-- Behind a `-` or `+` that belongs to the start marker. -/
def passModifier (c : Cursor) : Cursor :=
  match c.rest with
  | '-' :: _ => c.advance 1
  | '+' :: _ => c.advance 1
  | _ => c

/-- Enters the tag that starts at the cursor. -/
def openTag (d : Delimiters) (w : Whitespace) (c : Cursor) (kind : TagKind) : Step :=
  let inner := c.advance (d.start kind).length
  match kind with
  | .variable => .emit .varStart { cursor := passModifier inner, mode := .tag false 0 }
  | .comment =>
    match Text.splitAround? d.commentEnd.toList inner.rest with
    | none => fault inner .unclosedComment
    | some (body, rest) =>
      .skip (leaveTag w (body.getLast? == some '-') true (inner.advanceTo rest))
  | .block =>
    match d.wordTag? "raw" c.rest with
    | none => .emit .blockStart { cursor := passModifier inner, mode := .tag true 0 }
    | some (_, rest) =>
      match d.findEndRaw 0 rest with
      | none => fault c .missingEndRaw
      | some (body, strips, rest) =>
        .emit (.text (String.ofList body)) (leaveTag w strips true (c.advanceTo rest))

/-- One step in text: up to the next tag, or into it. -/
def stepText (d : Delimiters) (w : Whitespace) (l : Lexer) : Step :=
  let cs := l.cursor.rest
  let stripped := fun cs => if l.strip then Text.trimStart cs else cs
  match d.findTag cs with
  | none => emitText (stripped cs) { cursor := l.cursor.advance cs.length }
  | some (0, kind) => openTag d w l.cursor kind
  | some (n + 1, kind) =>
    let next := l.cursor.advance (n + 1)
    let after := next.rest.drop (d.start kind).length
    let text := stripped (cs.take (n + 1))
    let text := match after with
      | '-' :: _ => Text.trimEnd text
      | '+' :: _ => text
      | _ =>
        if w.lstripBlocks && kind != .variable then dropIndent l.cursor.lineStart text else text
    emitText text { cursor := next }

/-- The sign a text starts with, and its length; two characters come before one. -/
def sign? : List Char → Option (Sign × Nat)
  | '=' :: '=' :: _ => some (.eqEq, 2)
  | '!' :: '=' :: _ => some (.notEq, 2)
  | '<' :: '=' :: _ => some (.ltEq, 2)
  | '>' :: '=' :: _ => some (.gtEq, 2)
  | '/' :: '/' :: _ => some (.slashSlash, 2)
  | '<' :: _ => some (.lt, 1)
  | '>' :: _ => some (.gt, 1)
  | '+' :: _ => some (.plus, 1)
  | '-' :: _ => some (.minus, 1)
  | '*' :: _ => some (.star, 1)
  | '/' :: _ => some (.slash, 1)
  | '%' :: _ => some (.percent, 1)
  | '~' :: _ => some (.tilde, 1)
  | '|' :: _ => some (.pipe, 1)
  | '=' :: _ => some (.assign, 1)
  | ',' :: _ => some (.comma, 1)
  | ':' :: _ => some (.colon, 1)
  | '.' :: _ => some (.dot, 1)
  | _ => none

/-- The bracket a character is, and whether it opens. -/
def bracket? : Char → Option (Sign × Bool)
  | '[' => some (.lBracket, true)
  | '(' => some (.lParen, true)
  | '\x7b' => some (.lBrace, true)
  | ']' => some (.rBracket, false)
  | ')' => some (.rParen, false)
  | '\x7d' => some (.rBrace, false)
  | _ => none

/-- Whether a character can be part of a row of digits. -/
def isDigitMark (c : Char) : Bool := c.isDigit || c == '_'

/-- The digits, and underscores between them, that a text starts with. -/
def digits (cs : List Char) : List Char := cs.takeWhile isDigitMark

/-- The point and the digits behind it that a text starts with. -/
def fraction : List Char → List Char
  | '.' :: c :: cs => if c.isDigit then '.' :: digits (c :: cs) else []
  | _ => []

/-- The exponent that a text starts with. -/
def exponent : List Char → List Char
  | e :: cs =>
    if e = 'e' ∨ e = 'E' then
      let (mark, ds) := match cs with
        | '+' :: ds => (['+'], ds)
        | '-' :: ds => (['-'], ds)
        | ds => ([], ds)
      match ds with
      | c :: _ => if c.isDigit then e :: mark ++ digits ds else []
      | [] => []
    else []
  | [] => []

/-- The number at the cursor: its length and its token.  It is an integer unless it has a
fraction or an exponent. -/
def number (cs : List Char) : Nat × Except SyntaxFault Token :=
  let whole := digits cs
  let frac := fraction (cs.drop whole.length)
  let expo := exponent (cs.drop (whole.length + frac.length))
  let literal := (whole ++ frac ++ expo).filter (· ≠ '_')
  let length := whole.length + frac.length + expo.length
  if frac.isEmpty && expo.isEmpty then
    match Number.readInt? literal with
    | some n => (length, .ok (.int n))
    | none => (length, .error (.integerRange (String.ofList literal)))
  else
    match Number.readFloat? literal with
    | some x => (length, .ok (.float x))
    | none => (length, .error (.invalidNumber (String.ofList literal)))

/-- The character an escape in a string stands for, if there is such an escape. -/
def unescape? : Char → Option Char
  | 'n' => some '\n'
  | 't' => some '\t'
  | 'r' => some '\r'
  | '\\' => some '\\'
  | '\'' => some '\''
  | '"' => some '"'
  | _ => none

/-- Reads a string up to the quote that ends it: the text it stands for and what follows it.
An unknown escape keeps its backslash. -/
def string? (quote : Char) : List Char → Option (List Char × List Char)
  | [] => none
  | '\\' :: [] => none
  | '\\' :: c :: cs =>
    match unescape? c with
    | some u => (string? quote cs).map fun (text, rest) => (u :: text, rest)
    | none => (string? quote cs).map fun (text, rest) => ('\\' :: c :: text, rest)
  | c :: cs =>
    if c = quote then some ([], cs)
    else (string? quote cs).map fun (text, rest) => (c :: text, rest)

/-- The keyword or identifier of a spelling. -/
def wordToken (s : String) : Token :=
  match Keyword.ofWord? s with
  | some k => .keyword k
  | none => .ident s

/-- Reads the end marker of a tag, which may follow a `-`: whether it does, and its length. -/
def tagEnd? (ending cs : List Char) : Option (Bool × Nat) :=
  match cs with
  | '-' :: rest =>
    if Text.startsWith ending rest then some (true, ending.length + 1)
    else if Text.startsWith ending cs then some (false, ending.length)
    else none
  | _ => if Text.startsWith ending cs then some (false, ending.length) else none

/-- Reads the token at a cursor inside a tag that is not the end of the tag. -/
def innerToken (isBlock : Bool) (depth : Nat) (c : Cursor) : Step :=
  let go := fun (token : Token) (length : Nat) =>
    Step.emit token { cursor := c.advance length, mode := .tag isBlock depth }
  match c.rest with
  | [] => .finish
  | ch :: cs =>
    if ch.isDigit then
      match number (ch :: cs) with
      | (length, .ok token) => go token length
      | (length, .error f) => fault (c.advance length) f
    else
      match sign? (ch :: cs) with
      | some (s, length) => go (.sign s) length
      | none =>
        match bracket? ch with
        | some (s, opens) =>
          let depth := if opens then depth + 1 else depth - 1
          .emit (.sign s) { cursor := c.advance 1, mode := .tag isBlock depth }
        | none =>
          if ch = '\'' ∨ ch = '"' then
            match string? ch cs with
            | some (text, rest) =>
              .emit (.str (String.ofList text))
                { cursor := c.advanceTo rest, mode := .tag isBlock depth }
            | none => fault c .unterminatedString
          else if Text.isIdentStart ch then
            let word := (ch :: cs).takeWhile Text.isIdentChar
            go (wordToken (String.ofList word)) word.length
          else fault c (.unexpectedChar ch)

/-- One step inside a tag. -/
def stepTag (d : Delimiters) (w : Whitespace) (isBlock : Bool) (depth : Nat) (c : Cursor) :
    Step :=
  let c := c.advanceTo (Text.trimStart c.rest)
  if c.rest.isEmpty then fault c .endInsideTag
  else
    let ending := if isBlock then d.blockEnd.toList else d.variableEnd.toList
    match (if depth = 0 then tagEnd? ending c.rest else none) with
    | some (strips, length) =>
      .emit (if isBlock then .blockEnd else .varEnd)
        (leaveTag w strips isBlock (c.advance length))
    | none => innerToken isBlock depth c

/-- One step of the lexer. -/
def step (d : Delimiters) (w : Whitespace) (l : Lexer) : Step :=
  match l.mode with
  | .text => if l.cursor.rest.isEmpty then .finish else stepText d w l
  | .tag isBlock depth => stepTag d w isBlock depth l.cursor

/-- Runs the lexer for a number of steps.  `before` is the line on which the token in the
making was begun. -/
def run (d : Delimiters) (w : Whitespace) : Nat → Nat → Lexer → Scan
  | 0, _, _ => ⟨[], none⟩
  | fuel + 1, before, l =>
    match l.step d w with
    | .finish => ⟨[], none⟩
    | .fail e => ⟨[], some e⟩
    | .skip next => run d w fuel before next
    | .emit token next =>
      let rest := run d w fuel next.cursor.line next
      ⟨⟨token, before, next.cursor.line⟩ :: rest.lexemes, rest.error?⟩

/-- Cuts a template into tokens. -/
def scan (d : Delimiters) (w : Whitespace) (source : List Char) : Scan :=
  run d w (2 * (source.length + 1)) 1 { cursor := { rest := source } }

end Lexer

end MailMerge
