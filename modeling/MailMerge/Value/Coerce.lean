/-
# Rendered text as values

What a variable's template renders is text.  It is read back as a value: first as
a literal (numbers, quoted strings, lists, tuples, mappings, the constants), then
as a truth word, and otherwise it stays text.  A text that rendering left as it
was is never read as anything else.
-/

import MailMerge.Value.Display
import MailMerge.Number.Word

namespace MailMerge
namespace Value

/-- The truth words, in any case: `y yes t true on 1` and `n no f false off 0`. -/
def truthWord? (s : String) : Option Bool :=
  let word := String.ofList (s.toList.map Char.toLower)
  if ["y", "yes", "t", "true", "on", "1"].contains word then some true
  else if ["n", "no", "f", "false", "off", "0"].contains word then some false
  else none

namespace Literal

/-- A reader takes a value off the start of a text. -/
abbrev Reader (α : Type) := List Char → Option (α × List Char)

/-- What follows the character `c`, which may come after blanks. -/
def eat? (c : Char) (cs : List Char) : Option (List Char) :=
  match Text.trimStart cs with
  | d :: rest => if d = c then some rest else none
  | [] => none

/-- The character an escape in a string stands for, if there is such an escape. -/
def unescape? : Char → Option (List Char)
  | 'n' => some ['\n']
  | 't' => some ['\t']
  | 'r' => some ['\r']
  | '0' => some [Char.ofNat 0]
  | '\n' => some []
  | '\\' => some ['\\']
  | '\'' => some ['\'']
  | '"' => some ['"']
  | _ => none

/-- Reads a string up to the quote that ends it.  A line break must be escaped, an unknown
escape keeps its backslash. -/
def string? (quote : Char) : Reader (List Char)
  | [] => none
  | '\\' :: [] => none
  | '\\' :: c :: cs =>
    (string? quote cs).map fun (text, rest) =>
      (((unescape? c).getD ['\\', c]) ++ text, rest)
  | c :: cs =>
    if c = quote then some ([], cs)
    else if c = '\n' then none
    else (string? quote cs).map fun (text, rest) => (c :: text, rest)

/-- The digits a text starts with, and what follows them; single underscores between two
digits are dropped. -/
def digits (radix : Nat) (after : Bool) : List Char → List Char × List Char
  | [] => ([], [])
  | c :: cs =>
    if (Number.radixValue? radix c).isSome then
      let (ds, rest) := digits radix true cs
      (c :: ds, rest)
    else
      match after, c, cs with
      | true, '_', d :: _ =>
        if (Number.radixValue? radix d).isSome then digits radix true cs else ([], c :: cs)
      | _, _, _ => ([], c :: cs)

/-- The radix that follows a leading zero. -/
def radixMark? (c : Char) : Option Nat :=
  match c.toLower with
  | 'x' => some 16
  | 'o' => some 8
  | 'b' => some 2
  | _ => none

/-- The exponent at the start of a text, as it is written without underscores, and what
follows it; `none` if there is an `e` without digits. -/
def exponent? : List Char → Option (List Char × List Char)
  | e :: cs =>
    if e = 'e' ∨ e = 'E' then
      let (mark, rest) := match cs with
        | '+' :: rest => (['+'], rest)
        | '-' :: rest => (['-'], rest)
        | rest => ([], rest)
      let (ds, rest) := digits 10 false rest
      if ds.isEmpty then none else some ('e' :: mark ++ ds, rest)
    else some ([], e :: cs)
  | [] => some ([], [])

/-- Whether digits with a leading zero denote zero or have no leading zero. -/
def properInteger (ds : List Char) : Bool :=
  match ds with
  | '0' :: rest => rest.all (· == '0')
  | _ => true

/-- Reads a number in decimal notation. -/
def decimal? : Reader Value := fun cs =>
  let (whole, rest) := digits 10 false cs
  let (frac, rest) := match rest with
    | '.' :: rest =>
      let (ds, rest) := digits 10 false rest
      ('.' :: ds, rest)
    | rest => ([], rest)
  match exponent? rest with
  | none => none
  | some (expo, rest) =>
    if frac.isEmpty && expo.isEmpty then
      if properInteger whole then (Number.readInt? whole).map fun n => (.int n, rest) else none
    else (Number.readFloat? (whole ++ frac ++ expo)).map fun x => (.float x, rest)

/-- Reads a number. -/
def number? : Reader Value
  | '0' :: c :: cs =>
    match radixMark? c with
    | some radix =>
      let (ds, rest) := digits radix false cs
      if ds.isEmpty then none
      else (Number.fit? (Number.ofRadix radix ds)).map fun n => (.int n, rest)
    | none => decimal? ('0' :: c :: cs)
  | cs => decimal? cs

/-- Reads the items of a list up to `close`; a comma may stand before it. -/
def items? (close : Char) (item : Reader Value) : Nat → Reader (List Value)
  | 0, _ => none
  | fuel + 1, cs =>
    match eat? close cs with
    | some rest => some ([], rest)
    | none => do
      let (first, cs) ← item cs
      match eat? ',' cs with
      | some cs =>
        let (rest, cs) ← items? close item fuel cs
        pure (first :: rest, cs)
      | none =>
        let cs ← eat? close cs
        pure ([first], cs)

/-- The key that a value is in a mapping: lists and mappings are none. -/
def key? : Value → Option String
  | .str s => some s
  | .list _ => none
  | .map _ => none
  | v => some (display v)

/-- Reads the entries of a mapping up to its end, adding them to the entries before. -/
def entries? (item : Reader Value) : Nat → Dict Value → Reader (Dict Value)
  | 0, _, _ => none
  | fuel + 1, before, cs =>
    match eat? '\x7d' cs with
    | some rest => some (before, rest)
    | none => do
      let (k, cs) ← item cs
      let key ← key? k
      let cs ← eat? ':' cs
      let (v, cs) ← item cs
      let all := Dict.insert key v before
      match eat? ',' cs with
      | some cs => entries? item fuel all cs
      | none =>
        let cs ← eat? '\x7d' cs
        pure (all, cs)

/-- Reads what follows an opening parenthesis: a list, or one value that stands for itself. -/
def tuple? (item : Reader Value) (fuel : Nat) : Reader Value := fun cs =>
  match eat? ')' cs with
  | some rest => some (.list [], rest)
  | none => do
    let (first, cs) ← item cs
    match eat? ')' cs with
    | some rest => pure (first, rest)
    | none =>
      let cs ← eat? ',' cs
      let (rest, cs) ← items? ')' item fuel cs
      pure (.list (first :: rest), cs)

/-- A number under a sign. -/
def signed? (negative : Bool) : Value → Option Value
  | .int n => if negative then (Number.fit? (-n.toInt)).map .int else some (.int n)
  | .float x => some (.float (if negative then -x else x))
  | _ => none

/-- The value of a constant's name. -/
def constant? (word : String) : Option Value :=
  if word = "True" then some (.bool true)
  else if word = "False" then some (.bool false)
  else if word = "None" then some .null
  else none

/-- Reads a value, after blanks.  A bracket or sign takes a character before the value inside
it is read, so as many steps as characters are enough. -/
def value? : Nat → Reader Value
  | 0, _ => none
  | fuel + 1, cs =>
    match Text.trimStart cs with
    | [] => none
    | c :: cs =>
      if c = '\'' ∨ c = '"' then
        (string? c cs).map fun (text, rest) => (.str (String.ofList text), rest)
      else if c = '[' then (items? ']' (value? fuel) fuel cs).map fun (vs, rest) => (.list vs, rest)
      else if c = '(' then tuple? (value? fuel) fuel cs
      else if c = '\x7b' then
        (entries? (value? fuel) fuel [] cs).map fun (es, rest) => (.map es, rest)
      else if c = '+' ∨ c = '-' then do
        let (v, rest) ← value? fuel cs
        let v ← signed? (c = '-') v
        pure (v, rest)
      else if c.isDigit || c = '.' then number? (c :: cs)
      else if Text.isIdentStart c then
        let word := (c :: cs).takeWhile Text.isIdentChar
        (constant? (String.ofList word)).map fun v => (v, (c :: cs).drop word.length)
      else none

end Literal

/-- Reads a text that is one literal and nothing else. -/
def ofLiteral? (s : String) : Option Value :=
  match Literal.value? (s.toList.length + 1) s.toList with
  | some (v, rest) => if Text.isAllBlank rest then some v else none
  | none => none

/-- The value of what the template `source` rendered. -/
def coerce (source rendered : String) : Value :=
  if rendered = source then .str rendered
  else
    let trimmed := String.ofList (Text.trim rendered.toList)
    match ofLiteral? trimmed with
    | some v => v
    | none =>
      match truthWord? trimmed with
      | some b => .bool b
      | none => .str rendered

end Value
end MailMerge
