/-
# Replacing matches

A replacement text names groups as `\1` or `\g<name>`, and a backslash as two
backslashes; everything else, a dollar or a lone backslash included, stands for
itself.  It is first brought into the form with `${1}` and `$$`, which
`expand` then fills in for each match.
-/

import MailMerge.Pattern.Search
import MailMerge.Number.Word
import MailMerge.Text.Basic

namespace MailMerge
namespace Pattern

/-- A reference to a group, in the form with a dollar. -/
def groupReference (name : List Char) : List Char := '$' :: '\x7b' :: name ++ ['\x7d']

/-- What follows the first `>` of a text, and what precedes it; the whole text if it has none. -/
def upToAngle (cs : List Char) : List Char × List Char :=
  (cs.takeWhile (· ≠ '>'), (cs.dropWhile (· ≠ '>')).drop 1)

/-- Turns references with a backslash into references with a dollar.  `fuel` bounds the
characters looked at. -/
def dollarFormFrom : Nat → List Char → List Char
  | 0, _ => []
  | _ + 1, [] => []
  | fuel + 1, '$' :: cs => '$' :: '$' :: dollarFormFrom fuel cs
  | fuel + 1, '\\' :: cs =>
    let ds := cs.takeWhile Char.isDigit
    if !ds.isEmpty then groupReference ds ++ dollarFormFrom fuel (cs.drop ds.length)
    else match cs with
      | 'g' :: '<' :: rest =>
        let (name, rest) := upToAngle rest
        groupReference name ++ dollarFormFrom fuel rest
      | '\\' :: rest => '\\' :: dollarFormFrom fuel rest
      | rest => '\\' :: dollarFormFrom fuel rest
  | fuel + 1, c :: cs => c :: dollarFormFrom fuel cs

/-- A replacement text in the form with a dollar. -/
def dollarForm (cs : List Char) : List Char := dollarFormFrom (cs.length + 1) cs

/-- Whether a character can be part of a group's name outside braces. -/
def isReferenceChar (c : Char) : Bool := c.isAlphanum || c == '_'

/-- The reference behind a dollar: the name, and what follows it. -/
def reference? : List Char → Option (List Char × List Char)
  | '\x7b' :: cs => Text.splitOnce? '\x7d' cs
  | cs =>
    let name := cs.takeWhile isReferenceChar
    if name.isEmpty then none else some (name, cs.drop name.length)

/-- Fills in a replacement in the form with a dollar: `$$` is a dollar, `${name}` and `$name`
what `group` has for the name, and any other dollar stands for itself. -/
def expand (group : List Char → List Char) : Nat → List Char → List Char
  | 0, _ => []
  | _ + 1, [] => []
  | fuel + 1, '$' :: cs =>
    match cs with
    | '$' :: rest => '$' :: expand group fuel rest
    | _ =>
      match reference? cs with
      | some (name, rest) => group name ++ expand group fuel rest
      | none => '$' :: expand group fuel cs
  | fuel + 1, c :: cs => c :: expand group fuel cs

namespace Program

/-- What a match has for the name or number of a group; nothing for a group that is not
there or took no part. -/
def groupText (prog : Program) (subject : List Char) (m : Match) (name : List Char) : List Char :=
  let number := match Number.readNat? name with
    | some n => some n
    | none => prog.groupNamed? (String.ofList name)
  match number.bind (m.text? subject) with
  | some s => s.toList
  | none => []

/-- The text from `position` on with each match replaced. -/
def replaceFrom (prog : Program) (subject replacement : List Char) :
    Nat → List Match → List Char
  | position, [] => subject.drop position
  | position, m :: ms =>
    (subject.drop position).take (m.start - position) ++
      expand (prog.groupText subject m) (replacement.length + 1) replacement ++
      prog.replaceFrom subject replacement m.stop ms

/-- A text with every match replaced. -/
def replaceAll (prog : Program) (subject replacement : List Char) : List Char :=
  prog.replaceFrom subject (dollarForm replacement) 0 (prog.findAll subject)

end Program

/-- Whether a backslash is needed before a character to match just that character. -/
def isMeta (c : Char) : Bool := "\\.+*?()|[]\x7b\x7d^$#&-~".toList.contains c

/-- The pattern that matches just a text. -/
def escapeText (cs : List Char) : List Char :=
  cs.flatMap fun c => if isMeta c then ['\\', c] else [c]

end Pattern
end MailMerge
