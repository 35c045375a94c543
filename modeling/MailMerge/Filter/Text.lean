/-
# Filters on text

Case, trimming, replacing, truth words, and the two filters for hook commands: a
path in its normal form, and a word quoted for the shell.
-/

import MailMerge.Filter.Argument
import MailMerge.Text.Case
import MailMerge.Value.Coerce
import MailMerge.Path

namespace MailMerge
namespace Filters

/-- Each word with a capital: a character is put in upper case unless a letter or digit
precedes it. -/
def titleChars (afterWord : Bool) : List Char → List Char
  | [] => []
  | c :: cs =>
    (if afterWord then Text.lowerChar c else Text.upperChar c) ++
      titleChars (Text.isAlphanumeric c) cs

/-- The first character in upper case and the rest in lower case. -/
def capitalizeChars : List Char → List Char
  | [] => []
  | c :: cs => Text.upperChar c ++ Text.lower cs

/-- The result of a function on the characters of a value's text. -/
def onText (a : Access) (f : List Char → List Char) (v : Value) : Read Value :=
  return .str (String.ofList (f (← v.output a).toList))

/-- Replaces a text by another, all occurrences or as many as are asked for. -/
def replace (a : Access) (v : Value) (given : Arguments) : Read Value := do
  let subject ← v.output a
  let old ← (← given.need 0 "replace").output a
  let new ← (← given.need 1 "replace").output a
  match given.param? 2 "count" with
  | some count =>
    let n ← integer count
    return .str (String.ofList
      (Text.replaceFirst old.toList new.toList n.toInt.toNat subject.toList))
  | none => return .str (String.ofList (Text.replaceAll old.toList new.toList subject.toList))

/-- The truth that a text says in words, else the argument `default`. -/
def truthOfText (s : String) (given : Arguments) : Read Value :=
  match Value.truthWord? (String.ofList (Text.trim s.toList)) with
  | some b => pure (.bool b)
  | none =>
    match given.param? 0 "default" with
    | some fallback => pure fallback
    | none => throw (.invalid (.truthValue s))

/-- The truth of a value that says so in words or numbers. -/
def toBool (a : Access) (v : Value) (given : Arguments) : Read Value := do
  match ← v.defined with
  | .bool b => pure (.bool b)
  | .null => pure (.bool false)
  | v => if v.isNumber then pure (.bool v.truthy) else truthOfText (← v.output a) given

/-- Whether a character means itself to a shell. -/
def isShellSafe (c : Char) : Bool := c.isAlphanum || "@%+=:,./-_".toList.contains c

/-- A single quote as it is written inside single quotes: the quotes end, a single quote
stands in double quotes, and the quotes begin again. -/
def shellQuoteChar (c : Char) : List Char :=
  if c = '\'' then ['\'', '"', '\'', '"', '\''] else [c]

/-- One word of a shell command that stands for the text. -/
def shellQuoteChars (cs : List Char) : List Char :=
  if cs.isEmpty then ['\'', '\'']
  else if cs.all isShellSafe then cs
  else '\'' :: cs.flatMap shellQuoteChar ++ ['\'']

/-- One word of a shell command that stands for the text. -/
def shellQuote (s : String) : String := String.ofList (shellQuoteChars s.toList)

end Filters
end MailMerge
