/-
# Values as text

Constants are written with a capital, strings stand bare on their own and quoted
inside a list or mapping, mappings are written in the order of their keys.
-/

import MailMerge.Value.Basic
import MailMerge.Number.Text
import MailMerge.Text.Basic

namespace MailMerge
namespace Value

/-- The quote around a text: double if it holds single quotes only. -/
def quoteFor (cs : List Char) : Char :=
  if cs.contains '\'' && !cs.contains '"' then '"' else '\''

/-- A character inside quotes. -/
def escapeChar (quote c : Char) : List Char :=
  if c = '\\' then ['\\', '\\']
  else if c = '\n' then ['\\', 'n']
  else if c = '\r' then ['\\', 'r']
  else if c = '\t' then ['\\', 't']
  else if c = quote then ['\\', c]
  else [c]

/-- A text in quotes, as characters. -/
def quoteChars (cs : List Char) : List Char :=
  let quote := quoteFor cs
  quote :: cs.flatMap (escapeChar quote) ++ [quote]

/-- A text in quotes. -/
def quoteText (s : String) : String := String.ofList (quoteChars s.toList)

mutual

/-- A value as text: strings stand bare if `bare` says so and in quotes otherwise. -/
def write (bare : Bool) : Value → String
  | str s => if bare then s else quoteText s
  | int n => toString n.toInt
  | float x => Number.floatText x
  | bool true => "True"
  | bool false => "False"
  | null => "None"
  | undefined _ => ""
  | list items => "[" ++ joinStrings ", " (writeItems items) ++ "]"
  | map entries => "\x7b" ++ joinStrings ", " (writeEntries entries) ++ "\x7d"
  | lazy _ _ => "\x7b...\x7d"

/-- The items of a list as they are written inside it. -/
def writeItems : List Value → List String
  | [] => []
  | v :: rest => write false v :: writeItems rest

/-- The entries of a mapping as they are written inside it. -/
def writeEntries : List (String × Value) → List String
  | [] => []
  | (k, v) :: rest => (quoteText k ++ ": " ++ write false v) :: writeEntries rest

end

/-- A value as it is printed on its own; what is undefined prints as nothing. -/
def display (v : Value) : String := write true v

/-- A value as it is written inside a list or mapping. -/
def repr (v : Value) : String := write false v

end Value
end MailMerge
