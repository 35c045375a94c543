/-
# Filters with patterns
-/

import MailMerge.Filter.Argument
import MailMerge.Pattern.Replace

namespace MailMerge
namespace Filters

/-- The subject and the program of a filter with a pattern.  The flags come by position from
`at` on, or by name. -/
def patternOf (a : Access) (v pattern : Value) (given : Arguments) (at' : Nat) :
    Read (List Char × Pattern.Program) := do
  let subject ← v.output a
  let source ← pattern.output a
  let anyCase := given.flag at' "ignorecase"
  let lines := given.flag (at' + 1) "multiline"
  match Pattern.Program.compile? anyCase lines source with
  | some prog => pure (subject.toList, prog)
  | none => throw (.invalid (.pattern source))

/-- What a group of a match has, as a value; nothing is the empty text. -/
def groupValue (subject : List Char) (m : Pattern.Match) (group : Nat) : Value :=
  .str ((m.text? subject group).getD "")

/-- All matches: of each its only group, a list of its groups, or its text if it has none. -/
def patternFindAll (a : Access) (v : Value) (given : Arguments) : Read Value := do
  let pattern ← given.need 0 "regex_findall"
  let (subject, prog) ← patternOf a v pattern given 1
  return .list ((prog.findAll subject).map fun m =>
    match prog.groups with
    | 0 => groupValue subject m 0
    | 1 => groupValue subject m 1
    | n => .list ((List.range n).map fun i => groupValue subject m (i + 1)))

/-- The text with all matches replaced. -/
def patternReplace (a : Access) (v : Value) (given : Arguments) : Read Value := do
  let replacement ← given.textOr a 1 "replacement" ""
  let pattern ← given.need 0 "regex_replace"
  let (subject, prog) ← patternOf a v pattern given 2
  return .str (String.ofList (prog.replaceAll subject replacement.toList))

/-- The group that `\1` or `\g<name>` selects. -/
inductive Selector where
  | number (digits : List Char)
  | named (name : List Char)

/-- Reads a selector. -/
def selector? (cs : List Char) : Option Selector :=
  match cs with
  | '\\' :: 'g' :: '<' :: rest =>
    match Text.dropTail? ['>'] rest with
    | some name =>
      if !name.isEmpty && name.all Property.isWordChar then some (.named name) else none
    | none => none
  | '\\' :: ds => if !ds.isEmpty && ds.all Property.isDigit then some (.number ds) else none
  | _ => none

/-- What a selector selects from a match; none for a group that is not there or took no
part. -/
def select (prog : Pattern.Program) (subject : List Char) (m : Pattern.Match) : Selector → Value
  | .number ds =>
    match (Number.readNat? ds).bind (m.text? subject) with
    | some s => .str s
    | none => .null
  | .named name =>
    match (prog.groupNamed? (String.ofList name)).bind (m.text? subject) with
    | some s => .str s
    | none => .null

/-- The first match, or a list of the groups that further arguments select from it. -/
def patternSearch (a : Access) (v : Value) (given : Arguments) : Read Value := do
  let pattern ← given.need 0 "regex_search"
  let (subject, prog) ← patternOf a v pattern { given with args := [] } 0
  match prog.find? subject with
  | none => pure .null
  | some m =>
    match given.args.drop 1 with
    | [] => pure (groupValue subject m 0)
    | selectors =>
      return .list (← selectors.mapM fun v => do
        let s ← v.output a
        match selector? s.toList with
        | some sel => pure (select prog subject m sel)
        | none => throw (.invalid (.groupSelector s)))

/-- Whether a text has a match. -/
def patternContains (a : Access) (v : Value) (given : Arguments) : Read Value := do
  let pattern ← given.need 0 "regex_contains"
  let (subject, prog) ← patternOf a v pattern given 1
  return .bool (prog.find? subject).isSome

end Filters
end MailMerge
