/-
# Which events are logged

A filter is a list of rules with commas between them.  A rule has a level, and may say
what it is about: `target`, the start of the part of the program that reports an event;
`[scope]`, the activity that an event belongs to; `[{detail}]`, a detail that an event
has, or the value of one.  The level comes first behind an equals sign, or stands alone;
a rule without a level is for every level.

The most specific rule for an event decides, and an event that no rule is for is not
logged.  No event here belongs to a named activity, and none is told apart by the value
of a detail, so rules about those are read and then are for no event.
-/

import MailMerge.Event

namespace MailMerge

/-- A rule for events. -/
structure LogRule where
  /-- what the event's target starts with -/
  target : String := ""
  /-- a detail that the event has -/
  detail : Option String := none
  /-- whether the rule is about an activity or about the value of a detail -/
  isNarrower : Bool := false
  /-- the most detailed level, as its rank -/
  rank : Nat
  deriving DecidableEq, Repr

/-- The rules of a filter; later ones count before earlier ones that are as specific. -/
structure LogFilter where
  rules : List LogRule
  deriving DecidableEq, Repr

namespace LogRule

/-- The rank of every level. -/
def allLevels : Nat := 5

/-- The rank of a level by name or number. -/
def rank? (cs : List Char) : Option Nat :=
  let digits := (Text.dropLead? ['+'] cs).getD cs
  if !digits.isEmpty && digits.all fun c => c.isDigit then
    let n := digits.foldl (fun n c => n * 10 + (c.toNat - '0'.toNat)) 0
    if n ≤ allLevels then some n else none
  else
    match (String.ofList cs).toLower with
    | "off" => some 0
    | "error" => some 1
    | "warn" => some 2
    | "info" => some 3
    | "debug" => some 4
    | "trace" => some 5
    | _ => none

/-- Reads the level behind a rule, where there may be none. -/
def readLevel? (rule : LogRule) : List Char → Option LogRule
  | [] => some rule
  | ['='] => some rule
  | '=' :: level => (rank? level).map fun n => { rule with rank := n }
  | _ => none

/-- Reads what stands between brackets: the name of an activity, and a detail between braces. -/
def readBracket? (target : String) (cs : List Char) : Option LogRule :=
  let name := cs.takeWhile fun c => c != ']' && c != '{'
  match cs.drop name.length with
  | ']' :: rest => readLevel? ⟨target, none, true, allLevels⟩ rest
  | '{' :: inner =>
    let detail := inner.takeWhile (· != '}')
    let isNarrower := !name.isEmpty || detail.contains '='
    match inner.drop detail.length with
    | '}' :: ']' :: rest =>
      if detail.isEmpty then none
      else readLevel? ⟨target, some (String.ofList detail), isNarrower, allLevels⟩ rest
    | _ => none
  | _ => none

/-- Reads a rule. -/
def read? (text : List Char) : Option LogRule :=
  match Text.trim text with
  | [] => none
  | '[' :: rest => readBracket? "" rest
  | c :: cs =>
    if !(Text.isIdentChar c || c == ':' || c == '-') then none
    else
      let target := c :: cs.takeWhile fun c => c != '=' && c != '['
      match (c :: cs).drop target.length with
      | [] =>
        match rank? target with
        | some n => some { rank := n }
        | none => some { target := String.ofList target, rank := allLevels }
      | '[' :: rest => readBracket? (String.ofList target) rest
      | level => readLevel? { target := String.ofList target, rank := allLevels } level

/-- Whether a rule is for an event.  The message counts as a detail. -/
def isFor (r : LogRule) (e : Event) : Bool :=
  !r.isNarrower && Text.startsWith r.target.toList e.target.toList &&
    match r.detail with
    | some name => name == "message" || e.details.any fun d => d.name == name
    | none => true

/-- Whether a rule is at least as specific as another one for the same event: its target is
longer, or it asks for a detail that the other one does not ask for. -/
def isAsSpecific (r other : LogRule) : Bool :=
  if r.target.length = other.target.length then
    match r.detail, other.detail with
    | some name, some otherName => !(name < otherName)
    | none, some _ => false
    | _, none => true
  else r.target.length > other.target.length

end LogRule

namespace LogFilter

/-- Reads a filter.  An empty one has no rules. -/
def ofText? (s : String) : Option LogFilter :=
  let parts := (Text.splitOn ',' s.toList).filter fun p => !p.isEmpty
  (parts.mapM LogRule.read?).map LogFilter.mk

/-- The filter for all events, as detailed as was asked for. -/
def ofVerbosity (n : Nat) : LogFilter :=
  ⟨[{ rank := min (n + Level.warn.rank) LogRule.allLevels }]⟩

/-- The rule that decides about an event. -/
def ruleFor? (f : LogFilter) (e : Event) : Option LogRule :=
  (f.rules.filter fun r => r.isFor e).foldl
    (fun best r =>
      match best with
      | some b => if r.isAsSpecific b then some r else some b
      | none => some r) none

/-- Whether an event is logged. -/
def admits (f : LogFilter) (e : Event) : Bool :=
  match f.ruleFor? e with
  | some r => e.level.rank ≤ r.rank
  | none => false

end LogFilter

end MailMerge
