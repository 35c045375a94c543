/-
# Searching a text for a pattern

The program runs as a row of threads that advance through the text together, the
most preferred first.  At one place each instruction is entered once, by the most
preferred thread that reaches it, so a search takes time in proportion to program
and text.  The first match in the text wins; of the matches that start there, the
one that the preferences of the pattern choose.
-/

import MailMerge.Pattern.Program

namespace MailMerge
namespace Pattern

/-- A place in a text: how many characters precede it, the last of them, and what follows. -/
structure Place where
  position : Nat := 0
  before : Option Char := none
  after : List Char

namespace Place

/-- The place behind the next character. -/
def next (p : Place) : Place :=
  match p.after with
  | [] => p
  | c :: cs => ⟨p.position + 1, some c, cs⟩

/-- The place `n` characters further on. -/
def advance : Nat → Place → Place
  | 0, p => p
  | n + 1, p => advance n p.next

/-- Whether a word character stands on a side of the place. -/
def isWord (ascii : Bool) : Option Char → Bool
  | some c => if ascii then c.isAlphanum || c == '_' else Property.isWordChar c
  | none => false

/-- Whether an anchor holds at a place. -/
def holds (p : Place) : Anchor → Bool
  | .textStart => p.position == 0
  | .textEnd => p.after.isEmpty
  | .lineStart => p.position == 0 || p.before == some '\n'
  | .lineEnd => p.after.isEmpty || p.after.head? == some '\n'
  | .lineStartCr =>
    p.position == 0 || p.before == some '\n' ||
      (p.before == some '\r' && p.after.head? != some '\n')
  | .lineEndCr =>
    p.after.isEmpty || p.after.head? == some '\r' ||
      (p.after.head? == some '\n' && p.before != some '\r')
  | .wordEdge ascii => isWord ascii p.before != isWord ascii p.after.head?
  | .noWordEdge ascii => isWord ascii p.before == isWord ascii p.after.head?
  | .wordStart ascii => !isWord ascii p.before && isWord ascii p.after.head?
  | .wordEnd ascii => isWord ascii p.before && !isWord ascii p.after.head?
  | .wordStartHalf ascii => !isWord ascii p.before
  | .wordEndHalf ascii => !isWord ascii p.after.head?

end Place

/-- The positions that groups start and end at, two for each group. -/
abbrev Slots := Array (Option Nat)

/-- A thread: the instruction it waits at, which takes a character or accepts. -/
structure Thread where
  address : Nat
  slots : Slots

/-- The threads at a place, the most preferred last, and the instructions entered there. -/
structure Threads where
  entered : List Nat := []
  waiting : List Thread := []

namespace Program

/-- Enters an instruction at a place and follows it to the instructions that wait. -/
def follow (prog : Program) (p : Place) : Nat → Nat → Slots → Threads → Threads
  | 0, _, _, ts => ts
  | fuel + 1, address, slots, ts =>
    if ts.entered.contains address then ts
    else
      let ts := { ts with entered := address :: ts.entered }
      match prog.instrs[address]? with
      | none => ts
      | some (.char _) => { ts with waiting := ⟨address, slots⟩ :: ts.waiting }
      | some .accept => { ts with waiting := ⟨address, slots⟩ :: ts.waiting }
      | some (.fork preferred other) =>
        prog.follow p fuel other slots (prog.follow p fuel preferred slots ts)
      | some (.jump target) => prog.follow p fuel target slots ts
      | some (.save slot) =>
        prog.follow p fuel (address + 1) (slots.setIfInBounds slot (some p.position)) ts
      | some (.anchor a) => if p.holds a then prog.follow p fuel (address + 1) slots ts else ts

/-- Moves threads past the next character, the most preferred first.  A thread that accepts
gives a match and ends all that are less preferred. -/
def stepThreads (prog : Program) (p : Place) :
    List Thread → Threads → Option Slots → Threads × Option Slots
  | [], next, found => (next, found)
  | t :: ts, next, found =>
    match prog.instrs[t.address]? with
    | some .accept => (next, some t.slots)
    | some (.char set) =>
      match p.after with
      | c :: _ =>
        if set.mem c then
          let next := prog.follow p.next (prog.instrs.size + 1) (t.address + 1) t.slots next
          prog.stepThreads p ts next found
        else prog.stepThreads p ts next found
      | [] => prog.stepThreads p ts next found
    | _ => prog.stepThreads p ts next found

/-- Runs threads from a place on.  `left` is what follows the place. -/
def runFrom (prog : Program) : List Char → Place → Threads → Option Slots → Option Slots
  | left, p, ts, found =>
    let ts := if found.isSome then ts
      else prog.follow p (prog.instrs.size + 1) 0 (Array.replicate (2 * prog.groups + 2) none) ts
    let (next, found) := prog.stepThreads p ts.waiting.reverse {} found
    match left with
    | [] => found
    | _ :: left =>
      if found.isSome && next.waiting.isEmpty then found
      else prog.runFrom left p.next next found

/-- The first match at or after a place. -/
def search (prog : Program) (p : Place) : Option Slots :=
  prog.runFrom p.after p {} none

end Program

/-- A match: where each group starts and ends, the whole match first. -/
structure Match where
  spans : List (Option (Nat × Nat))

namespace Match

/-- The match that slots describe. -/
def ofSlots (slots : Slots) : Match :=
  ⟨(List.range (slots.size / 2)).map fun i =>
    match slots[2 * i]?, slots[2 * i + 1]? with
    | some (some a), some (some b) => some (a, b)
    | _, _ => none⟩

/-- Where a group starts and ends, if it took part. -/
def span? (m : Match) (group : Nat) : Option (Nat × Nat) := (m.spans[group]?).join

/-- Where the match ends. -/
def stop (m : Match) : Nat := ((m.span? 0).getD (0, 0)).2

/-- Where the match starts. -/
def start (m : Match) : Nat := ((m.span? 0).getD (0, 0)).1

/-- What a group matched. -/
def text? (m : Match) (subject : List Char) (group : Nat) : Option String :=
  (m.span? group).map fun (a, b) => String.ofList ((subject.drop a).take (b - a))

end Match

namespace Program

/-- The first match in a text. -/
def find? (prog : Program) (subject : List Char) : Option Match :=
  (prog.search { after := subject }).map Match.ofSlots

/-- Matches from a place on.  An empty match where the last match ended does not count; the
search then goes on one character later. -/
def findFrom (prog : Program) : Nat → Place → Option Nat → List Match
  | 0, _, _ => []
  | fuel + 1, p, last =>
    match (prog.search p).map Match.ofSlots with
    | none => []
    | some m =>
      if m.start == m.stop && last == some m.stop then
        if p.after.isEmpty then [] else prog.findFrom fuel p.next last
      else m :: prog.findFrom fuel (p.advance (m.stop - p.position)) (some m.stop)

/-- All matches in a text, from the left and not overlapping. -/
def findAll (prog : Program) (subject : List Char) : List Match :=
  prog.findFrom (2 * subject.length + 3) { after := subject } none

/-- The number of a named group. -/
def groupNamed? (prog : Program) (name : String) : Option Nat := prog.names.lookup name

end Program

end Pattern
end MailMerge
