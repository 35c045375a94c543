/-
# Patterns as trees

A pattern matches characters from sets, tests the place it is at, and combines
other patterns.  Groups remember what they matched under their numbers.
-/

import MailMerge.Pattern.CharSet

namespace MailMerge
namespace Pattern

/-- A test of a place in a text that matches no character. -/
inductive Anchor where
  | textStart | textEnd | lineStart | lineEnd | lineStartCr | lineEndCr
  | wordEdge (ascii : Bool) | noWordEdge (ascii : Bool)
  | wordStart (ascii : Bool) | wordEnd (ascii : Bool)
  | wordStartHalf (ascii : Bool) | wordEndHalf (ascii : Bool)
  deriving DecidableEq, Repr

/-- A pattern.  `times` repeats a pattern at least `least` and at most `most` times, as often
as possible if `greedy`. -/
inductive Tree where
  | empty
  | char (set : CharSet)
  | anchor (a : Anchor)
  | group (number : Nat) (body : Tree)
  | both (first second : Tree)
  | either (first second : Tree)
  | times (body : Tree) (least : Nat) (most : Option Nat) (greedy : Bool)

namespace Tree

/-- Whether a pattern can match without taking a character. -/
def nullable : Tree → Bool
  | empty => true
  | char _ => false
  | anchor _ => true
  | group _ body => body.nullable
  | both s t => s.nullable && t.nullable
  | either s t => s.nullable || t.nullable
  | times body least _ _ => least == 0 || body.nullable

/-- A pattern repeated; no repetition at all is the empty pattern, exactly one the pattern. -/
def repeated (body : Tree) (least : Nat) (most : Option Nat) (greedy : Bool) : Tree :=
  match least, most with
  | 0, some 0 => empty
  | 1, some 1 => body
  | _, _ => times body least most greedy

/-- The greatest number of a group. -/
def lastGroup : Tree → Nat
  | group number body => max number body.lastGroup
  | both s t => max s.lastGroup t.lastGroup
  | either s t => max s.lastGroup t.lastGroup
  | times body _ _ _ => body.lastGroup
  | _ => 0

end Tree

/-- A pattern that has been read: its tree and the names of its groups. -/
structure Parsed where
  tree : Tree
  names : List (String × Nat)

end Pattern
end MailMerge
