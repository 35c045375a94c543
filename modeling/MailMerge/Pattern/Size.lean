/-
# The room that a pattern takes

Patterns whose programs would take too much room are refused.  Room is counted for a
program that reads bytes: a character of UTF-8 takes a state for each of its bytes, and a
set takes the states of a tree, in which characters with the same first bytes share these.
-/

import MailMerge.Pattern.Tree

namespace MailMerge
namespace Pattern

/-- The bytes of a code point in UTF-8. -/
def bytesOf (n : Nat) : List Nat :=
  if n < 0x80 then [n]
  else if n < 0x800 then [0xc0 + n / 64, 0x80 + n % 64]
  else if n < 0x10000 then [0xe0 + n / 4096, 0x80 + n / 64 % 64, 0x80 + n % 64]
  else [0xf0 + n / 262144, 0x80 + n / 4096 % 64, 0x80 + n / 64 % 64, 0x80 + n % 64]

/-- The last code point of the first part when a range is cut so that a multiple of `unit`
code points, or a part of one unit, is cut off. -/
def cutAt? (first last unit : Nat) : Option Nat :=
  if first / unit = last / unit then none
  else if first % unit ≠ 0 then some (first - first % unit + unit - 1)
  else if last % unit ≠ unit - 1 then some (last - last % unit - 1)
  else none

/-- Where a range has to be cut so that each part is a row of ranges of bytes. -/
def cut? (first last : Nat) : Option Nat :=
  match [0x7f, 0x7ff, 0xffff].find? fun m => first ≤ m && m < last with
  | some m => some m
  | none =>
    if last ≤ 0x7f then none
    else (cutAt? first last 64).or ((cutAt? first last 4096).or (cutAt? first last 262144))

/-- A range of code points as rows of ranges of bytes.  A range is cut less than sixteen times
in a row. -/
def byteRows : Nat → Nat → Nat → List (List (Nat × Nat))
  | 0, _, _ => []
  | fuel + 1, first, last =>
    match cut? first last with
    | some m => byteRows fuel first m ++ byteRows fuel (m + 1) last
    | none => [(bytesOf first).zip (bytesOf last)]

/-- How many entries two rows have in common at their start. -/
def sharedStart : List (Nat × Nat) → List (Nat × Nat) → Nat
  | x :: xs, y :: ys => if x = y then sharedStart xs ys + 1 else 0
  | _, _ => 0

/-- How many states the tree of sorted rows has. -/
def treeSize (before : List (Nat × Nat)) : List (List (Nat × Nat)) → Nat
  | [] => 0
  | row :: rows => row.length - sharedStart before row + treeSize row rows

namespace CharSet

/-- The room of a row of ranges. -/
def roomOf (rs : List (Nat × Nat)) : Nat :=
  match rs with
  | [(first, last)] =>
    if first = last then 32 * (bytesOf first).length else general
  | _ => general
where
  /-- The room of ranges that are not just one character. -/
  general : Nat :=
    if rs.all fun r => r.2 < 0x80 then 64 + 8 * rs.length
    else
      let rows := rs.flatMap fun r => byteRows 16 r.1 r.2
      32 * (2 + treeSize [] rows) + 4 * rows.length

/-- The room of a set.  A set for any case takes about twice the room. -/
def room : CharSet → Nat
  | anyCase s => 2 * s.room
  | s => roomOf (s.ranges.diff (.range 0xd800 0xdfff)).ranges.toList

end CharSet

namespace Tree

/-- About how many bytes the program of a pattern takes. -/
def size : Tree → Nat
  | empty => 32
  | char set => set.room
  | anchor _ => 32
  | group _ body => 64 + body.size
  | both s t => s.size + t.size
  | either s t => 72 + s.size + t.size
  | times body 0 none _ => 104 + body.size
  | times body least none _ => 40 + least * body.size
  | times body least (some most) _ =>
    least * body.size + 32 + (most - least) * (body.size + 40)

end Tree

/-- How many bytes the program of a pattern may take. -/
def sizeLimit : Nat := 10 * Nat.pow 2 20

end Pattern
end MailMerge
