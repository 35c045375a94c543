/-
# Patterns as programs

A pattern is turned into a row of instructions.  An instruction goes on with the
next one unless it says otherwise; a fork names the instruction it prefers first.

    s t        code of s, code of t
    s|t        fork L1 L2; L1: code of s; jump E; L2: code of t; E:
    s*         L: fork B E; B: code of s; jump L; E:
    s+         B: code of s; fork B E; E:
    s{n,m}     code of s, n times; (fork B E; B: code of s), m - n times; E:

If `s` matches nothing at all, `s*` is made as `(s+)?`: then a turn through the
loop that takes no character comes to its end before it is cut off.
-/

import MailMerge.Pattern.Reader

namespace MailMerge
namespace Pattern

/-- An instruction of a pattern's program. -/
inductive Instr where
  | char (set : CharSet)
  | fork (preferred other : Nat)
  | jump (target : Nat)
  | save (slot : Nat)
  | anchor (a : Anchor)
  | accept

/-- A pattern ready for use: its instructions, how many groups it has beside the whole match,
and their names. -/
structure Program where
  instrs : Array Instr
  groups : Nat
  names : List (String × Nat)

namespace Program

/-- A fork that prefers the loop if it is greedy, and the way out otherwise. -/
def choose (greedy : Bool) (loop out : Nat) : Instr :=
  if greedy then .fork loop out else .fork out loop

/-- Adds the code `emit` puts behind other code, `n` times. -/
def copies (emit : Array Instr → Array Instr) : Nat → Array Instr → Array Instr
  | 0, code => code
  | n + 1, code => copies emit n (emit code)

/-- Adds `n` optional copies, each behind a fork that may leave for `out`. -/
def optional (emit : Array Instr → Array Instr) (greedy : Bool) (out : Nat) :
    Nat → Array Instr → Array Instr
  | 0, code => code
  | n + 1, code =>
    optional emit greedy out n (emit (code.push (choose greedy (code.size + 1) out)))

/-- How many instructions the code of a pattern has. -/
def length : Tree → Nat
  | .empty => 0
  | .char _ => 1
  | .anchor _ => 1
  | .group _ body => length body + 2
  | .both s t => length s + length t
  | .either s t => length s + length t + 2
  | .times body 0 none _ => length body + 2
  | .times body (n + 1) none _ => (n + 1) * length body + 1
  | .times body least (some most) _ => least * length body + (most - least) * (length body + 1)

/-- Adds the code of a pattern behind other code. -/
def emit : Tree → Array Instr → Array Instr
  | .empty, code => code
  | .char set, code => code.push (.char set)
  | .anchor a, code => code.push (.anchor a)
  | .group n body, code => (emit body (code.push (.save (2 * n)))).push (.save (2 * n + 1))
  | .both s t, code => emit t (emit s code)
  | .either s t, code =>
    let second := code.size + length s + 2
    let code := (emit s (code.push (.fork (code.size + 1) second))).push
      (.jump (second + length t))
    emit t code
  | .times body 0 none greedy, code =>
    let start := code.size
    let out := start + length body + 2
    let looped := emit body (code.push (choose greedy (start + 1) out))
    looped.push (if body.nullable then choose greedy (start + 1) out else .jump start)
  | .times body (n + 1) none greedy, code =>
    let code := copies (emit body) n code
    let start := code.size
    (emit body code).push (choose greedy start (start + length body + 1))
  | .times body least (some most) greedy, code =>
    let out := code.size + least * length body + (most - least) * (length body + 1)
    optional (emit body) greedy out (most - least) (copies (emit body) least code)

/-- The program of a pattern: the whole match counts as group 0. -/
def ofParsed (p : Parsed) : Program :=
  { instrs := ((emit p.tree #[.save 0]).push (.save 1)).push .accept
    groups := p.tree.lastGroup
    names := p.names }

/-- Reads a pattern and makes its program. -/
def compile? (anyCase lines : Bool) (source : String) : Option Program :=
  (read? anyCase lines source).map ofParsed

end Program

end Pattern
end MailMerge
