/-
# Shell scripts

The commands of a script and the words they are made of.  A word keeps its quotes
until it is expanded: what stands in quotes is not split and matches no file names.
Texts are rows of bytes, one character for each.
-/

namespace MailMerge
namespace Script

/-- A text as its bytes, one character for each. -/
abbrev Bytes := List Char

/-- A piece of a word. -/
inductive Piece where
  /-- text as it stands -/
  | text (quoted : Bool) (text : Bytes)
  /-- the value of a parameter, changed by an operator and what follows it -/
  | parameter (quoted : Bool) (name operator argument : Bytes)
  /-- the output of a script -/
  | output (quoted : Bool) (source : Bytes)
  /-- the value of an arithmetic expression -/
  | arithmetic (quoted : Bool) (source : Bytes)

/-- A word, which may become any number of arguments. -/
abbrev Word := List Piece

/-- How a file is opened for a command. -/
inductive Opening where
  | read | write | append
  deriving DecidableEq, Repr

/-- Where a command reads from or writes to. -/
inductive Redirect where
  | file (stream : Nat) (opening : Opening) (path : Word)
  | same (stream : Nat) (as : Word)
  | text (stream : Nat) (body : Word)

/-- A command of a script. -/
inductive Command where
  | simple (line : Nat) (assignments : List (Bytes × Word)) (words : List Word)
      (redirects : List Redirect)
  | redirected (body : Command) (redirects : List Redirect)
  | pipe (negated : Bool) (stages : List Command)
  | both (first second : Command)
  | either (first second : Command)
  | sequence (commands : List Command)
  | subshell (body : Command)
  | branch (cases : List (Command × Command)) (otherwise : Option Command)
  | loop (stopsAt : Bool) (condition body : Command)
  | each (name : Bytes) (words : Option (List Word)) (body : Command)
  | choose (word : Word) (cases : List (List Word × Command))
  | define (name : Bytes) (body : Command)

instance : Inhabited Command := ⟨.sequence []⟩

/-- A token of a script with the line it is on. -/
inductive Token where
  | word (line : Nat) (word : Word)
  | operator (line : Nat) (text : String)
  /-- the number of a stream before a redirection -/
  | stream (n : Nat)
  /-- the lines that a command reads -/
  | lines (body : Word)
  /-- a line break, with the line behind it -/
  | newline (line : Nat)
  /-- where the script cannot be read on -/
  | fault (line : Nat) (message : String)
  /-- the end of the script -/
  | finish (line : Nat)

/-- The text of a word without quotes. -/
def bareText? : Word → Option Bytes
  | [] => some []
  | .text false text :: rest => (bareText? rest).map (text ++ ·)
  | _ => none

end Script
end MailMerge
