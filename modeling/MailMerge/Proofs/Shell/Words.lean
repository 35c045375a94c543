/-
# Words quoted for a shell

A text that is quoted for a shell is one word to it, and that word is the text.  How a shell
takes quotes off is followed character by character (`Shell.Reader.step`): outside quotes, in
single quotes or in double quotes.  In single quotes every character but the single quote is
added to the word, and a single quote is written so that it leaves them, stands in double quotes
and comes back (`Shell.reads_char`); so a text between single quotes adds itself to the word,
however many quotes it holds and wherever they stand (`Shell.reads_text`).
-/

import MailMerge.Filter.Text
import MailMerge.Proofs.Rows
import MailMerge.Proofs.Template.Spelling

namespace MailMerge
namespace Shell

/-! ### How a shell takes quotes off -/

/-- What a character of a command stands in. -/
inductive Quoting where
  | bare | single | double
  deriving DecidableEq, Repr

/-- What a shell has read of a command: the words that are complete, the word in the making if
there is one, and what the next character stands in. -/
structure Reader where
  words : List (List Char) := []
  word : Option (List Char) := none
  quoting : Quoting := .bare
  deriving DecidableEq, Repr

/-- The characters that need no quotes. -/
def plain : List Char :=
  "abcdefghijklmnopqrstuvwxyzABCDEFGHIJKLMNOPQRSTUVWXYZ0123456789@%+=:,./-_".toList

namespace Reader

/-- Adds characters to the word in the making, or begins one with them. -/
def add (r : Reader) (cs : List Char) : Reader :=
  { r with word := some (r.word.getD [] ++ cs) }

/-- Ends the word in the making. -/
def close (r : Reader) : Reader :=
  { r with words := r.words ++ r.word.toList, word := none }

/-- Reads a character.  Outside quotes blanks part words, quotes begin, and what is not plain is
refused.  In single quotes everything is literal up to the next single quote.  In double quotes
the dollar sign, the backquote and the backslash keep a meaning and are refused, and everything
else is literal up to the next double quote. -/
def step (r : Reader) (c : Char) : Option Reader :=
  match r.quoting with
  | .bare =>
    if c = '\'' then some { r.add [] with quoting := .single }
    else if c = '"' then some { r.add [] with quoting := .double }
    else if c = ' ' ∨ c = '\t' then some r.close
    else if c ∈ plain then some (r.add [c])
    else none
  | .single => if c = '\'' then some { r with quoting := .bare } else some (r.add [c])
  | .double =>
    if c = '"' then some { r with quoting := .bare }
    else if c = '$' ∨ c = '\x60' ∨ c = '\\' then none
    else some (r.add [c])

end Reader

/-- The words of a command, unless it needs more than quotes to be read or leaves them open. -/
def words? (command : String) : Option (List String) := do
  let r ← command.toList.foldlM Reader.step {}
  if r.quoting = .bare then some (r.close.words.map String.ofList) else none

/-! ### What it reads in a quoted text -/

open Filters

variable {c : Char} {cs : List Char}

theorem mem_plain (h : isShellSafe c = true) : c ∈ plain := by
  have hascii : c.toNat < 128 := by
    rw [isShellSafe, Bool.or_eq_true] at h
    rcases h with h | h
    · exact toNat_lt_of_isAlphanum (by rw [h, Bool.true_or])
    · have hall : ("@%+=:,./-_".toList.all fun d => d.toNat < 128) = true := by decide
      exact of_decide_eq_true (List.all_eq_true.1 hall c (List.contains_iff_mem.1 h))
  exact forall_ascii (p := fun c => isShellSafe c = true → c ∈ plain) (by decide +kernel) hascii h

/-- A plain character is neither a quote nor a blank. -/
theorem step_plain (h : c ∈ plain) (ws : List (List Char)) (word : Option (List Char)) :
    Reader.step ⟨ws, word, .bare⟩ c = some ⟨ws, some (word.getD [] ++ [c]), .bare⟩ := by
  have hsingle : c ≠ '\'' := ne_of_mem_of_not_mem h (by decide)
  have hdouble : c ≠ '"' := ne_of_mem_of_not_mem h (by decide)
  have hblank : ¬ (c = ' ' ∨ c = '\t') :=
    not_or.2 ⟨ne_of_mem_of_not_mem h (by decide), ne_of_mem_of_not_mem h (by decide)⟩
  simp only [Reader.step, if_neg hsingle, if_neg hdouble, if_neg hblank, if_pos h, Reader.add]

theorem reads_plain (h : ∀ c ∈ cs, c ∈ plain) (ws : List (List Char)) (ds : List Char) :
    cs.foldlM Reader.step ⟨ws, some ds, .bare⟩ = some ⟨ws, some (ds ++ cs), .bare⟩ := by
  induction cs generalizing ds with
  | nil => simp
  | cons c cs ih =>
    obtain ⟨hc, hcs⟩ := List.forall_mem_cons.1 h
    have hstep := step_plain hc ws (some ds)
    rw [List.foldlM_cons, hstep, Option.bind_eq_bind, Option.bind_some, ih hcs]
    simp

/-- **In single quotes a character adds itself to the word.**  A single quote takes five steps
for it: out of the quotes, through double quotes, and in again. -/
theorem reads_char (c : Char) (ws : List (List Char)) (ds : List Char) :
    (shellQuoteChar c).foldlM Reader.step ⟨ws, some ds, .single⟩ =
      some ⟨ws, some (ds ++ [c]), .single⟩ := by
  unfold shellQuoteChar
  split_ifs with hc
  · subst hc
    simp [Reader.step, Reader.add]
  · simp [Reader.step, Reader.add, hc]

/-- **In single quotes a text adds itself to the word,** its own quotes included. -/
theorem reads_text (cs : List Char) (ws : List (List Char)) (ds : List Char) :
    (cs.flatMap shellQuoteChar).foldlM Reader.step ⟨ws, some ds, .single⟩ =
      some ⟨ws, some (ds ++ cs), .single⟩ := by
  induction cs generalizing ds with
  | nil => simp
  | cons c cs ih =>
    have hc := reads_char c ws ds
    rw [List.flatMap_cons, List.foldlM_append, hc, Option.bind_eq_bind, Option.bind_some, ih]
    simp

/-- **A quoted text is a word,** between other words as well. -/
theorem reads_quoted (cs : List Char) (ws : List (List Char)) :
    (shellQuoteChars cs).foldlM Reader.step ⟨ws, none, .bare⟩ = some ⟨ws, some cs, .bare⟩ := by
  unfold shellQuoteChars
  split_ifs with hempty hsafe
  · rw [List.isEmpty_iff.1 hempty]
    rfl
  · cases cs with
    | nil => exact absurd rfl hempty
    | cons c cs =>
      obtain ⟨hc, hcs⟩ := List.forall_mem_cons.1 (List.all_eq_true.1 hsafe)
      have hstep := step_plain (mem_plain hc) ws none
      have hrest := reads_plain (fun d hd => mem_plain (hcs d hd)) ws [c]
      rw [List.foldlM_cons, hstep]
      exact hrest
  · have hopen : Reader.step ⟨ws, none, .bare⟩ '\'' = some ⟨ws, some [], .single⟩ := rfl
    have hclose : Reader.step ⟨ws, some cs, .single⟩ '\'' = some ⟨ws, some cs, .bare⟩ := rfl
    have htext := reads_text cs ws []
    rw [List.cons_append, List.foldlM_cons, hopen, Option.bind_eq_bind, Option.bind_some,
      List.foldlM_append, htext]
    exact hclose

/-- Quoted texts with blanks between them are read as the texts, one word for each. -/
theorem reads_row (row : List (List Char)) (ws : List (List Char)) :
    ∃ r, ([' '].intercalate (row.map shellQuoteChars)).foldlM Reader.step ⟨ws, none, .bare⟩ =
      some r ∧ r.quoting = .bare ∧ r.close.words = ws ++ row := by
  induction row generalizing ws with
  | nil => exact ⟨_, rfl, rfl, rfl⟩
  | cons cs row ih =>
    have hword := reads_quoted cs ws
    cases row with
    | nil =>
      rw [List.map_singleton, List.intercalate_singleton, hword]
      exact ⟨_, rfl, rfl, rfl⟩
    | cons cs' row =>
      obtain ⟨r, hr, hbare, hwords⟩ := ih (ws ++ [cs])
      refine ⟨r, ?_, hbare, by rw [hwords]; simp⟩
      have hblank : Reader.step ⟨ws, some cs, .bare⟩ ' ' = some ⟨ws ++ [cs], none, .bare⟩ := rfl
      rw [List.map_cons, List.map_cons, List.intercalate_cons_cons, List.foldlM_append,
        List.foldlM_append, hword, ← List.map_cons]
      simpa [hblank] using hr

/-- **A command of quoted texts has these texts as its words,** in their order and none besides,
whatever they hold. -/
theorem words?_row (row : List String) :
    words? (joinStrings " " (row.map shellQuote)) = some row := by
  obtain ⟨r, hr, hbare, hwords⟩ := reads_row (row.map String.toList) []
  have hcommand : (joinStrings " " (row.map shellQuote)).toList =
      [' '].intercalate ((row.map String.toList).map shellQuoteChars) := by
    rw [toList_joinStrings, List.map_map, List.map_map]
    congr 1
    exact List.map_congr_left fun s _ => String.toList_ofList
  rw [words?, hcommand, hr]
  simp [hbare, hwords]

/-- **Quoting for a shell.**  Whatever a text holds, a shell reads its quoted form as one word,
the text itself: what is in quotes is literal, and outside quotes there are only characters that
need none.  Of the empty text it reads one empty word. -/
theorem words?_shellQuote (s : String) : words? (shellQuote s) = some [s] := words?_row [s]

end Shell
end MailMerge
