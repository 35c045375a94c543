/-
# The lines on which tokens are asked for

The lexer counts the line breaks it passes, so its line is that of its place in the source
(`Cursor.line_advance`).  Outside tags it gives texts and the starts of tags, inside a tag the
tokens of the tag; which of the two comes next is told by the token just read
(`Lexer.fits_step`), so the tokens of a scan stand in order (`Lexer.ordered_run`).  A token of a
tag is read in one step from the place where it was asked for, and the line that is kept for it
is the line of that place, in front of the blanks (`Lexer.asked_of_run`).
-/

import MailMerge.Proofs.Template.Calls
import MailMerge.Proofs.Template.Turns
import Mathlib.Data.List.TakeWhile

namespace MailMerge

/-! ### Lines of places -/

/-- The line on which a text ends, counted from one. -/
def lineAfter (cs : List Char) : Nat := 1 + cs.count '\n'

theorem lineAfter_append (cs ds : List Char) :
    lineAfter (cs ++ ds) = lineAfter cs + ds.count '\n' := by
  rw [lineAfter, lineAfter, List.count_append, Nat.add_assoc]

theorem Cursor.line_advance (n : Nat) (c : Cursor) :
    (c.advance n).line = c.line + (c.rest.take n).count '\n' := by
  induction n generalizing c with
  | zero => rfl
  | succ n ih =>
    obtain ⟨rest, line, start⟩ := c
    cases rest with
    | nil => rfl
    | cons ch rest =>
      rw [Cursor.advance, ih, List.take_succ_cons, List.count_cons]
      by_cases hch : ch = '\n'
      · subst hch
        rw [if_pos rfl, if_pos (beq_self_eq_true '\n')]
        exact Nat.add_right_comm line 1 _
      · rw [if_neg hch, if_neg (by simpa using hch), Nat.add_zero]

/-! ### The order of tokens -/

/-- Whether what follows a token stands inside a tag. -/
def Token.leadsInside : Token → Bool
  | .text _ => false
  | .varEnd => false
  | .blockEnd => false
  | _ => true

/-- Tokens in the order in which a lexer gives them that is inside a tag or not. -/
def Token.Ordered : Bool → List Token → Prop
  | _, [] => True
  | inside, t :: ts => t.isInner = inside ∧ Ordered t.leadsInside ts

/-- The token that a fault says was taken in place of another one. -/
def SyntaxFault.found? : SyntaxFault → Option Token
  | .expected _ got => got
  | .expectedIdentifier _ got => got
  | .expectedTestName got => got
  | .expectedAttribute got => got
  | .expectedExpression got => got
  | _ => none

namespace Lexer

variable {d : Delimiters} {w : Whitespace} {l l' next : Lexer} {c : Cursor}

/-- Whether the lexer is inside a tag. -/
def isInside (l : Lexer) : Bool :=
  match l.mode with
  | .text => false
  | .tag _ _ => true

/-- A step as it can be taken inside a tag or not. -/
inductive Step.Fits (inside : Bool) : Step → Prop
  | emit {t : Token} {next : Lexer} (ht : t.isInner = inside)
    (hnext : next.isInside = t.leadsInside) : Fits inside (.emit t next)
  | skip {next : Lexer} (hinside : inside = false) (hnext : next.isInside = false) :
    Fits inside (.skip next)
  | fail {e : SyntaxError} (h : e.fault.found? = none) : Fits inside (.fail e)
  | finish : Fits inside .finish

theorem isInside_leaveTag (strips trims : Bool) (c : Cursor) :
    (leaveTag w strips trims c).isInside = false := by
  unfold leaveTag
  split_ifs
  · rfl
  · split <;> rfl
  · rfl

theorem fits_emitText (cs : List Char) (hl : l.isInside = false) :
    (emitText cs l).Fits false := by
  unfold emitText
  split_ifs
  · exact .skip rfl hl
  · exact .emit rfl hl

theorem fits_openTag (c : Cursor) (kind : TagKind) : (openTag d w c kind).Fits false := by
  unfold openTag
  match kind with
  | .variable => exact .emit rfl rfl
  | .comment =>
    dsimp only
    split
    · exact .fail rfl
    · exact .skip rfl (isInside_leaveTag _ _ _)
  | .block =>
    dsimp only
    split
    · exact .emit rfl rfl
    · split
      · exact .fail rfl
      · exact .emit rfl (isInside_leaveTag _ _ _)

theorem fits_stepText (l : Lexer) : (stepText d w l).Fits false := by
  unfold stepText
  dsimp only
  split
  · exact fits_emitText _ rfl
  · exact fits_openTag _ _
  · exact fits_emitText _ rfl

theorem wordToken_facts (s : String) :
    (wordToken s).isInner = true ∧ (wordToken s).leadsInside = true := by
  unfold wordToken
  split <;> exact ⟨rfl, rfl⟩

/-- What the reader of numbers gives: a number, or a fault that names no token. -/
theorem number_facts (cs : List Char) :
    (∀ n t, number cs = (n, .ok t) → t.isInner = true ∧ t.leadsInside = true) ∧
      ∀ n f, number cs = (n, .error f) → f.found? = none := by
  unfold number
  dsimp only
  refine ⟨fun n t h => ?_, fun n f h => ?_⟩
  all_goals
    split_ifs at h <;> split at h <;> cases h
    all_goals first | exact rfl | exact ⟨rfl, rfl⟩

theorem fits_innerToken (isBlock : Bool) (depth : Nat) (c : Cursor) :
    (innerToken isBlock depth c).Fits true := by
  unfold innerToken
  dsimp only
  split
  · exact .finish
  split_ifs with hdigit hquote hword
  · split
    · next h => exact .emit ((number_facts _).1 _ _ h).1 ((number_facts _).1 _ _ h).2.symm
    · next h => exact .fail ((number_facts _).2 _ _ h)
  all_goals
    split
    · exact .emit rfl rfl
    split
    · exact .emit rfl rfl
  · split
    · exact .emit rfl rfl
    · exact .fail rfl
  · exact .emit (wordToken_facts _).1 (wordToken_facts _).2.symm
  · exact .fail rfl

theorem fits_stepTag (isBlock : Bool) (depth : Nat) (c : Cursor) :
    (stepTag d w isBlock depth c).Fits true := by
  unfold stepTag
  dsimp only
  by_cases hempty : (c.advanceTo (Text.trimStart c.rest)).rest.isEmpty
  · rw [if_pos hempty]
    exact .fail rfl
  rw [if_neg hempty]
  split
  · cases isBlock <;> exact .emit rfl (isInside_leaveTag _ _ _)
  · exact fits_innerToken _ _ _

/-- **Which tokens a step can give is told by where the lexer is, and each token tells where it
is next.** -/
theorem fits_step (l : Lexer) : (l.step d w).Fits l.isInside := by
  obtain ⟨c, mode, strip⟩ := l
  cases mode with
  | text =>
    rw [step]
    split_ifs
    · exact .finish
    · exact fits_stepText _
  | tag isBlock depth => exact fits_stepTag _ _ _

/-- The tokens of a scan stand in order. -/
theorem ordered_run (n before : Nat) (l : Lexer) :
    Token.Ordered l.isInside ((run d w n before l).lexemes.map (·.token)) := by
  induction n generalizing before l with
  | zero => trivial
  | succ n ih =>
    have hfits : (l.step d w).Fits l.isInside := fits_step l
    rw [run]
    generalize l.step d w = s at hfits
    cases hfits with
    | emit ht hnext => exact ⟨ht, hnext ▸ ih _ _⟩
    | skip hinside hnext =>
      rw [hinside, ← hnext]
      exact ih _ _
    | fail | finish => trivial

theorem found?_of_run {n before : Nat} {e : SyntaxError}
    (h : e ∈ (run d w n before l).error?) : e.fault.found? = none := by
  induction n generalizing l before with
  | zero => cases h
  | succ n ih =>
    have hfits : (l.step d w).Fits l.isInside := fits_step l
    rw [run] at h
    generalize l.step d w = s at hfits h
    cases hfits with
    | emit => exact ih h
    | skip => exact ih h
    | fail hfault =>
      obtain rfl := Option.some.inj h
      exact hfault
    | finish => cases h

/-! ### Where a token is asked for -/

/-- What the lexer reads from one state to another. -/
inductive Reads (d : Delimiters) (w : Whitespace) : Lexer → List Token → Lexer → Prop
  | refl (l : Lexer) : Reads d w l [] l
  | skip {l next l' : Lexer} {ts : List Token} (h : l.step d w = .skip next)
    (hnext : Reads d w next ts l') : Reads d w l ts l'
  | emit {l next l' : Lexer} {t : Token} {ts : List Token} (h : l.step d w = .emit t next)
    (hnext : Reads d w next ts l') : Reads d w l (t :: ts) l'

theorem Reads.reaches {ts : List Token} (h : Reads d w l ts l') :
    l.cursor.Reaches l'.cursor := by
  induction h with
  | refl l => exact .refl _
  | skip h _ ih | emit h _ ih => exact (step_reaches _ _ (by rw [h]; rfl)).trans ih

/-- **A token of a tag is asked for on the line that is kept for it,** and the step from there
gives it. -/
theorem asked_of_run {n before i : Nat} {x : Lexeme}
    (hbefore : l.isInside = true → before = l.cursor.line)
    (hx : (run d w n before l).lexemes[i]? = some x) (hinner : x.token.isInner = true) :
    ∃ ts l' next, ts.length = i ∧ Reads d w l ts l' ∧ l'.step d w = .emit x.token next ∧
      l'.isInside = true ∧ x.lineBefore = l'.cursor.line := by
  induction n generalizing before l i with
  | zero => cases hx
  | succ n ih =>
    have hfits : (l.step d w).Fits l.isInside := fits_step l
    rw [run] at hx
    cases hstep : l.step d w with
    | finish =>
      rw [hstep] at hx
      cases hx
    | fail e =>
      rw [hstep] at hx
      cases hx
    | skip next =>
      rw [hstep] at hx hfits
      cases hfits with
      | skip _ hnext =>
        obtain ⟨ts, l', after, hi, hreads, h⟩ :=
          ih (fun h => absurd (hnext.symm.trans h) Bool.false_ne_true) hx
        exact ⟨ts, l', after, hi, .skip hstep hreads, h⟩
    | emit t next =>
      rw [hstep] at hx hfits
      cases i with
      | zero =>
        obtain rfl := Option.some.inj hx
        cases hfits with
        | emit ht =>
          have hinside : l.isInside = true := ht.symm.trans hinner
          exact ⟨[], l, next, rfl, .refl l, hstep, hinside, hbefore hinside⟩
      | succ i =>
        obtain ⟨ts, l', after, hi, hreads, h⟩ := ih (fun _ => rfl) hx
        exact ⟨t :: ts, l', after, congrArg (· + 1) hi, .emit hstep hreads, h⟩

/-- The `n`-th token of a source, counted from one, when it stands inside a tag: the lexer asks
for it behind `before`, passes over the blanks `gap`, and the token begins where `rest` does. -/
structure TagToken (d : Delimiters) (w : Whitespace) (source : List Char) (n : Nat) (t : Token)
    (before gap rest : List Char) : Prop where
  source_eq : source = before ++ gap ++ rest
  blanks : ∀ c ∈ gap, Text.isBlank c = true
  begins : ∀ c ∈ rest.head?, Text.isBlank c = false
  asked : ∃ ts l next, ts.length + 1 = n ∧ Reads d w { cursor := { rest := source } } ts l ∧
    l.cursor.rest = gap ++ rest ∧ l.isInside = true ∧ l.step d w = .emit t next

/-- **The line kept for a token of a tag is the one on which the blanks in front of it begin.** -/
theorem tagToken_of_scan {source : List Char} {i : Nat} {x : Lexeme}
    (hx : (scan d w source).lexemes[i]? = some x) (hinner : x.token.isInner = true) :
    ∃ before gap rest, TagToken d w source (i + 1) x.token before gap rest ∧
      x.lineBefore = lineAfter before := by
  obtain ⟨ts, l, next, hi, hreads, hstep, hinside, hline⟩ := asked_of_run (l := ⟨⟨source, 1, true⟩,
    .text, false⟩) nofun hx hinner
  obtain ⟨k, hk⟩ := hreads.reaches
  have hrest : l.cursor.rest = source.drop k := by rw [hk, Cursor.rest_advance]
  refine ⟨source.take k, l.cursor.rest.takeWhile Text.isBlank,
    l.cursor.rest.dropWhile Text.isBlank, ⟨?_, fun c hc => List.mem_takeWhile_imp hc, ?_, ?_⟩, ?_⟩
  · rw [List.append_assoc, List.takeWhile_append_dropWhile, hrest, List.take_append_drop]
  · intro c hc
    have hhead := List.head?_dropWhile_not Text.isBlank l.cursor.rest
    rw [hc] at hhead
    simpa using hhead
  · refine ⟨ts, l, next, congrArg (· + 1) hi, hreads, ?_, hinside, hstep⟩
    rw [List.takeWhile_append_dropWhile]
  · rw [hline, hk, Cursor.line_advance]
    rfl

end Lexer
end MailMerge
