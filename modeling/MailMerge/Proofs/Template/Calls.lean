/-
# Calls for the next token

The parser asks the lexer for one token at a time.  A call takes steps until one gives a
token, fails or is at the end (`Lexer.Call`); a scan is the chain of these calls
(`Lexer.calls_scan`), so the number of steps it is given plays no part in it.  With markers
that are not empty every call ends (`Lexer.exists_call`), and a call that gives a token leaves
the lexer at a later place of the same text (`Lexer.Call.isBehind`).  So there are no more
tokens than characters (`Lexer.Calls.length_le`).
-/

import MailMerge.Proofs.Template.Scan
import Mathlib.Data.String.Basic

namespace MailMerge

/-! ### Places of one text -/

namespace Cursor

variable {c c' c'' : Cursor}

/-- A place that is reached from another one by passing over characters. -/
def Reaches (c c' : Cursor) : Prop := ∃ n, c' = c.advance n

/-- A place behind another one in the same text. -/
def IsBehind (c' c : Cursor) : Prop := ∃ n, 0 < n ∧ n ≤ c.rest.length ∧ c' = c.advance n

namespace Reaches

theorem refl (c : Cursor) : c.Reaches c := ⟨0, rfl⟩

theorem advance (n : Nat) (c : Cursor) : c.Reaches (c.advance n) := ⟨n, rfl⟩

theorem trans (h : c.Reaches c') (h' : c'.Reaches c'') : c.Reaches c'' := by
  obtain ⟨m, rfl⟩ := h
  obtain ⟨n, rfl⟩ := h'
  exact ⟨m + n, advance_advance m n c⟩

end Reaches

theorem advance_nil (n : Nat) (h : c.rest = []) : c.advance n = c := by
  obtain ⟨rest, line, start⟩ := c
  obtain rfl : rest = [] := h
  cases n <;> rfl

/-- A place is reached by passing over the characters that are not left there. -/
theorem advance_eq_sub (n : Nat) (c : Cursor) :
    c.advance n = c.advance (c.rest.length - (c.advance n).rest.length) := by
  rw [length_advance]
  obtain hle | hle := Nat.le_total n c.rest.length
  · rw [Nat.sub_sub_self hle]
  · have hend : (c.advance c.rest.length).rest = [] := by rw [rest_advance, List.drop_length]
    rw [Nat.sub_eq_zero_of_le hle, Nat.sub_zero, ← Nat.add_sub_cancel' hle, ← advance_advance,
      advance_nil _ hend]

theorem Reaches.isBehind (h : c.Reaches c') (hlt : c'.rest.length < c.rest.length) :
    c'.IsBehind c := by
  obtain ⟨n, rfl⟩ := h
  exact ⟨_, Nat.sub_pos_of_lt hlt, Nat.sub_le _ _, advance_eq_sub n c⟩

theorem IsBehind.reaches (h : c'.IsBehind c) : c.Reaches c' := by
  obtain ⟨n, -, -, h⟩ := h
  exact ⟨n, h⟩

theorem IsBehind.length_lt (h : c'.IsBehind c) : c'.rest.length < c.rest.length := by
  obtain ⟨n, hpos, hle, rfl⟩ := h
  rw [length_advance]
  exact Nat.sub_lt (Nat.lt_of_lt_of_le hpos hle) hpos

theorem IsBehind.trans (h : c'.IsBehind c) (h' : c''.IsBehind c') : c''.IsBehind c :=
  (h.reaches.trans h'.reaches).isBehind (Nat.lt_trans h'.length_lt h.length_lt)

end Cursor

namespace Lexer

variable {d : Delimiters} {w : Whitespace} {l l' : Lexer} {c : Cursor} {s s' : Step}

/-! ### Steps stay in the text -/

/-- A step that leads to a place reached from another one. -/
def Step.Reaches (c : Cursor) (s : Step) : Prop := ∀ l ∈ s.next?, c.Reaches l.cursor

theorem Step.Reaches.behind {c' : Cursor} (h : s.Reaches c') (hc : c.Reaches c') : s.Reaches c :=
  fun l hl => hc.trans (h l hl)

theorem reaches_leaveTag (strips trims : Bool) (c : Cursor) :
    c.Reaches (leaveTag w strips trims c).cursor := by
  unfold leaveTag
  split_ifs
  · exact .refl c
  · split
    · exact .advance 1 c
    · exact .advance 2 c
    · exact .refl c
  · exact .refl c

theorem reaches_passModifier (c : Cursor) : c.Reaches (passModifier c) := by
  unfold passModifier
  split
  · exact .advance 1 c
  · exact .advance 1 c
  · exact .refl c

theorem emitText_reaches {cs : List Char} (h : c.Reaches l.cursor) : (emitText cs l).Reaches c := by
  unfold emitText
  split_ifs <;> rintro l ⟨⟩ <;> exact h

theorem openTag_reaches (c : Cursor) (kind : TagKind) : (openTag d w c kind).Reaches c := by
  have hinner := Cursor.Reaches.advance (d.start kind).length c
  unfold openTag
  intro l hl
  match kind with
  | .variable =>
    obtain rfl := Option.some.inj hl
    exact hinner.trans (reaches_passModifier _)
  | .comment =>
    dsimp only at hl
    split at hl
    · cases hl
    · obtain rfl := Option.some.inj hl
      exact hinner.trans ((Cursor.Reaches.advance _ _).trans (reaches_leaveTag _ _ _))
  | .block =>
    dsimp only at hl
    split at hl
    · obtain rfl := Option.some.inj hl
      exact hinner.trans (reaches_passModifier _)
    · split at hl
      · cases hl
      · obtain rfl := Option.some.inj hl
        exact (Cursor.Reaches.advance _ _).trans (reaches_leaveTag _ _ _)

theorem stepText_reaches (l : Lexer) : (stepText d w l).Reaches l.cursor := by
  unfold stepText
  dsimp only
  split
  · exact emitText_reaches (.advance _ _)
  · exact openTag_reaches _ _
  · exact emitText_reaches (.advance _ _)

theorem innerToken_reaches (isBlock : Bool) (depth : Nat) (c : Cursor) :
    (innerToken isBlock depth c).Reaches c := by
  unfold innerToken
  dsimp only
  split
  · rintro l ⟨⟩
  split_ifs with hdigit hquote hword
  · split
    · rintro l ⟨⟩
      exact .advance _ c
    · rintro l ⟨⟩
  all_goals
    split
    · rintro l ⟨⟩
      exact .advance _ c
    split
    · rintro l ⟨⟩
      exact .advance 1 c
  · split
    · rintro l ⟨⟩
      exact .advance _ c
    · rintro l ⟨⟩
  · rintro l ⟨⟩
    exact .advance _ c
  · rintro l ⟨⟩

theorem stepTag_reaches (isBlock : Bool) (depth : Nat) (c : Cursor) :
    (stepTag d w isBlock depth c).Reaches c := by
  unfold stepTag
  dsimp only
  have hspace : c.Reaches (c.advanceTo (Text.trimStart c.rest)) := .advance _ c
  refine Step.Reaches.behind ?_ hspace
  generalize c.advanceTo (Text.trimStart c.rest) = c
  by_cases hempty : c.rest.isEmpty
  · rw [if_pos hempty]
    rintro l ⟨⟩
  rw [if_neg hempty]
  split
  · rintro l ⟨⟩
    exact (Cursor.Reaches.advance _ _).trans (reaches_leaveTag _ _ _)
  · exact innerToken_reaches isBlock depth c

/-- **A step leads to a place of the same text.** -/
theorem step_reaches (l : Lexer) : (l.step d w).Reaches l.cursor := by
  unfold step
  split
  · split_ifs
    · rintro l ⟨⟩
    · exact stepText_reaches l
  · exact stepTag_reaches _ _ _

theorem step_isBehind (hd : d.Present) (h : l' ∈ (l.step d w).next?) :
    l'.cursor.IsBehind l.cursor := (step_reaches l l' h).isBehind (step_consumes hd l l' h)

/-! ### Calls -/

/-- A call for the next token: steps that give none are passed over, up to the step that
settles the call. -/
inductive Call (d : Delimiters) (w : Whitespace) : Lexer → Step → Prop
  | settle {l : Lexer} {s : Step} (h : l.step d w = s) (hs : ∀ next, s ≠ .skip next) :
    Call d w l s
  | skip {l next : Lexer} {s : Step} (h : l.step d w = .skip next) (hcall : Call d w next s) :
    Call d w l s

/-- How a call ends: at the end of the text, with an error, or with a token at a later place. -/
inductive Step.Settles (c : Cursor) : Step → Prop
  | finish : Settles c .finish
  | fail (e : SyntaxError) : Settles c (.fail e)
  | emit (token : Token) {next : Lexer} (h : next.cursor.IsBehind c) : Settles c (.emit token next)

/-- A call has one end only. -/
theorem Call.unique (h : Call d w l s) (h' : Call d w l s') : s = s' := by
  induction h with
  | settle hstep hs =>
    subst hstep
    cases h' with
    | settle hstep' => exact hstep'
    | skip hstep' => exact absurd hstep' (hs _)
  | skip hstep _ ih =>
    cases h' with
    | settle hstep' hs' => exact absurd (hstep'.symm.trans hstep) (hs' _)
    | skip hstep' hcall' =>
      obtain rfl := Step.skip.inj (hstep.symm.trans hstep')
      exact ih hcall'

/-- **A call that gives a token leaves the lexer at a later place.** -/
theorem Call.isBehind (hd : d.Present) {token : Token} {next : Lexer}
    (h : Call d w l (.emit token next)) : next.cursor.IsBehind l.cursor := by
  generalize hs : Step.emit token next = s at h
  induction h with
  | settle hstep _ =>
    subst hs
    exact step_isBehind hd (by rw [hstep]; rfl)
  | skip hstep _ ih => exact (step_isBehind hd (by rw [hstep]; rfl)).trans (ih hs)

/-- **Every call ends.** -/
theorem exists_call (hd : d.Present) (w : Whitespace) (l : Lexer) : ∃ s, Call d w l s := by
  induction hn : l.cursor.rest.length using Nat.strongRecOn generalizing l with
  | ind n ih =>
    subst hn
    cases hstep : l.step d w with
    | skip next =>
      have hlt := step_consumes hd l next (by rw [hstep]; rfl)
      obtain ⟨s, hs⟩ := ih _ hlt next rfl
      exact ⟨s, .skip hstep hs⟩
    | emit token next => exact ⟨_, .settle hstep nofun⟩
    | fail e => exact ⟨_, .settle hstep nofun⟩
    | finish => exact ⟨_, .settle hstep nofun⟩

theorem Call.settles (hd : d.Present) (h : Call d w l s) : s.Settles l.cursor := by
  cases hs : s with
  | finish => exact .finish
  | fail e => exact .fail e
  | emit token next => exact .emit token (Call.isBehind hd (hs ▸ h))
  | skip next =>
    -- no call ends with a step that gives nothing
    induction h with
    | settle _ hs' => exact absurd hs (hs' _)
    | skip _ _ ih => exact nomatch ih hs

/-! ### Chains of calls -/

/-- All that calls give, one after the other, with the lines on which they begin and end. -/
inductive Calls (d : Delimiters) (w : Whitespace) : Lexer → Scan → Prop
  | finish {l : Lexer} (h : Call d w l .finish) : Calls d w l ⟨[], none⟩
  | fail {l : Lexer} {e : SyntaxError} (h : Call d w l (.fail e)) : Calls d w l ⟨[], some e⟩
  | emit {l next : Lexer} {token : Token} {scan : Scan} (h : Call d w l (.emit token next))
    (hnext : Calls d w next scan) :
    Calls d w l ⟨⟨token, l.cursor.line, next.cursor.line⟩ :: scan.lexemes, scan.error?⟩

/-- Steps that were passed over belong to the call that is under way. -/
theorem calls_run (hd : d.Present) {n : Nat} (hn : l'.cursor.rest.length < n)
    (hl : ∀ s, Call d w l' s → Call d w l s) : Calls d w l (run d w n l.cursor.line l') := by
  induction n generalizing l l' with
  | zero => omega
  | succ n ih =>
    have hconsumes := step_consumes (w := w) hd l'
    rw [run]
    cases hstep : l'.step d w with
    | finish => exact .finish (hl _ (.settle hstep (by rintro _ ⟨⟩)))
    | fail e => exact .fail (hl _ (.settle hstep (by rintro _ ⟨⟩)))
    | skip next =>
      have hlt := hconsumes next (by rw [hstep]; rfl)
      exact ih (by omega) fun s hs => hl s (.skip hstep hs)
    | emit token next =>
      have hlt := hconsumes next (by rw [hstep]; rfl)
      exact .emit (hl _ (.settle hstep (by rintro _ ⟨⟩))) (ih (by omega) fun s hs => hs)

/-- **A scan is the chain of the calls from the start of the text on.** -/
theorem calls_scan (hd : d.Present) (w : Whitespace) (source : List Char) :
    Calls d w { cursor := { rest := source } } (scan d w source) :=
  calls_run (l := { cursor := { rest := source } }) hd
    (show source.length < 2 * (source.length + 1) by omega) fun _ hs => hs

/-- **There are no more tokens than characters.** -/
theorem Calls.length_le (hd : d.Present) {scan : Scan} (h : Calls d w l scan) :
    scan.lexemes.length ≤ l.cursor.rest.length := by
  induction h with
  | finish | fail => exact Nat.zero_le _
  | emit hcall _ ih => exact Nat.lt_of_le_of_lt ih (hcall.isBehind hd).length_lt

theorem length_le_utf8ByteSize (cs : List Char) : cs.length ≤ (String.ofList cs).utf8ByteSize := by
  rw [String.utf8ByteSize_ofList]
  induction cs with
  | nil => exact Nat.zero_le _
  | cons c cs ih =>
    rw [String.utf8Len_cons, List.length_cons]
    exact Nat.add_le_add ih c.utf8Size_pos

/-! ### Faults of the lexer -/

/-- A step that does not fail for lack of steps. -/
def Step.Sound (s : Step) : Prop := ∀ e, s = .fail e → e.fault ≠ .outOfSteps

theorem sound_fault (c : Cursor) {f : SyntaxFault} (hf : f ≠ .outOfSteps) :
    (fault c f).Sound := by
  rintro e ⟨⟩
  exact hf

theorem sound_emitText (cs : List Char) (l : Lexer) : (emitText cs l).Sound := by
  unfold emitText
  split_ifs <;> rintro e ⟨⟩

theorem sound_openTag (c : Cursor) (kind : TagKind) : (openTag d w c kind).Sound := by
  unfold openTag
  match kind with
  | .variable => rintro e ⟨⟩
  | .comment =>
    dsimp only
    split
    · exact sound_fault _ nofun
    · rintro e ⟨⟩
  | .block =>
    dsimp only
    split
    · rintro e ⟨⟩
    · split
      · exact sound_fault _ nofun
      · rintro e ⟨⟩

theorem sound_stepText (l : Lexer) : (stepText d w l).Sound := by
  unfold stepText
  dsimp only
  split
  · exact sound_emitText _ _
  · exact sound_openTag _ _
  · exact sound_emitText _ _

theorem number_error {cs : List Char} {n : Nat} {f : SyntaxFault}
    (h : number cs = (n, .error f)) : f ≠ .outOfSteps := by
  unfold number at h
  dsimp only at h
  split_ifs at h <;> split at h <;> cases h <;> exact nofun

theorem sound_innerToken (isBlock : Bool) (depth : Nat) (c : Cursor) :
    (innerToken isBlock depth c).Sound := by
  unfold innerToken
  dsimp only
  split
  · rintro e ⟨⟩
  split_ifs with hdigit hquote hword
  · split
    · rintro e ⟨⟩
    · next hn => exact sound_fault _ (number_error hn)
  all_goals
    split
    · rintro e ⟨⟩
    split
    · rintro e ⟨⟩
  · split
    · rintro e ⟨⟩
    · exact sound_fault _ nofun
  · rintro e ⟨⟩
  · exact sound_fault _ nofun

theorem sound_stepTag (isBlock : Bool) (depth : Nat) (c : Cursor) :
    (stepTag d w isBlock depth c).Sound := by
  unfold stepTag
  dsimp only
  by_cases hempty : (c.advanceTo (Text.trimStart c.rest)).rest.isEmpty
  · rw [if_pos hempty]
    exact sound_fault _ nofun
  · rw [if_neg hempty]
    split
    · rintro e ⟨⟩
    · exact sound_innerToken _ _ _

theorem sound_step (l : Lexer) : (l.step d w).Sound := by
  unfold step
  split
  · split_ifs
    · rintro e ⟨⟩
    · exact sound_stepText l
  · exact sound_stepTag _ _ _

theorem error_run {n before : Nat} {e : SyntaxError} (h : e ∈ (run d w n before l).error?) :
    e.fault ≠ .outOfSteps := by
  induction n generalizing l before with
  | zero => cases h
  | succ n ih =>
    rw [run] at h
    cases hstep : l.step d w with
    | finish =>
      rw [hstep] at h
      cases h
    | fail e' =>
      rw [hstep] at h
      obtain rfl := Option.some.inj h
      exact sound_step l e' hstep
    | skip next =>
      rw [hstep] at h
      exact ih h
    | emit token next =>
      rw [hstep] at h
      exact ih h

/-- **The lexer fails for what it reads,** never for lack of steps. -/
theorem error_scan {source : List Char} {e : SyntaxError} (h : e ∈ (scan d w source).error?) :
    e.fault ≠ .outOfSteps := error_run h

end Lexer
end MailMerge
