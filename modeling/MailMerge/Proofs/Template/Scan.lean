/-
# Scanning to the end

With markers that are not empty every step of the lexer consumes characters, so a scan
with more steps than characters goes to the end, and how many steps more makes no
difference (`Lexer.run_eq_toEnd`).  From then on a scan is followed step by step without
counting (`Lexer.toEnd_eq`).
-/

import MailMerge.Template.Lexer
import Mathlib.Data.List.Basic

namespace MailMerge

/-! ### Places -/

namespace Cursor

theorem rest_advance (n : Nat) (c : Cursor) : (c.advance n).rest = c.rest.drop n := by
  induction n generalizing c with
  | zero => rfl
  | succ n ih =>
    obtain ⟨rest, line, start⟩ := c
    cases rest with
    | nil => rfl
    | cons ch rest => exact ih _

theorem advance_advance (m n : Nat) (c : Cursor) : (c.advance m).advance n = c.advance (m + n) := by
  induction m generalizing c with
  | zero => rw [Nat.zero_add]; rfl
  | succ m ih =>
    obtain ⟨rest, line, start⟩ := c
    rw [Nat.succ_add]
    cases rest with
    | nil => cases n <;> rfl
    | cons ch rest => exact ih _

theorem length_advance (n : Nat) (c : Cursor) :
    (c.advance n).rest.length = c.rest.length - n := by
  rw [rest_advance, List.length_drop]

theorem length_advance_le (n : Nat) (c : Cursor) : (c.advance n).rest.length ≤ c.rest.length := by
  rw [length_advance]
  exact Nat.sub_le _ _

theorem length_advanceTo_le (rest : List Char) (c : Cursor) :
    (c.advanceTo rest).rest.length ≤ c.rest.length := length_advance_le _ c

/-- An end of what is left is reached as such. -/
theorem rest_advanceTo {rest : List Char} {c : Cursor} (h : rest <:+ c.rest) :
    (c.advanceTo rest).rest = rest := by
  rw [advanceTo, rest_advance, ← List.suffix_iff_eq_drop.1 h]

end Cursor

/-! ### Readers leave an end of the text -/

namespace Text

theorem dropLead?_eq_some {lead cs rest : List Char} :
    dropLead? lead cs = some rest ↔ cs = lead ++ rest := by
  induction lead generalizing cs with
  | nil => simp [dropLead?, eq_comm]
  | cons p lead ih =>
    cases cs with
    | nil => simp [dropLead?]
    | cons c cs =>
      rw [dropLead?]
      split_ifs with h
      · rw [ih, h, List.cons_append, List.cons.injEq]
        simp
      · simp [eq_comm, h]

theorem dropLead?_suffix {lead cs rest : List Char} (h : dropLead? lead cs = some rest) :
    rest <:+ cs := ⟨lead, (dropLead?_eq_some.1 h).symm⟩

theorem trimStart_suffix (cs : List Char) : trimStart cs <:+ cs := List.dropWhile_suffix _

theorem isIdentChar_of_isIdentStart {c : Char} (h : isIdentStart c = true) :
    isIdentChar c = true := by
  simp only [isIdentStart, isLetter, Bool.or_eq_true] at h
  simp only [isIdentChar, isAlphanumeric, Bool.or_eq_true]
  refine h.imp_left fun h => ?_
  split_ifs at h ⊢
  · simp [Char.isAlphanum, h]
  · rw [h, Bool.true_or]

end Text

namespace Delimiters

/-- All six markers. -/
def markers (d : Delimiters) : List String :=
  [d.blockStart, d.blockEnd, d.variableStart, d.variableEnd, d.commentStart, d.commentEnd]

/-- Markers of which none is empty. -/
def Present (d : Delimiters) : Prop := ∀ m ∈ d.markers, m.toList ≠ []

instance (d : Delimiters) : Decidable d.Present :=
  inferInstanceAs (Decidable (∀ m ∈ d.markers, m.toList ≠ []))

/-- Markers that stand out: none is empty, and none holds a blank. -/
def Visible (d : Delimiters) : Prop :=
  ∀ m ∈ d.markers, m.toList ≠ [] ∧ ∀ c ∈ m.toList, Text.isBlank c = false

instance (d : Delimiters) : Decidable d.Visible :=
  decidable_of_iff (∀ m ∈ d.markers, m.toList ≠ [] ∧ m.toList.all (fun c => !Text.isBlank c))
    (by simp [Visible])

theorem visible_default : ({} : Delimiters).Visible := by decide

variable {d : Delimiters}

theorem Visible.present (hd : d.Visible) : d.Present := fun m hm => (hd m hm).1

theorem exists_marker_start (d : Delimiters) (kind : TagKind) :
    ∃ s ∈ d.markers, d.start kind = s.toList := by
  cases kind <;> exact ⟨_, by simp [markers], rfl⟩

/-- A marker that starts a tag begins with a character that is no blank. -/
theorem Visible.start (hd : d.Visible) (kind : TagKind) :
    ∃ m ms, d.start kind = m :: ms ∧ Text.isBlank m = false := by
  obtain ⟨s, hs, hstart⟩ := d.exists_marker_start kind
  obtain ⟨hne, hink⟩ := hd s hs
  obtain ⟨m, ms, hm⟩ := List.exists_cons_of_ne_nil hne
  exact ⟨m, ms, hstart.trans hm, hink m (hm ▸ List.mem_cons_self)⟩

theorem Present.start_pos (hd : d.Present) (kind : TagKind) : 0 < (d.start kind).length := by
  obtain ⟨s, hs, hstart⟩ := d.exists_marker_start kind
  rw [hstart]
  exact List.length_pos_iff.2 (hd s hs)

theorem Present.end_pos (hd : d.Present) (isBlock : Bool) :
    0 < (if isBlock then d.blockEnd.toList else d.variableEnd.toList).length := by
  refine List.length_pos_iff.2 ?_
  cases isBlock
  · exact hd d.variableEnd (by simp [markers])
  · exact hd d.blockEnd (by simp [markers])

theorem wordTag?_suffix {word : String} {cs rest : List Char} {strips : Bool}
    (h : d.wordTag? word cs = some (strips, rest)) :
    ∃ inner, cs = d.blockStart.toList ++ inner ∧ rest <:+ inner := by
  obtain ⟨inner, hinner, h⟩ := Option.bind_eq_some_iff.1 h
  obtain ⟨after, hafter, h⟩ := Option.bind_eq_some_iff.1 h
  obtain ⟨last, hlast, h⟩ := Option.bind_eq_some_iff.1 h
  obtain ⟨-, rfl⟩ := Prod.mk.inj (Option.some.inj h)
  have hword : after <:+ inner := by
    refine (Text.dropLead?_suffix hafter).trans ((Text.trimStart_suffix _).trans ?_)
    split <;> simp
  have hend : last <:+ Text.trimStart after := by
    refine (Text.dropLead?_suffix hlast).trans ?_
    split
    · next h =>
      rw [h]
      exact List.suffix_cons _ _
    · exact List.suffix_rfl
  exact ⟨inner, Text.dropLead?_eq_some.1 hinner, hend.trans ((Text.trimStart_suffix _).trans hword)⟩

theorem findEndRaw_suffix {n : Nat} {cs body rest : List Char} {strips : Bool}
    (h : d.findEndRaw n cs = some (body, strips, rest)) : rest <:+ cs := by
  induction cs generalizing n body with
  | nil => cases h
  | cons c cs ih =>
    -- wherever the search goes on, it goes on behind this character
    have hstep : ∀ {m}, ((d.findEndRaw m cs).map fun p => (c :: p.1, p.2)) =
        some (body, strips, rest) → rest <:+ c :: cs := by
      intro m h
      obtain ⟨⟨b, r⟩, hr, hp⟩ := Option.map_eq_some_iff.1 h
      obtain ⟨-, rfl⟩ := Prod.mk.inj hp
      exact (ih hr).trans (List.suffix_cons _ _)
    cases n with
    | succ n => exact hstep h
    | zero =>
      rw [findEndRaw] at h
      split at h
      · split at h
        · next r hr =>
          obtain ⟨-, rfl⟩ := Prod.mk.inj (Option.some.inj h)
          obtain ⟨inner, hinner, hsuffix⟩ := wordTag?_suffix hr
          exact hsuffix.trans ⟨_, hinner.symm⟩
        · exact hstep h
      · exact hstep h

end Delimiters

namespace Lexer

variable {d : Delimiters} {w : Whitespace} {l l' : Lexer} {c : Cursor}

/-! ### Every step consumes characters -/

/-- Where a step leads, unless it ends the scan. -/
def Step.next? : Step → Option Lexer
  | .emit _ next => some next
  | .skip next => some next
  | .fail _ => none
  | .finish => none

/-- A step that leads behind a place: less is left than there. -/
def Step.Consumes (c : Cursor) (s : Step) : Prop :=
  ∀ l ∈ s.next?, l.cursor.rest.length < c.rest.length

theorem Step.Consumes.mono {c' : Cursor} {s : Step} (h : s.Consumes c')
    (hle : c'.rest.length ≤ c.rest.length) : s.Consumes c :=
  fun l hl => Nat.lt_of_lt_of_le (h l hl) hle

theorem length_leaveTag_le (strips trims : Bool) (c : Cursor) :
    (leaveTag w strips trims c).cursor.rest.length ≤ c.rest.length := by
  unfold leaveTag
  split_ifs
  · exact Nat.le_refl _
  · split
    · exact Cursor.length_advance_le 1 c
    · exact Cursor.length_advance_le 2 c
    · exact Nat.le_refl _
  · exact Nat.le_refl _

theorem length_passModifier_le (c : Cursor) : (passModifier c).rest.length ≤ c.rest.length := by
  unfold passModifier
  split
  · exact Cursor.length_advance_le 1 c
  · exact Cursor.length_advance_le 1 c
  · exact Nat.le_refl _

theorem length_advance_lt {n : Nat} (hn : 0 < n) (hc : c.rest ≠ []) :
    (c.advance n).rest.length < c.rest.length := by
  rw [Cursor.length_advance]
  exact Nat.sub_lt (List.length_pos_iff.2 hc) hn

theorem openTag_consumes (hd : d.Present) (hc : c.rest ≠ []) (kind : TagKind) :
    (openTag d w c kind).Consumes c := by
  have hinner := length_advance_lt (hd.start_pos kind) hc
  unfold openTag
  intro l hl
  match kind with
  | .variable =>
    obtain rfl := Option.some.inj hl
    exact Nat.lt_of_le_of_lt (length_passModifier_le _) hinner
  | .comment =>
    dsimp only at hl
    split at hl
    · cases hl
    · obtain rfl := Option.some.inj hl
      exact Nat.lt_of_le_of_lt (length_leaveTag_le _ _ _)
        (Nat.lt_of_le_of_lt (Cursor.length_advanceTo_le _ _) hinner)
  | .block =>
    dsimp only at hl
    split at hl
    · obtain rfl := Option.some.inj hl
      exact Nat.lt_of_le_of_lt (length_passModifier_le _) hinner
    · next rest hword =>
      split at hl
      · cases hl
      · next body strips after hraw =>
        obtain rfl := Option.some.inj hl
        -- what follows the block lies behind its first tag, which starts with the marker
        obtain ⟨inner, hrest, hsuffix⟩ := Delimiters.wordTag?_suffix hword
        have hafter := (Delimiters.findEndRaw_suffix hraw).trans hsuffix
        have hpos := hd.start_pos .block
        refine Nat.lt_of_le_of_lt (length_leaveTag_le _ _ _) ?_
        rw [Cursor.rest_advanceTo (hafter.trans ⟨_, hrest.symm⟩), hrest, List.length_append]
        exact Nat.lt_of_le_of_lt hafter.length_le (Nat.lt_add_of_pos_left hpos)

theorem number_pos {ch : Char} (cs : List Char) (h : ch.isDigit = true) :
    0 < (number (ch :: cs)).1 := by
  have hwhole : 0 < (digits (ch :: cs)).length := by
    rw [digits, List.takeWhile_cons_of_pos (by simp [isDigitMark, h])]
    exact Nat.succ_pos _
  unfold number
  dsimp only
  split_ifs <;> split <;> dsimp only <;> omega

theorem sign?_pos {cs : List Char} {s : Sign} {n : Nat} (h : sign? cs = some (s, n)) : 0 < n := by
  unfold sign? at h
  split at h <;> first
    | (cases h; done)
    | (obtain ⟨-, rfl⟩ := Prod.mk.inj (Option.some.inj h); decide)

theorem string?_suffix {quote : Char} {cs text rest : List Char}
    (h : string? quote cs = some (text, rest)) : rest <:+ cs := by
  induction cs using string?.induct quote generalizing text with
  | case1 => cases h
  | case2 => cases h
  | case3 c cs u hu ih =>
    rw [string?, hu] at h
    obtain ⟨⟨t, r⟩, hr, hp⟩ := Option.map_eq_some_iff.1 h
    obtain ⟨-, rfl⟩ := Prod.mk.inj hp
    exact (ih hr).trans ((List.suffix_cons _ _).trans (List.suffix_cons _ _))
  | case4 c cs hu ih =>
    rw [string?, hu] at h
    obtain ⟨⟨t, r⟩, hr, hp⟩ := Option.map_eq_some_iff.1 h
    obtain ⟨-, rfl⟩ := Prod.mk.inj hp
    exact (ih hr).trans ((List.suffix_cons _ _).trans (List.suffix_cons _ _))
  | case5 cs h₁ h₂ =>
    rw [string?.eq_4 _ _ _ h₁ h₂, if_pos rfl] at h
    obtain ⟨-, rfl⟩ := Prod.mk.inj (Option.some.inj h)
    exact List.suffix_cons _ _
  | case6 c cs h₁ h₂ hne ih =>
    rw [string?.eq_4 _ _ _ h₁ h₂, if_neg hne] at h
    obtain ⟨⟨t, r⟩, hr, hp⟩ := Option.map_eq_some_iff.1 h
    obtain ⟨-, rfl⟩ := Prod.mk.inj hp
    exact (ih hr).trans (List.suffix_cons _ _)

theorem innerToken_consumes (isBlock : Bool) (depth : Nat) (c : Cursor) :
    (innerToken isBlock depth c).Consumes c := by
  unfold innerToken
  dsimp only
  split
  · rintro l ⟨⟩
  next ch cs hcs =>
  have hc : c.rest ≠ [] := hcs ▸ List.cons_ne_nil _ _
  split_ifs with hdigit hquote hword
  · have hpos := number_pos cs hdigit
    split
    · next length token hn =>
      rintro l ⟨⟩
      exact length_advance_lt (by simpa [hn] using hpos) hc
    · rintro l ⟨⟩
  all_goals
    split
    · next s n hs =>
      rintro l ⟨⟩
      exact length_advance_lt (sign?_pos hs) hc
    split
    · rintro l ⟨⟩
      exact length_advance_lt Nat.one_pos hc
  · split
    · next text rest hstring =>
      rintro l ⟨⟩
      have hsuffix := string?_suffix hstring
      rw [Cursor.rest_advanceTo (hcs ▸ hsuffix.trans (List.suffix_cons _ _)), hcs]
      exact Nat.lt_succ_of_le hsuffix.length_le
    · rintro l ⟨⟩
  · rintro l ⟨⟩
    refine length_advance_lt ?_ hc
    rw [List.takeWhile_cons_of_pos (Text.isIdentChar_of_isIdentStart hword)]
    exact Nat.succ_pos _
  · rintro l ⟨⟩

theorem tagEnd?_pos {ending cs : List Char} {strips : Bool} {n : Nat}
    (hend : 0 < ending.length) (h : tagEnd? ending cs = some (strips, n)) : 0 < n := by
  unfold tagEnd? at h
  split at h
  · split_ifs at h <;> obtain ⟨-, rfl⟩ := Prod.mk.inj (Option.some.inj h) <;> omega
  · split_ifs at h
    obtain ⟨-, rfl⟩ := Prod.mk.inj (Option.some.inj h)
    exact hend

theorem stepTag_consumes (hd : d.Present) (isBlock : Bool) (depth : Nat) (c : Cursor) :
    (stepTag d w isBlock depth c).Consumes c := by
  unfold stepTag
  dsimp only
  refine Step.Consumes.mono ?_ (Cursor.length_advanceTo_le (Text.trimStart c.rest) c)
  generalize c.advanceTo (Text.trimStart c.rest) = c
  by_cases hempty : c.rest.isEmpty
  · rw [if_pos hempty]
    rintro l ⟨⟩
  rw [if_neg hempty]
  split
  · next strips n hend =>
    by_cases hdepth : depth = 0
    · rw [if_pos hdepth] at hend
      rintro l ⟨⟩
      exact Nat.lt_of_le_of_lt (length_leaveTag_le _ _ _) (length_advance_lt
        (tagEnd?_pos (hd.end_pos isBlock) hend) (by simpa using hempty))
    · rw [if_neg hdepth] at hend
      cases hend
  · exact innerToken_consumes isBlock depth c

theorem emitText_consumes {cs : List Char} {next : Lexer}
    (h : next.cursor.rest.length < c.rest.length) : (emitText cs next).Consumes c := by
  unfold emitText
  split_ifs <;> rintro l ⟨⟩ <;> exact h

theorem stepText_consumes (hd : d.Present) (hl : l.cursor.rest ≠ []) :
    (stepText d w l).Consumes l.cursor := by
  unfold stepText
  dsimp only
  split
  · exact emitText_consumes (length_advance_lt (List.length_pos_iff.2 hl) hl)
  · exact openTag_consumes hd hl _
  · exact emitText_consumes (length_advance_lt (Nat.succ_pos _) hl)

/-- **A step that does not end the scan consumes characters.** -/
theorem step_consumes (hd : d.Present) (l : Lexer) : (l.step d w).Consumes l.cursor := by
  unfold step
  split
  · split_ifs with hempty
    · rintro l ⟨⟩
    · exact stepText_consumes hd (by simpa using hempty)
  · exact stepTag_consumes hd _ _ _

/-! ### The whole scan -/

/-- A scan with more steps than characters does not run out of steps. -/
theorem run_congr (hd : d.Visible) {n m before : Nat} (hn : l.cursor.rest.length < n)
    (hm : l.cursor.rest.length < m) : run d w n before l = run d w m before l := by
  induction n generalizing m before l with
  | zero => omega
  | succ n ih =>
    obtain ⟨m, rfl⟩ := Nat.exists_eq_add_one.2 (Nat.zero_lt_of_lt hm)
    have hconsumes := step_consumes (w := w) hd.present l
    rw [run, run]
    cases hstep : l.step d w with
    | finish => rfl
    | fail e => rfl
    | skip next =>
      have hless := hconsumes next (by rw [hstep]; rfl)
      exact ih (by omega) (by omega)
    | emit token next =>
      have hless := hconsumes next (by rw [hstep]; rfl)
      dsimp only
      rw [ih (m := m) (by omega) (by omega)]

/-- The scan of all that is left. -/
def toEnd (d : Delimiters) (w : Whitespace) (before : Nat) (l : Lexer) : Scan :=
  run d w (l.cursor.rest.length + 1) before l

/-- **A scan with more steps than characters goes to the end.** -/
theorem run_eq_toEnd (hd : d.Visible) {n before : Nat} (hn : l.cursor.rest.length < n) :
    run d w n before l = toEnd d w before l := run_congr hd hn (Nat.lt_succ_self _)

theorem scan_eq_toEnd (hd : d.Visible) (source : List Char) :
    scan d w source = toEnd d w 1 { cursor := { rest := source } } :=
  run_eq_toEnd hd (show source.length < 2 * (source.length + 1) by omega)

/-- The scan that a step begins. -/
def Step.toEnd (d : Delimiters) (w : Whitespace) (before : Nat) : Step → Scan
  | .finish => ⟨[], none⟩
  | .fail e => ⟨[], some e⟩
  | .skip next => Lexer.toEnd d w before next
  | .emit token next =>
    let rest := Lexer.toEnd d w next.cursor.line next
    ⟨⟨token, before, next.cursor.line⟩ :: rest.lexemes, rest.error?⟩

/-- **The scan of all that is left is a step and the scan of what is left then.** -/
theorem toEnd_eq (hd : d.Visible) (before : Nat) (l : Lexer) :
    toEnd d w before l = (l.step d w).toEnd d w before := by
  have hconsumes := step_consumes (w := w) hd.present l
  rw [toEnd, run]
  cases hstep : l.step d w with
  | finish => rfl
  | fail e => rfl
  | skip next => exact run_eq_toEnd hd (hconsumes next (by rw [hstep]; rfl))
  | emit token next =>
    dsimp only [Step.toEnd]
    rw [run_eq_toEnd hd (hconsumes next (by rw [hstep]; rfl))]

end Lexer
end MailMerge
