/-
# The treatment of blanks touches blanks only

Two scans of one source may differ in the line breaks they drop after tags and in the
blanks they drop before them.  Up to blanks in text they are the same scan
(`Lexer.outline_scan`): the same tokens, the same text between them once its blanks are
left out, and the same error.  Two lexers in text stand at most some blanks apart, and
since no marker holds a blank they find the same next tag.
-/

import MailMerge.Proofs.Template.Scan
import Mathlib.Data.List.TakeWhile

namespace MailMerge
namespace Text

variable {cs : List Char}

/-- `cs` without its blanks. -/
def inked (cs : List Char) : List Char := cs.filter fun c => !isBlank c

theorem inked_append (cs ds : List Char) : inked (cs ++ ds) = inked cs ++ inked ds :=
  List.filter_append ..

theorem inked_reverse (cs : List Char) : inked cs.reverse = (inked cs).reverse :=
  List.filter_reverse ..

theorem inked_of_blank (h : ∀ c ∈ cs, isBlank c = true) : inked cs = [] :=
  List.filter_eq_nil_iff.2 fun c hc => by simp [h c hc]

/-- Blanks that are dropped at the start are not missed. -/
theorem inked_dropWhile {p : Char → Bool} (hp : ∀ c, p c = true → isBlank c = true)
    (cs : List Char) : inked (cs.dropWhile p) = inked cs := by
  have hlead : inked (cs.takeWhile p) = [] :=
    inked_of_blank fun c hc => hp c (List.mem_takeWhile_imp hc)
  conv_rhs => rw [← List.takeWhile_append_dropWhile (p := p) (l := cs), inked_append, hlead]
  rfl

theorem inked_trimStart (cs : List Char) : inked (trimStart cs) = inked cs :=
  inked_dropWhile (fun _ h => h) cs

theorem inked_trimEnd (cs : List Char) : inked (trimEnd cs) = inked cs := by
  rw [trimEnd, inked_reverse, inked_dropWhile fun _ h => h, inked_reverse, List.reverse_reverse]

end Text

/-! ### Scans up to blanks -/

/-- What a scan amounts to if blanks in text do not count. -/
structure Outline where
  /-- The text before the first token that is no text, without its blanks. -/
  lead : List Char
  /-- Every token that is no text, with the text that follows it, without its blanks. -/
  marks : List (Token × List Char)
  /-- The error that cut the scan short. -/
  error? : Option SyntaxError

namespace Outline

/-- An outline behind a text. -/
def behind (cs : List Char) (o : Outline) : Outline := { o with lead := Text.inked cs ++ o.lead }

/-- An outline behind a token. -/
def cons (token : Token) (o : Outline) : Outline :=
  match token with
  | .text s => o.behind s.toList
  | token => ⟨[], (token, o.lead) :: o.marks, o.error?⟩

theorem behind_of_inked {cs : List Char} (h : Text.inked cs = []) (o : Outline) :
    o.behind cs = o := by
  rw [behind, h, List.nil_append]

theorem behind_congr {cs ds : List Char} (h : Text.inked cs = Text.inked ds) :
    behind cs = behind ds := by
  funext o
  rw [behind, behind, h]

end Outline

namespace Scan

/-- A scan without the blanks in its text: all tokens but the texts, and between them the
letters of all text there. -/
def outline (s : Scan) : Outline :=
  s.lexemes.foldr (fun l o => o.cons l.token) ⟨[], [], s.error?⟩

end Scan

namespace Lexer

variable {d : Delimiters} {w w' : Whitespace} {l l' : Lexer} {c : Cursor}

theorem outline_emit (before : Nat) (token : Token) (next : Lexer) :
    ((Step.emit token next).toEnd d w before).outline =
      ((toEnd d w next.cursor.line next).outline).cons token := rfl

theorem outline_emitText (before : Nat) (cs : List Char) (next : Lexer) :
    ∃ before', ((emitText cs next).toEnd d w before).outline =
      ((toEnd d w before' next).outline).behind cs := by
  unfold emitText
  split_ifs with hempty
  · refine ⟨before, ?_⟩
    rw [List.isEmpty_iff.1 hempty, Outline.behind_of_inked rfl]
    rfl
  · refine ⟨next.cursor.line, ?_⟩
    rw [outline_emit, Outline.cons, String.toList_ofList]

/-! ### The next tag -/

theorem startsWith_of_blank (hd : d.Visible) (kind : TagKind) {cs : List Char}
    (h : ∀ ch ∈ cs.head?, Text.isBlank ch = true) :
    Text.startsWith (d.start kind) cs = false := by
  obtain ⟨m, ms, hm, hink⟩ := hd.start kind
  rw [hm]
  cases cs with
  | nil => rfl
  | cons ch cs =>
    have hne : m ≠ ch := by
      rintro rfl
      exact absurd (h m rfl) (by simp [hink])
    rw [Text.startsWith, Text.dropLead?, if_neg hne]
    rfl

/-- No tag starts at a blank or at the end. -/
theorem tagAt_of_blank (hd : d.Visible) {cs : List Char}
    (h : ∀ ch ∈ cs.head?, Text.isBlank ch = true) : d.tagAt cs = none := by
  simp only [Delimiters.tagAt, Delimiters.longer, startsWith_of_blank hd _ h]
  rfl

theorem findTag_nil (hd : d.Visible) : d.findTag [] = none := by
  rw [Delimiters.findTag, tagAt_of_blank hd (by simp)]
  rfl

/-- **Behind blanks the next tag is the same.** -/
theorem findTag_drop_blank (hd : d.Visible) {j : Nat} {cs : List Char}
    (h : ∀ ch ∈ cs.take j, Text.isBlank ch = true) :
    d.findTag cs = (d.findTag (cs.drop j)).map fun (n, kind) => (j + n, kind) := by
  induction j generalizing cs with
  | zero => simp
  | succ j ih =>
    cases cs with
    | nil => simp [findTag_nil hd]
    | cons ch cs =>
      have hch : Text.isBlank ch = true := h ch (by simp)
      rw [Delimiters.findTag, tagAt_of_blank hd (by simpa using hch), List.drop_succ_cons,
        ih fun ch hch => h ch (by simp [hch])]
      cases d.findTag (cs.drop j) with
      | none => rfl
      | some r => simp [Nat.add_right_comm]

theorem findTag_drop {cs : List Char} {n : Nat} {kind : TagKind}
    (h : d.findTag cs = some (n, kind)) : d.findTag (cs.drop n) = some (0, kind) := by
  induction cs generalizing n with
  | nil =>
    obtain ⟨k, hk, hp⟩ := Option.map_eq_some_iff.1 h
    obtain ⟨rfl, rfl⟩ := Prod.mk.inj hp
    exact h
  | cons ch cs ih =>
    cases n with
    | zero => exact h
    | succ n =>
      rw [Delimiters.findTag] at h
      split at h
      · cases h
      · obtain ⟨⟨m, k⟩, hm, hp⟩ := Option.map_eq_some_iff.1 h
        obtain ⟨hmn, rfl⟩ := Prod.mk.inj hp
        obtain rfl := Nat.succ.inj hmn
        exact ih hm

/-! ### Text up to the next tag -/

/-- A lexer in text, at most some blanks behind a place. -/
def Resumes (c : Cursor) (l : Lexer) : Prop :=
  l.mode = .text ∧ ∃ j, l.cursor = c.advance j ∧ ∀ ch ∈ c.rest.take j, Text.isBlank ch = true

theorem resumes_self (c : Cursor) (strip : Bool) :
    Resumes c { cursor := c, strip := strip } := ⟨rfl, 0, rfl, by simp⟩

theorem leaveTag_resumes (strips trims : Bool) (c : Cursor) :
    Resumes c (leaveTag w strips trims c) := by
  unfold leaveTag
  split_ifs
  · exact resumes_self c true
  · split
    · next cs hcs => exact ⟨rfl, 1, rfl, by rw [hcs]; simp; rfl⟩
    · next cs hcs => exact ⟨rfl, 2, rfl, by rw [hcs]; simp; decide⟩
    · exact resumes_self c false
  · exact resumes_self c false

theorem inked_dropIndent (lineStart : Bool) (cs : List Char) :
    Text.inked (dropIndent lineStart cs) = Text.inked cs := by
  have hindent : ∀ ch, (ch == ' ' || ch == '\t') = true → Text.isBlank ch = true := by
    intro ch h
    rw [Bool.or_eq_true, beq_iff_eq, beq_iff_eq] at h
    rcases h with rfl | rfl <;> rfl
  have hbefore : Text.inked (cs.reverse.dropWhile fun ch => ch == ' ' || ch == '\t').reverse =
      Text.inked cs := by
    rw [Text.inked_reverse, Text.inked_dropWhile hindent, Text.inked_reverse, List.reverse_reverse]
  unfold dropIndent
  dsimp only
  split
  · next h =>
    rw [h] at hbefore
    split_ifs
    · exact hbefore
    · rfl
  · split_ifs
    · exact hbefore
    · rfl

/-- What the lexer leaves of a text has lost blanks at most. -/
theorem stepText_last (hl : d.findTag l.cursor.rest = none) :
    ∃ text, Text.inked text = Text.inked l.cursor.rest ∧ stepText d w l =
      emitText text { cursor := l.cursor.advance l.cursor.rest.length } := by
  rw [stepText, hl]
  refine ⟨_, ?_, rfl⟩
  split_ifs
  · exact Text.inked_trimStart _
  · rfl

theorem stepText_before {n : Nat} {kind : TagKind}
    (hl : d.findTag l.cursor.rest = some (n + 1, kind)) :
    ∃ text, Text.inked text = Text.inked (l.cursor.rest.take (n + 1)) ∧ stepText d w l =
      emitText text { cursor := l.cursor.advance (n + 1) } := by
  rw [stepText, hl]
  refine ⟨_, ?_, rfl⟩
  have hstripped : Text.inked (if l.strip then Text.trimStart (l.cursor.rest.take (n + 1))
      else l.cursor.rest.take (n + 1)) = Text.inked (l.cursor.rest.take (n + 1)) := by
    split_ifs
    · exact Text.inked_trimStart _
    · rfl
  rw [← hstripped]
  split
  · exact Text.inked_trimEnd _
  · rfl
  · split
    · exact inked_dropIndent _ _
    · rfl

/-- A lexer in text that has a tag ahead goes on with a step in text. -/
theorem toEnd_text (hd : d.Visible) {r : Nat × TagKind} {strip : Bool}
    (hc : d.findTag c.rest = some r) (before : Nat) :
    toEnd d w before { cursor := c, strip := strip } =
      (stepText d w { cursor := c, strip := strip }).toEnd d w before := by
  have hempty : c.rest.isEmpty = false := by
    cases hr : c.rest with
    | nil =>
      rw [hr, findTag_nil hd] at hc
      cases hc
    | cons => rfl
  rw [toEnd_eq hd, step]
  dsimp only
  rw [hempty, if_neg Bool.false_ne_true]

/-- **A text without another tag** goes to the end. -/
theorem outline_text_last (hd : d.Visible) (h : Resumes c l) (hc : d.findTag c.rest = none)
    (before : Nat) : (toEnd d w before l).outline = ⟨Text.inked c.rest, [], none⟩ := by
  obtain ⟨hmode, j, hj, hblank⟩ := h
  have hrest : l.cursor.rest = c.rest.drop j := by rw [hj, Cursor.rest_advance]
  have hinked : Text.inked l.cursor.rest = Text.inked c.rest := by
    conv_rhs => rw [← List.take_append_drop j c.rest, Text.inked_append,
      Text.inked_of_blank hblank]
    rw [hrest, List.nil_append]
  rw [findTag_drop_blank hd hblank, ← hrest] at hc
  obtain ⟨text, htext, hstep⟩ := stepText_last (w := w) (Option.map_eq_none_iff.1 hc)
  rw [toEnd_eq hd, step, hmode]
  dsimp only
  split_ifs with hempty
  · rw [← hinked, List.isEmpty_iff.1 hempty]
    rfl
  · obtain ⟨before', hemit⟩ := outline_emitText (d := d) (w := w) before text
      { cursor := l.cursor.advance l.cursor.rest.length }
    have hend : (l.cursor.advance l.cursor.rest.length).rest.isEmpty = true := by
      rw [Cursor.rest_advance, List.drop_length]
      rfl
    rw [hstep, hemit, toEnd_eq hd, step]
    dsimp only
    rw [if_pos hend, ← hinked, ← htext]
    change Outline.mk (Text.inked text ++ []) [] none = _
    rw [List.append_nil]

/-- **A text up to the next tag,** which is then entered. -/
theorem outline_text_tag (hd : d.Visible) (h : Resumes c l) {n : Nat} {kind : TagKind}
    (hc : d.findTag c.rest = some (n, kind)) (before : Nat) :
    (c.advance n).rest.length ≤ l.cursor.rest.length ∧ ∃ before',
    (toEnd d w before l).outline =
      ((openTag d w (c.advance n) kind).toEnd d w before').outline.behind (c.rest.take n) := by
  obtain ⟨hmode, j, hj, hblank⟩ := h
  have hrest : l.cursor.rest = c.rest.drop j := by rw [hj, Cursor.rest_advance]
  rw [findTag_drop_blank hd hblank, ← hrest] at hc
  obtain ⟨⟨m, k⟩, hm, hp⟩ := Option.map_eq_some_iff.1 hc
  obtain ⟨rfl, rfl⟩ := Prod.mk.inj hp
  have hplace : c.advance (j + m) = l.cursor.advance m := by rw [hj, Cursor.advance_advance]
  have hinked : Text.inked (c.rest.take (j + m)) = Text.inked (l.cursor.rest.take m) := by
    rw [List.take_add, Text.inked_append, Text.inked_of_blank hblank, hrest, List.nil_append]
  rw [hplace]
  refine ⟨Cursor.length_advance_le _ _, ?_⟩
  rw [Outline.behind_congr hinked]
  obtain ⟨cursor, mode, strip⟩ := l
  subst hmode
  cases m with
  | zero =>
    refine ⟨before, ?_⟩
    rw [toEnd_text hd hm, stepText, hm, List.take_zero, Outline.behind_of_inked rfl]
    rfl
  | succ m =>
    obtain ⟨text, htext, hstep⟩ := stepText_before (w := w) hm
    obtain ⟨before', hemit⟩ := outline_emitText (d := d) (w := w) before text
      { cursor := cursor.advance (m + 1) }
    have hnext : d.findTag (cursor.advance (m + 1)).rest = some (0, k) := by
      rw [Cursor.rest_advance]
      exact findTag_drop hm
    refine ⟨before', ?_⟩
    rw [toEnd_text hd hm, hstep, hemit, toEnd_text hd hnext, stepText, hnext,
      Outline.behind_congr htext]

/-! ### Two scans side by side -/

/-- Lexers that are in the same tag at the same place, or in text behind one place. -/
inductive Alike : Lexer → Lexer → Prop where
  | tag (c : Cursor) (isBlock : Bool) (depth : Nat) (strip strip' : Bool) :
    Alike ⟨c, .tag isBlock depth, strip⟩ ⟨c, .tag isBlock depth, strip'⟩
  | text {l l' : Lexer} (c : Cursor) (h : Resumes c l) (h' : Resumes c l') : Alike l l'

/-- Steps that do the same and lead to lexers alike. -/
inductive Step.Alike : Step → Step → Prop where
  | finish : Step.Alike .finish .finish
  | fail (e : SyntaxError) : Step.Alike (.fail e) (.fail e)
  | skip {l l' : Lexer} (h : Lexer.Alike l l') : Step.Alike (.skip l) (.skip l')
  | emit (token : Token) {l l' : Lexer} (h : Lexer.Alike l l') :
    Step.Alike (.emit token l) (.emit token l')

theorem leaveTag_alike (strips trims : Bool) (c : Cursor) :
    Alike (leaveTag w strips trims c) (leaveTag w' strips trims c) :=
  .text c (leaveTag_resumes strips trims c) (leaveTag_resumes strips trims c)

theorem Alike.refl (l : Lexer) : Alike l l := by
  obtain ⟨c, mode, strip⟩ := l
  cases mode with
  | text => exact .text c (resumes_self c strip) (resumes_self c strip)
  | tag isBlock depth => exact .tag c isBlock depth strip strip

theorem Step.Alike.refl (s : Step) : s.Alike s := by
  cases s with
  | finish => exact .finish
  | fail e => exact .fail e
  | skip next => exact .skip (Lexer.Alike.refl next)
  | emit token next => exact .emit token (Lexer.Alike.refl next)

/-- **Tags are entered alike.** -/
theorem openTag_alike (c : Cursor) (kind : TagKind) :
    (openTag d w c kind).Alike (openTag d w' c kind) := by
  unfold openTag
  match kind with
  | .variable => exact .emit _ (.tag ..)
  | .comment =>
    dsimp only
    split
    · exact .fail _
    · exact .skip (leaveTag_alike ..)
  | .block =>
    dsimp only
    split
    · exact .emit _ (.tag ..)
    · split
      · exact .fail _
      · exact .emit _ (leaveTag_alike ..)

theorem stepTag_alike (isBlock : Bool) (depth : Nat) (c : Cursor) :
    (stepTag d w isBlock depth c).Alike (stepTag d w' isBlock depth c) := by
  unfold stepTag
  dsimp only
  split
  · exact .fail _
  · split
    · exact .emit _ (leaveTag_alike ..)
    · exact Step.Alike.refl _

/-- Steps alike begin scans that are the same up to blanks, if the lexers they lead to do. -/
theorem Step.Alike.outline_eq {s s' : Step} (h : s.Alike s') (hc : s.Consumes c)
    (hnext : ∀ {l l' : Lexer}, Lexer.Alike l l' → l.cursor.rest.length < c.rest.length →
      ∀ n n', (Lexer.toEnd d w n l).outline = (Lexer.toEnd d w' n' l').outline)
    (before before' : Nat) : (s.toEnd d w before).outline = (s'.toEnd d w' before').outline := by
  cases h with
  | finish => rfl
  | fail e => rfl
  | skip h => exact hnext h (hc _ rfl) before before'
  | emit token h =>
    rw [outline_emit, outline_emit]
    exact congrArg (Outline.cons token) (hnext h (hc _ rfl) _ _)

/-- **Lexers that are alike scan the same up to blanks.** -/
theorem Alike.outline_eq (hd : d.Visible) (h : Alike l l') (before before' : Nat) :
    (toEnd d w before l).outline = (toEnd d w' before' l').outline := by
  induction hn : l.cursor.rest.length using Nat.strongRecOn generalizing l l' before before' with
  | ind n ih =>
    subst hn
    cases h with
    | tag c isBlock depth strip strip' =>
      rw [toEnd_eq hd, toEnd_eq hd]
      exact (stepTag_alike isBlock depth c).outline_eq (stepTag_consumes hd.present isBlock depth c)
        (fun h hlt n n' => ih _ hlt h n n' rfl) before before'
    | text c h h' =>
      cases hc : d.findTag c.rest with
      | none => rw [outline_text_last hd h hc, outline_text_last hd h' hc]
      | some r =>
        -- both scans enter the next tag, which lies at one place
        obtain ⟨n, kind⟩ := r
        obtain ⟨hle, m, hm⟩ := outline_text_tag (w := w) hd h hc before
        obtain ⟨-, m', hm'⟩ := outline_text_tag (w := w') hd h' hc before'
        have hne : (c.advance n).rest ≠ [] := by
          intro hnil
          have hfound := findTag_drop hc
          rw [← Cursor.rest_advance, hnil, findTag_nil hd] at hfound
          cases hfound
        rw [hm, hm',
          (openTag_alike (c.advance n) kind).outline_eq (openTag_consumes hd.present hne kind)
          (fun h hlt n n' => ih _ (Nat.lt_of_lt_of_le hlt hle) h n n' rfl) m m']

/-- **The treatment of blanks touches blanks only.**  Whatever is dropped around tags, a source
has the same tokens, the same text between them up to blanks, and the same error. -/
theorem outline_scan (hd : d.Visible) (w w' : Whitespace) (source : List Char) :
    (scan d w source).outline = (scan d w' source).outline := by
  rw [scan_eq_toEnd hd, scan_eq_toEnd hd]
  exact (Alike.text _ (resumes_self _ _) (resumes_self _ _)).outline_eq hd 1 1

/-- A loop on lines of its own, whose body and lines are cut up differently. -/
theorem outline_scan_loop :
    let source :=
      "a\n  \x7b% for x in y %\x7d\r\n\x7b\x7b x \x7d\x7d \x7b#- c #\x7d\n\x7b%+ endfor -%\x7d\n b".toList
    ({} : Delimiters).Visible ∧
      (scan {} {} source).lexemes.length ≠ (scan {} ⟨false, false⟩ source).lexemes.length ∧
      (scan {} {} source).outline = (scan {} ⟨false, false⟩ source).outline := by
  have hd := Delimiters.visible_default
  exact ⟨hd, by decide, outline_scan hd _ _ _⟩

end Lexer
end MailMerge
