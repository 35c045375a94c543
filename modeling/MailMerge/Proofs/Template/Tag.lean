/-
# Inside a variable tag

What the lexer makes of the inside of a tag is followed from its end.  `Yields w depth rest ts`
says that wherever `rest` is left under `depth` open brackets, the scan gives the tokens `ts`
and no error.  A blank in front of `rest` makes no difference (`Yields.blank`), and what a token
is read from is one token more (`Yields.token`).

Words and numbers are taken as far as they go, so what follows has to break them off
(`Breaks`).  A string ends at its quote, whatever follows.
-/

import MailMerge.Proofs.Number.Word
import MailMerge.Proofs.Template.Scan
import MailMerge.Proofs.Text.Letter

namespace MailMerge

/-- A scan without an error that gives these tokens. -/
def Scan.Gives (s : Scan) (ts : List Token) : Prop :=
  s.lexemes.map (·.token) = ts ∧ s.error? = none

namespace Lexer

variable {c : Cursor} {depth : Nat} {rest : List Char}

/-! ### One token -/

/-- A text that does not carry on a word in front of it. -/
def EndsWord (rest : List Char) : Prop := ∀ ch ∈ rest.head?, Text.isIdentChar ch = false

/-- A text that does not carry on a word or a number in front of it.  A point does so if a digit
follows. -/
def Breaks (rest : List Char) : Prop := EndsWord rest ∧ fraction rest = []

theorem endsWord_cons {ch : Char} (h : Text.isIdentChar ch = false) (cs : List Char) :
    EndsWord (ch :: cs) := fun _ hd => Option.some.inj hd ▸ h

theorem breaks_cons {ch : Char} (h : Text.isIdentChar ch = false ∧ ch ≠ '.') (cs : List Char) :
    Breaks (ch :: cs) := by
  refine ⟨endsWord_cons h.1 cs, ?_⟩
  unfold fraction
  split
  · next heq => exact absurd (List.cons.inj heq).1 h.2
  · rfl

theorem breaks_blank (cs : List Char) : Breaks (' ' :: cs) := breaks_cons (by decide) cs

/-- A point breaks a number off in front of what is no digit. -/
theorem breaks_point {ch : Char} (h : ch.isDigit = false) (cs : List Char) :
    Breaks ('.' :: ch :: cs) := by
  refine ⟨endsWord_cons (by decide) _, ?_⟩
  rw [fraction, h]
  rfl

/-- What all characters of a text are, but not the first one behind it, is taken just so far. -/
theorem takeWhile_append {p : Char → Bool} {cs : List Char} (hcs : ∀ ch ∈ cs, p ch = true)
    (hrest : ∀ ch ∈ rest.head?, p ch = false) : (cs ++ rest).takeWhile p = cs := by
  rw [List.takeWhile_append_of_pos hcs]
  cases rest with
  | nil => rw [List.takeWhile_nil, List.append_nil]
  | cons ch rest => rw [List.takeWhile_cons_of_neg (by simp [hrest ch rfl]), List.append_nil]

theorem sign?_eq_none {ch : Char} {cs : List Char} (h : ch ∉ "=!<>+-*/%~|,:.".toList) :
    sign? (ch :: cs) = none := by
  unfold sign?
  split <;> first | rfl | skip
  all_goals
    next heq => exact absurd ((List.cons.inj heq).1 ▸ by decide) h

/-- What a character that starts a word is not. -/
theorem wordStart_facts {ch : Char} (h : Text.isIdentStart ch = true) :
    ch.isDigit = false ∧ bracket? ch = none ∧ ¬ (ch = '\'' ∨ ch = '"') ∧
      ch ∉ "=!<>+-*/%~|,:.".toList ∧ ch ≠ '\x7d' := by
  by_cases hch : ch.toNat < 128
  · exact forall_ascii (p := fun ch => Text.isIdentStart ch = true → ch.isDigit = false ∧
      bracket? ch = none ∧ ¬ (ch = '\'' ∨ ch = '"') ∧ ch ∉ "=!<>+-*/%~|,:.".toList ∧
      ch ≠ '\x7d') (by decide) hch h
  · -- beyond ASCII there is none of these characters
    have hne : ∀ d : Char, d.toNat < 128 → ch ≠ d := fun d hd he => hch (he ▸ hd)
    refine ⟨?_, ?_, ?_, ?_, hne _ (by decide)⟩
    · refine Bool.eq_false_iff.2 fun hdigit => hch ?_
      exact Number.forall_isDigit (p := fun ch => ch.toNat < 128) (by decide) hdigit
    · unfold bracket?
      split <;> first | rfl | exact absurd rfl (hne _ (by decide))
    · exact not_or.2 ⟨hne _ (by decide), hne _ (by decide)⟩
    · intro hmem
      have hall : "=!<>+-*/%~|,:.".toList.all (fun d => d.toNat < 128) = true := by decide
      exact hch (of_decide_eq_true (List.all_eq_true.1 hall ch hmem))

/-- A word: a letter or an underscore, and whatever a word goes on with. -/
def IsWord (s : String) : Prop :=
  ∃ ch cs, s.toList = ch :: cs ∧ Text.isIdentStart ch = true ∧
    ∀ d ∈ cs, Text.isIdentChar d = true

theorem isWord_iff {s : String} : IsWord s ↔ (s.toList.head?.any Text.isIdentStart = true ∧
    s.toList.tail.all Text.isIdentChar = true) := by
  unfold IsWord
  cases s.toList <;> simp

instance (s : String) : Decidable (IsWord s) := decidable_of_iff _ isWord_iff.symm

/-- **A word is read as far as it goes.** -/
theorem innerToken_word {s : String} (hs : IsWord s) (hrest : EndsWord rest)
    (hc : c.rest = s.toList ++ rest) : innerToken false depth c = .emit (wordToken s)
      { cursor := c.advance s.toList.length, mode := .tag false depth } := by
  obtain ⟨ch, cs, hchars, hch, hcs⟩ := hs
  obtain ⟨hdigit, hbracket, hquote, hsign, -⟩ := wordStart_facts hch
  have hword : (ch :: (cs ++ rest)).takeWhile Text.isIdentChar = ch :: cs := by
    rw [← List.cons_append]
    exact takeWhile_append (List.forall_mem_cons.2 ⟨Text.isIdentChar_of_isIdentStart hch, hcs⟩)
      hrest
  have hspelled : String.ofList (ch :: cs) = s := by rw [← hchars, String.ofList_toList]
  rw [hchars, List.cons_append] at hc
  rw [innerToken, hchars]
  simp only [hc, hdigit, Bool.false_eq_true, if_false, sign?_eq_none hsign, hbracket,
    if_neg hquote, hch, if_true, hword, hspelled]

/-- A string is read up to the quote that ends it. -/
theorem innerToken_string {quote : Char} (hquote : quote = '\'' ∨ quote = '"')
    {body text : List Char} (hbody : string? quote (body ++ rest) = some (text, rest))
    (hc : c.rest = quote :: body ++ rest) :
    innerToken false depth c = .emit (.str (String.ofList text))
      { cursor := c.advance (quote :: body).length, mode := .tag false depth } := by
  have hadvance : c.advanceTo rest = c.advance (quote :: body).length := by
    rw [Cursor.advanceTo, hc, List.length_append, Nat.add_sub_cancel]
  have hfacts : quote.isDigit = false ∧ bracket? quote = none ∧
      quote ∉ "=!<>+-*/%~|,:.".toList := by
    obtain rfl | rfl := hquote <;> decide
  obtain ⟨hdigit, hbracket, hsign⟩ := hfacts
  rw [List.cons_append] at hc
  rw [innerToken]
  simp only [hc, hdigit, Bool.false_eq_true, if_false, sign?_eq_none hsign, hbracket, if_pos hquote,
    hbody, hadvance]

theorem isDigitMark_of_mem {n : Nat} {ch : Char} (h : ch ∈ Nat.toDigits 10 n) :
    isDigitMark ch = true := by
  rw [isDigitMark, Number.isDigit_of_mem_toDigits h, Bool.true_or]

/-- What can be part of a number can be part of a word. -/
theorem isIdentChar_of_isDigitMark {ch : Char} (h : isDigitMark ch = true) :
    Text.isIdentChar ch = true := by
  rw [isDigitMark, Bool.or_eq_true, beq_iff_eq] at h
  rcases h with h | rfl
  · exact Number.forall_isDigit (p := fun ch => Text.isIdentChar ch = true) (by decide) h
  · decide

/-- Where a text ends a word, it goes on with no exponent. -/
theorem EndsWord.exponent (h : EndsWord rest) : exponent rest = [] := by
  cases rest with
  | nil => rfl
  | cons ch cs =>
    rw [exponent.eq_def]
    refine if_neg ?_
    rintro (rfl | rfl) <;> exact absurd (h _ rfl) (by decide)

theorem digits_toDigits (n : Nat) (hrest : EndsWord rest) :
    digits (Nat.toDigits 10 n ++ rest) = Nat.toDigits 10 n := by
  refine takeWhile_append (fun ch h => isDigitMark_of_mem h) fun ch hch => ?_
  refine Bool.eq_false_iff.2 fun hmark => ?_
  exact absurd (hrest ch hch) (by simp [isIdentChar_of_isDigitMark hmark])

theorem filter_toDigits (n : Nat) : (Nat.toDigits 10 n).filter (· ≠ '_') = Nat.toDigits 10 n := by
  refine List.filter_eq_self.2 fun ch h => decide_eq_true ?_
  rintro rfl
  exact absurd (Number.isDigit_of_mem_toDigits h) (by decide)

/-- The digits of a number denote it, if it fits. -/
theorem number_toDigits (n : Nat) (hrest : Breaks rest) :
    number (Nat.toDigits 10 n ++ rest) = ((Nat.toDigits 10 n).length,
      match Number.fit? n with
      | some m => .ok (.int m)
      | none => .error (.integerRange (String.ofList (Nat.toDigits 10 n)))) := by
  rw [number, digits_toDigits n hrest.1]
  simp only [List.drop_left, hrest.2, List.length_nil, Nat.add_zero, hrest.1.exponent,
    List.append_nil, filter_toDigits, Number.readInt?_toDigits]
  cases Number.fit? n <;> rfl

/-- What starts with a digit is read as a number. -/
theorem innerToken_digits {cs : List Char} {t : Token}
    (hcs : ∃ ch ds, cs = ch :: ds ∧ ch.isDigit = true)
    (ht : number (cs ++ rest) = (cs.length, .ok t)) (hc : c.rest = cs ++ rest) :
    innerToken false depth c =
      .emit t { cursor := c.advance cs.length, mode := .tag false depth } := by
  obtain ⟨ch, ds, rfl, hdigit⟩ := hcs
  rw [innerToken]
  simp only [hc, List.cons_append, hdigit, if_true] at ht ⊢
  rw [ht]

/-- **A number is read from its digits.** -/
theorem innerToken_number {n : Nat} {m : Int64} (hm : Number.fit? n = some m)
    (hrest : Breaks rest) (hc : c.rest = Nat.toDigits 10 n ++ rest) :
    innerToken false depth c = .emit (.int m)
      { cursor := c.advance (Nat.toDigits 10 n).length, mode := .tag false depth } := by
  refine innerToken_digits (Number.toDigits_eq_cons n) ?_ hc
  rw [number_toDigits n hrest, hm]

/-! ### The inside of a tag -/

/-- A text that is left inside a tag, starting with no blank and no end of the tag. -/
def Inside (depth : Nat) (cs : List Char) : Prop :=
  ∃ ch more, cs = ch :: more ∧ Text.isBlank ch = false ∧
    (depth = 0 → tagEnd? ['\x7d', '\x7d'] cs = none)

theorem inside_cons {ch : Char} {cs : List Char} (hblank : Text.isBlank ch = false)
    (hminus : ch ≠ '-') (hbrace : ch ≠ '\x7d') : Inside depth (ch :: cs) := by
  refine ⟨ch, cs, rfl, hblank, fun _ => ?_⟩
  unfold tagEnd?
  split
  · next h => exact absurd (List.cons.inj h).1 hminus
  · rw [Text.startsWith, Text.dropLead?, if_neg (Ne.symm hbrace)]
    rfl

/-- Under open brackets no tag ends. -/
theorem inside_succ {ch : Char} {cs : List Char} (hblank : Text.isBlank ch = false) :
    Inside (depth + 1) (ch :: cs) := ⟨ch, cs, rfl, hblank, fun h => absurd h (Nat.succ_ne_zero _)⟩

theorem inside_word {s : String} (hs : IsWord s) (rest : List Char) :
    Inside depth (s.toList ++ rest) := by
  obtain ⟨ch, cs, hchars, hch, -⟩ := hs
  rw [hchars]
  refine inside_cons (Text.isBlank_of_isIdentStart hch) ?_ (wordStart_facts hch).2.2.2.2
  rintro rfl
  exact absurd hch (by decide)

/-- Digits, behind a minus or not, do not look like the end of a tag. -/
theorem inside_digits (n : Nat) (rest : List Char) :
    Inside depth (Nat.toDigits 10 n ++ rest) ∧
      Inside depth ('-' :: (Nat.toDigits 10 n ++ rest)) := by
  obtain ⟨ch, cs, hcs, hdigit⟩ := Number.toDigits_eq_cons n
  have hfacts : Text.isBlank ch = false ∧ ch ≠ '-' ∧ ch ≠ '\x7d' :=
    Number.forall_isDigit (p := fun ch => Text.isBlank ch = false ∧ ch ≠ '-' ∧ ch ≠ '\x7d')
      (by decide) hdigit
  rw [hcs, List.cons_append]
  refine ⟨inside_cons hfacts.1 hfacts.2.1 hfacts.2.2, '-', _, rfl, rfl, fun _ => ?_⟩
  have hnot : Text.startsWith ['\x7d', '\x7d'] (ch :: (cs ++ rest)) = false := by
    rw [Text.startsWith, Text.dropLead?, if_neg (Ne.symm hfacts.2.2)]
    rfl
  simp only [tagEnd?, hnot]
  rfl

theorem gives_emit {w : Whitespace} {t : Token} {next : Lexer} {ts : List Token} (before : Nat)
    (h : (toEnd {} w next.cursor.line next).Gives ts) :
    ((Step.emit t next).toEnd {} w before).Gives (t :: ts) :=
  ⟨congrArg (t :: ·) h.1, h.2⟩

/-- Wherever `rest` is left in a variable tag under `depth` open brackets, the scan gives the
tokens `ts` and no error. -/
def Yields (w : Whitespace) (depth : Nat) (rest : List Char) (ts : List Token) : Prop :=
  ∀ c before, c.rest = rest →
    (toEnd {} w before { cursor := c, mode := .tag false depth }).Gives ts

/-- Wherever `rest` is left in text, the scan gives the tokens `ts` and no error. -/
def InText (w : Whitespace) (rest : List Char) (ts : List Token) : Prop :=
  ∀ c before, c.rest = rest → (toEnd {} w before { cursor := c }).Gives ts

theorem inText_nil (w : Whitespace) : InText w [] [] := by
  rintro ⟨cs, line, start⟩ before rfl
  rw [toEnd_eq Delimiters.visible_default]
  exact ⟨rfl, rfl⟩

namespace Yields

variable {w : Whitespace} {ts : List Token}

/-- The end of the tag, behind which the text goes on. -/
theorem ended (h : InText w rest ts) : Yields w 0 (' ' :: '\x7d' :: '\x7d' :: rest)
    (.varEnd :: ts) := by
  intro c before hc
  have hplace : (c.advanceTo (Text.trimStart c.rest)).rest = '\x7d' :: '\x7d' :: rest := by
    rw [Cursor.rest_advanceTo (Text.trimStart_suffix _), hc]
    rfl
  rw [toEnd_eq Delimiters.visible_default, step]
  dsimp only
  rw [stepTag]
  simp only [hplace]
  refine gives_emit before (h _ _ ?_)
  change (Cursor.advance 2 _).rest = rest
  rw [Cursor.rest_advance, hplace]
  rfl

/-- The end of the tag, and of the source. -/
theorem finish (w : Whitespace) : Yields w 0 [' ', '\x7d', '\x7d'] [.varEnd] :=
  ended (inText_nil w)

theorem blank (h : Yields w depth rest ts) : Yields w depth (' ' :: rest) ts := by
  intro c before hc
  have hrest : (c.advance 1).rest = rest := by
    rw [Cursor.rest_advance, hc, List.drop_one, List.tail_cons]
  have hplace : c.advanceTo (Text.trimStart c.rest) =
      (c.advance 1).advanceTo (Text.trimStart (c.advance 1).rest) := by
    have htrim : Text.trimStart (' ' :: rest) = Text.trimStart rest := rfl
    have hle := (Text.trimStart_suffix rest).length_le
    rw [Cursor.advanceTo, Cursor.advanceTo, Cursor.advance_advance, hrest, hc, htrim,
      List.length_cons]
    congr 1
    omega
  have hstep : stepTag {} w false depth c = stepTag {} w false depth (c.advance 1) := by
    rw [stepTag, stepTag, hplace]
  have hgives := h (c.advance 1) before hrest
  rw [toEnd_eq Delimiters.visible_default, step] at hgives ⊢
  dsimp only at hgives ⊢
  rwa [hstep]

/-- **What a token is read from,** in front of what is left. -/
theorem token {t : Token} {cs : List Char} {depth' : Nat} (hinside : Inside depth (cs ++ rest))
    (ht : ∀ c, c.rest = cs ++ rest → innerToken false depth c =
      .emit t { cursor := c.advance cs.length, mode := .tag false depth' })
    (h : Yields w depth' rest ts) : Yields w depth (cs ++ rest) (t :: ts) := by
  intro c before hc
  obtain ⟨ch, more, hcs, hblank, hend⟩ := hinside
  have hplace : c.advanceTo (Text.trimStart c.rest) = c := by
    rw [hc, hcs, Text.trimStart, List.dropWhile_cons_of_neg (by simp [hblank]), ← hcs, ← hc,
      Cursor.advanceTo, Nat.sub_self]
    rfl
  have hempty : c.rest.isEmpty = false := by
    rw [hc, hcs]
    rfl
  have hnone : (if depth = 0 then tagEnd? ({} : Delimiters).variableEnd.toList c.rest
      else none) = none := by
    split_ifs with hdepth
    · rw [hc]
      exact hend hdepth
    · rfl
  rw [toEnd_eq Delimiters.visible_default, step]
  dsimp only
  rw [stepTag, hplace]
  simp only [hempty, Bool.false_eq_true, if_false, hnone]
  rw [ht c hc]
  refine gives_emit before (h _ _ ?_)
  rw [Cursor.rest_advance, hc, List.drop_left]

theorem word {s : String} (hs : IsWord s) (hrest : EndsWord rest) (h : Yields w depth rest ts) :
    Yields w depth (s.toList ++ rest) (wordToken s :: ts) :=
  h.token (inside_word hs rest) fun _ => innerToken_word hs hrest

theorem string {quote : Char} (hquote : quote = '\'' ∨ quote = '"') {body text : List Char}
    (hbody : string? quote (body ++ rest) = some (text, rest)) (h : Yields w depth rest ts) :
    Yields w depth (quote :: body ++ rest) (.str (String.ofList text) :: ts) := by
  refine h.token ?_ fun _ => innerToken_string hquote hbody
  obtain rfl | rfl := hquote <;> exact inside_cons (by decide) (by decide) (by decide)

theorem number {n : Nat} {m : Int64} (hm : Number.fit? n = some m) (hrest : Breaks rest)
    (h : Yields w depth rest ts) :
    Yields w depth (Nat.toDigits 10 n ++ rest) (.int m :: ts) :=
  h.token (inside_digits n rest).1 fun _ => innerToken_number hm hrest

end Yields

/-- The start of a tag. -/
theorem inText_opened {w : Whitespace} {ts : List Token} (h : Yields w 0 (' ' :: rest) ts) :
    InText w ('\x7b' :: '\x7b' :: ' ' :: rest) (.varStart :: ts) := by
  rintro ⟨cs, line, start⟩ before rfl
  rw [toEnd_eq Delimiters.visible_default]
  exact gives_emit before (h ⟨' ' :: rest, line, false⟩ line rfl)

/-- **A source that is one variable tag** is cut into the tokens inside. -/
theorem gives_scan {w : Whitespace} {ts : List Token}
    (h : Yields w 0 (' ' :: rest) (ts ++ [.varEnd])) :
    (scan {} w ('\x7b' :: '\x7b' :: ' ' :: rest)).Gives (.varStart :: ts ++ [Token.varEnd]) := by
  rw [scan_eq_toEnd Delimiters.visible_default]
  exact inText_opened h _ 1 rfl

end Lexer
end MailMerge
