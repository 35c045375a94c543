/-
# Reading tokens back from their spelling

A token of an expression is read back from its spelling if a blank follows, inside a tag
and under any number of open brackets (`Lexer.Yields.spelled`).  In the tokens of an
expression every bracket is closed again, so the end of the tag behind them is seen as
such, and no token before it is mistaken for it (`Expr.scan_source`).
-/

import MailMerge.Proofs.Template.Print
import MailMerge.Proofs.Template.Tag

namespace MailMerge

theorem toNat_lt_of_isAlphanum {c : Char} (h : (c.isAlphanum || c == '_') = true) :
    c.toNat < 128 := by
  rw [Bool.or_eq_true, beq_iff_eq] at h
  rcases h with h | rfl
  · delta Char.isAlphanum Char.isAlpha Char.isUpper Char.isLower Char.isDigit at h
    simp only [Bool.or_eq_true, Bool.and_eq_true, decide_eq_true_eq, ge_iff_le,
      UInt32.le_iff_toNat_le] at h
    change ((65 ≤ c.toNat ∧ c.toNat ≤ 90) ∨ (97 ≤ c.toNat ∧ c.toNat ≤ 122)) ∨
      (48 ≤ c.toNat ∧ c.toNat ≤ 57) at h
    omega
  · decide

/-- What starts a word in ASCII starts a word. -/
theorem isIdentStart_of_ascii {c : Char} (h : (c.isAlpha || c == '_') = true) :
    Text.isIdentStart c = true := by
  refine forall_ascii (p := fun c => (c.isAlpha || c == '_') = true → Text.isIdentStart c = true)
    (by decide) (toNat_lt_of_isAlphanum ?_) h
  rw [Char.isAlphanum, Bool.or_right_comm, h, Bool.true_or]

theorem isIdentChar_of_ascii {c : Char} (h : (c.isAlphanum || c == '_') = true) :
    Text.isIdentChar c = true :=
  forall_ascii (p := fun c => (c.isAlphanum || c == '_') = true → Text.isIdentChar c = true)
    (by decide) (toNat_lt_of_isAlphanum h) h

namespace Token

/-- Whether a token is read back from its spelling. -/
def isSpelled : Token → Bool
  | .keyword _ => true
  | .sign _ => true
  | .ident s => Expr.isPlainName s
  | .str _ => true
  | .int n => decide (0 ≤ n.toInt)
  | _ => false

/-- The number of open brackets behind a token. -/
def depthAfter (n : Nat) : Token → Nat
  | .sign .lParen => n + 1
  | .sign .lBracket => n + 1
  | .sign .lBrace => n + 1
  | .sign .rParen => n - 1
  | .sign .rBracket => n - 1
  | .sign .rBrace => n - 1
  | _ => n

end Token

namespace Lexer

variable {depth : Nat} {rest : List Char}

theorem string?_escape (ch : Char) (cs : List Char) :
    string? '\'' (escapeInQuotes ch ++ cs) =
      (string? '\'' cs).map fun (text, rest) => (ch :: text, rest) := by
  unfold escapeInQuotes
  split_ifs with hback hquote
  · subst hback
    rfl
  · subst hquote
    rfl
  · rw [List.singleton_append, string?.eq_4 _ _ _ (fun h => absurd h hback)
      (fun _ _ h => absurd h hback), if_neg hquote]

theorem string?_spelled (cs rest : List Char) :
    string? '\'' (cs.flatMap escapeInQuotes ++ '\'' :: rest) = some (cs, rest) := by
  induction cs with
  | nil => rfl
  | cons ch cs ih =>
    rw [List.flatMap_cons, List.append_assoc, string?_escape, ih]
    rfl

theorem isPlainName_iff {s : String} : Expr.isPlainName s = true ↔ ∃ ch cs, s.toList = ch :: cs ∧
    (ch.isAlpha || ch == '_') = true ∧ (∀ d ∈ cs, (d.isAlphanum || d == '_') = true) ∧
    Keyword.ofWord? s = none := by
  unfold Expr.isPlainName
  split
  · next h => simp [h]
  · next ch cs h =>
    rw [Bool.and_eq_true, Bool.and_eq_true, List.all_eq_true, Option.isNone_iff_eq_none]
    constructor
    · rintro ⟨⟨hch, hcs⟩, hk⟩
      exact ⟨ch, cs, h, hch, hcs, hk⟩
    · rintro ⟨ch', cs', h', hch, hcs, hk⟩
      obtain ⟨rfl, rfl⟩ := List.cons.inj (h.symm.trans h')
      exact ⟨⟨hch, hcs⟩, hk⟩

/-- A name in ASCII is a word, and it is no keyword. -/
theorem isWord_of_isPlainName {s : String} (hs : Expr.isPlainName s = true) :
    IsWord s ∧ wordToken s = .ident s := by
  obtain ⟨ch, cs, hchars, hch, hcs, hk⟩ := isPlainName_iff.1 hs
  refine ⟨⟨ch, cs, hchars, isIdentStart_of_ascii hch, fun d hd => isIdentChar_of_ascii (hcs d hd)⟩,
    ?_⟩
  rw [wordToken, hk]

theorem isWord_word (k : Keyword) : IsWord k.word ∧ wordToken k.word = .keyword k := by
  cases k <;> exact ⟨⟨_, _, rfl, by decide, List.all_eq_true.1 rfl⟩, rfl⟩

/-- **A token is read back from its spelling,** if a blank follows. -/
theorem Yields.spelled {w : Whitespace} {t : Token} {ts : List Token} (ht : t.isSpelled = true)
    (h : Yields w (t.depthAfter depth) (' ' :: rest) ts) :
    Yields w depth (t.spelling ++ ' ' :: rest) (t :: ts) := by
  cases t with
  | keyword k =>
    obtain ⟨hword, htoken⟩ := isWord_word k
    have hyields := Yields.word hword (breaks_blank rest).1 h
    rwa [htoken] at hyields
  | sign s =>
    refine Yields.token ?_ (fun c hc => ?_) h
    · cases s <;> exact ⟨_, _, rfl, rfl, fun _ => rfl⟩
    · rw [innerToken]
      cases s <;> rw [hc] <;> rfl
  | ident s =>
    obtain ⟨hword, htoken⟩ := isWord_of_isPlainName ht
    have hyields := Yields.word hword (breaks_blank rest).1 h
    rwa [htoken] at hyields
  | str s =>
    have hbody : string? '\'' (s.toList.flatMap escapeInQuotes ++ ['\''] ++ ' ' :: rest) =
        some (s.toList, ' ' :: rest) := by
      rw [List.append_assoc]
      exact string?_spelled s.toList _
    have hyields := Yields.string (.inl rfl) hbody h
    rwa [String.ofList_toList] at hyields
  | int n =>
    have hn : 0 ≤ n.toInt := of_decide_eq_true ht
    have hfit : Number.fit? n.toInt.toNat = some n := by
      rw [Number.fit?_eq_some_iff]
      omega
    exact Yields.number hfit (breaks_blank rest) h
  | _ => cases ht

/-- **A row of tokens is read back from its spelling,** and so is the end of the tag, if the
brackets are closed there. -/
theorem yields_row {w : Whitespace} {ts : List Token} (hts : ∀ t ∈ ts, t.isSpelled = true)
    (hdepth : ts.foldl Token.depthAfter depth = 0) :
    Yields w depth (ts.flatMap (fun t => ' ' :: t.spelling) ++ [' ', '\x7d', '\x7d'])
      (ts ++ [Token.varEnd]) := by
  induction ts generalizing depth with
  | nil =>
    obtain rfl : depth = 0 := hdepth
    exact Yields.finish w
  | cons t ts ih =>
    -- behind the token comes a blank, in front of another token or of the end
    obtain ⟨more, hmore⟩ : ∃ more, ts.flatMap (fun t => ' ' :: t.spelling) ++
        [' ', '\x7d', '\x7d'] = ' ' :: more := by
      cases ts with
      | nil => exact ⟨_, rfl⟩
      | cons u us => exact ⟨_, rfl⟩
    have hrow := ih (fun u hu => hts u (List.mem_cons_of_mem _ hu)) hdepth
    rw [hmore] at hrow
    rw [List.flatMap_cons, List.append_assoc, hmore]
    exact (hrow.spelled (hts t List.mem_cons_self)).blank

end Lexer

/-! ### The tokens of an expression -/

/-- A row of tokens that are read back from their spelling and close the brackets they open. -/
structure Readable (ts : List Token) : Prop where
  spelled : ∀ t ∈ ts, t.isSpelled = true
  balanced : ∀ n, ts.foldl Token.depthAfter n = n

namespace Readable

variable {ts us : List Token}

theorem nil : Readable [] := ⟨by simp, fun _ => rfl⟩

theorem append (h : Readable ts) (h' : Readable us) : Readable (ts ++ us) where
  spelled t ht := (List.mem_append.1 ht).elim (h.spelled t) (h'.spelled t)
  balanced n := by rw [List.foldl_append, h.balanced, h'.balanced]

/-- A token that is no bracket. -/
theorem cons {t : Token} (hs : t.isSpelled = true) (hb : ∀ n, t.depthAfter n = n)
    (h : Readable ts) : Readable (t :: ts) where
  spelled := List.forall_mem_cons.2 ⟨hs, h.spelled⟩
  balanced n := by rw [List.foldl_cons, hb, h.balanced]

/-- Brackets around a row. -/
theorem bracketed {l r : Sign} (hl : ∀ n, (Token.sign l).depthAfter n = n + 1)
    (hr : ∀ n, (Token.sign r).depthAfter n = n - 1) (h : Readable ts) :
    Readable (.sign l :: ts ++ [Token.sign r]) where
  spelled := by
    have := h.spelled
    simp only [List.cons_append, List.mem_cons, List.mem_append, List.not_mem_nil, or_false]
    rintro t (rfl | ht | rfl)
    · rfl
    · exact this t ht
    · rfl
  balanced n := by
    rw [List.cons_append, List.foldl_cons, hl, List.foldl_append, h.balanced, List.foldl_cons,
      hr, List.foldl_nil, Nat.add_sub_cancel]

theorem commas {rows : List (List Token)} (h : ∀ row ∈ rows, Readable row) :
    Readable (commas rows) := by
  induction rows with
  | nil => exact nil
  | cons row rows ih =>
    have hrow := h row List.mem_cons_self
    have hrows := ih fun r hr => h r (List.mem_cons_of_mem _ hr)
    cases rows with
    | nil => rwa [MailMerge.commas, List.intercalate_singleton]
    | cons =>
      rw [MailMerge.commas, List.intercalate_cons_cons, List.append_assoc]
      exact hrow.append (hrows.cons rfl fun _ => rfl)

theorem argumentTokens {rows : List (List Token)} (h : ∀ row ∈ rows, Readable row) :
    Readable (argumentTokens rows) := by
  unfold MailMerge.argumentTokens
  split_ifs
  · exact nil
  · exact (commas h).bracketed (fun _ => rfl) fun _ => rfl

theorem within {e : Expr} {k : Expr.Level} (h : Readable ts) : Readable (Expr.within k e ts) := by
  unfold Expr.within
  split_ifs
  · exact h.bracketed (fun _ => rfl) fun _ => rfl
  · exact h

end Readable

namespace Expr

theorem itemRows_eq_map (items : List Expr) : itemRows items = items.map tokens := by
  induction items with
  | nil => rfl
  | cons e items ih => rw [itemRows, ih, List.map_cons]

theorem pairRows_eq_map (pairs : List (Expr × Expr)) :
    pairRows pairs = pairs.map fun e => e.1.tokens ++ .sign .colon :: e.2.tokens := by
  induction pairs with
  | nil => rfl
  | cons e pairs ih => rw [pairRows, ih, List.map_cons]

theorem namedRows_eq_map (kwargs : List (String × Expr)) :
    namedRows kwargs = kwargs.map fun e => .ident e.1 :: .sign .assign :: e.2.tokens := by
  induction kwargs with
  | nil => rfl
  | cons e kwargs ih => rw [namedRows, ih, List.map_cons]

theorem readable_call {args : List Expr} {kwargs : List (String × Expr)}
    (ha : ∀ e ∈ args, Readable e.tokens)
    (hk : ∀ e ∈ kwargs, isPlainName e.1 = true ∧ Readable e.2.tokens) :
    Readable (argumentTokens (itemRows args ++ namedRows kwargs)) := by
  rw [itemRows_eq_map, namedRows_eq_map]
  refine Readable.argumentTokens fun row hrow => ?_
  rcases List.mem_append.1 hrow with h | h
  · exact List.forall_mem_map.2 ha row h
  · refine List.forall_mem_map.2 (fun e he => ?_) row h
    exact ((hk e he).2.cons rfl fun _ => rfl).cons (t := .ident e.1) (hk e he).1 fun _ => rfl

/-- **The tokens of an expression are read back from their spelling,** and its brackets are
closed. -/
theorem readable_tokens {e : Expr} (he : e.Printable) : Readable e.tokens := by
  induction e using Expr.induction with
  | str s => exact Readable.nil.cons rfl fun _ => rfl
  | int n => exact Readable.nil.cons (decide_eq_true (printable_int.1 he)) fun _ => rfl
  | float => exact absurd he not_printable_float
  | bool b => cases b <;> exact Readable.nil.cons rfl fun _ => rfl
  | null => exact Readable.nil.cons rfl fun _ => rfl
  | name s => exact Readable.nil.cons (printable_name.1 he) fun _ => rfl
  | list items ih =>
    rw [printable_list] at he
    rw [tokens, itemRows_eq_map]
    exact (Readable.commas (List.forall_mem_map.2 fun e h => ih e h (he e h))).bracketed
      (fun _ => rfl) fun _ => rfl
  | dict pairs ih =>
    rw [printable_dict] at he
    rw [tokens, pairRows_eq_map]
    refine (Readable.commas (List.forall_mem_map.2 fun e h => ?_)).bracketed
      (fun _ => rfl) fun _ => rfl
    exact ((ih e h).1 (he e h).1).append (((ih e h).2 (he e h).2).cons rfl fun _ => rfl)
  | attr base key ih =>
    rw [printable_attr] at he
    exact (ih he.2).within.append
      ((Readable.nil.cons (t := .ident key) he.1 fun _ => rfl).cons rfl fun _ => rfl)
  | index base subscript ihb ihs =>
    rw [printable_index] at he
    exact (ihb he.1).within.append ((ihs he.2).bracketed (l := .lBracket) (r := .rBracket)
      (fun _ => rfl) fun _ => rfl)
  | binary op left right ihl ihr =>
    rw [printable_binary] at he
    have hop : Readable op.tokens := by
      constructor
      · cases op <;> decide
      · cases op <;> exact fun _ => rfl
    exact (ihl he.1).within.append (hop.append (ihr he.2).within)
  | and left right ihl ihr =>
    rw [printable_and] at he
    exact (ihl he.1).within.append ((ihr he.2).within.cons rfl fun _ => rfl)
  | or left right ihl ihr =>
    rw [printable_or] at he
    exact (ihl he.1).within.append ((ihr he.2).within.cons rfl fun _ => rfl)
  | not e ih => exact (ih (printable_not.1 he)).within.cons rfl fun _ => rfl
  | neg e ih => exact (ih (printable_neg.1 he)).within.cons rfl fun _ => rfl
  | pos e ih => exact (ih (printable_pos.1 he)).within.cons rfl fun _ => rfl
  | filter subject label args kwargs ihs iha ihk =>
    obtain ⟨hl, hs, ha, hk⟩ := printable_filter.1 he
    have hcall := readable_call (fun e h => iha e h (ha e h)) fun e h => ⟨(hk e h).1,
      ihk e h (hk e h).2⟩
    exact (ihs hs).within.append ((hcall.cons (t := .ident label) hl fun _ => rfl).cons rfl
      fun _ => rfl)
  | test subject label args kwargs negated ihs iha ihk =>
    obtain ⟨hl, hs, ha, hk⟩ := printable_test.1 he
    have hcall := readable_call (fun e h => iha e h (ha e h)) fun e h => ⟨(hk e h).1,
      ihk e h (hk e h).2⟩
    have hnot : Readable (if negated then [.keyword .notWord] else []) := by
      split_ifs
      · exact Readable.nil.cons rfl fun _ => rfl
      · exact Readable.nil
    exact (ihs hs).within.append ((hnot.append (hcall.cons (t := .ident label) hl
      fun _ => rfl)).cons rfl fun _ => rfl)
  | cond value condition otherwise ihv ihc iho =>
    obtain ⟨hv, hc, ho⟩ := printable_cond.1 he
    have helse : Readable (elseTokens otherwise) := by
      cases otherwise with
      | none => exact Readable.nil
      | some e => exact (iho e rfl (ho e rfl)).cons rfl fun _ => rfl
    exact (ihv hv).within.append (((ihc hc).within.append helse).cons rfl fun _ => rfl)

theorem tokens_ne_nil (e : Expr) : e.tokens ≠ [] := by
  cases e with
  | bool b => cases b <;> simp [tokens]
  | binary op _ _ => cases op <;> simp [tokens, BinaryOp.tokens]
  | _ => simp [tokens]

/-- The text of tokens with a blank in front of each. -/
theorem spaced_tokens {ts : List Token} (h : ts ≠ []) :
    ' ' :: List.intercalate [' '] (ts.map Token.spelling) =
      ts.flatMap fun t => ' ' :: t.spelling := by
  induction ts with
  | nil => exact absurd rfl h
  | cons t ts ih =>
    cases ts with
    | nil => simp
    | cons u us =>
      rw [List.flatMap_cons, ← ih (List.cons_ne_nil u us), List.map_cons, List.map_cons,
        List.intercalate_cons_cons, List.append_assoc]
      rfl

/-- The source of a template that outputs an expression. -/
def source (e : Expr) : String := "\x7b\x7b " ++ e.print ++ " \x7d\x7d"

theorem toList_source (e : Expr) : e.source.toList =
    '\x7b' :: '\x7b' ::
      (e.tokens.flatMap (fun t => ' ' :: t.spelling) ++ [' ', '\x7d', '\x7d']) := by
  have hprint : e.print.toList = List.intercalate [' '] (e.tokens.map Token.spelling) :=
    String.toList_ofList
  rw [← spaced_tokens (tokens_ne_nil e), source, String.toList_append, String.toList_append, hprint]
  rfl

/-- **A printed expression is cut into its tokens.** -/
theorem scan_source {e : Expr} (he : e.Printable) (w : Whitespace) :
    (Lexer.scan {} w e.source.toList).Gives (.varStart :: e.tokens ++ [Token.varEnd]) := by
  have hrow := readable_tokens he
  have hyields := Lexer.yields_row (w := w) hrow.spelled (hrow.balanced 0)
  obtain ⟨t, ts, hts⟩ := List.exists_cons_of_ne_nil (tokens_ne_nil e)
  rw [toList_source]
  rw [hts, List.flatMap_cons] at hyields ⊢
  exact Lexer.gives_scan hyields

end Expr
end MailMerge
