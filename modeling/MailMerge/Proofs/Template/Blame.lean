/-
# Errors that name a token

An error that names the token found in place of another one has the line that was kept for that
token, and the token stands inside a tag (`SyntaxError.Blames`).  A parser reports if it does so
on a stream whose tokens stand in order, and if its errors move with the lines of the tokens:
when every line is written in another way, so is the line of the error, and nothing else changes
(`Parser.Reports`).  So the tokens may be numbered in place of their lines, and the parser tells
the number of the token it took.

There is one rule for each way to put parsers together.  An expression starts and ends inside
the tag (`Parser.moves_expression`), so all it can find in place of another token is a token of
the tag.
-/

import MailMerge.Proofs.Template.Lines

namespace MailMerge

/-- The error with its line written in another way. -/
def SyntaxError.relabel (f : Nat → Nat) (e : SyntaxError) : SyntaxError := ⟨f e.line, e.fault⟩

/-- If an error names a token found in place of another one, the token is among `ls`, stands
inside a tag, and the line of the error is the one kept for it. -/
def SyntaxError.Blames (ls : List Lexeme) (e : SyntaxError) : Prop :=
  ∀ t ∈ e.fault.found?, t.isInner = true ∧ ∃ l ∈ ls, l.token = t ∧ l.lineBefore = e.line

namespace TokenStream

variable {f : Nat → Nat} {ls : List Lexeme} {inside : Bool} {s s' : TokenStream} {t : Token}

/-- The stream with every line written in another way. -/
def relabel (f : Nat → Nat) (s : TokenStream) : TokenStream :=
  ⟨s.lexemes.map fun l => { l with lineBefore := f l.lineBefore },
    s.failure.map (SyntaxError.relabel f), f s.line⟩

/-- A stream of some of the tokens `ls`, in order, that starts inside a tag or not. -/
structure Within (ls : List Lexeme) (inside : Bool) (s : TokenStream) : Prop where
  among : ∀ l ∈ s.lexemes, l ∈ ls
  ordered : Token.Ordered inside (s.lexemes.map (·.token))
  failure : ∀ e ∈ s.failure, e.fault.found? = none

theorem Begins.ahead_zero (h : s.Begins t s') : s.ahead 0 = some t := by
  obtain ⟨l, hl, rfl⟩ := h.first
  rw [ahead, hl]
  rfl

/-- The first token is of the kind that the place of the stream asks for, and tells the place of
what is left. -/
theorem Within.begins (hs : s.Within ls inside) (h : s.Begins t s') :
    t.isInner = inside ∧ s'.Within ls t.leadsInside := by
  obtain ⟨l, hl, rfl⟩ := h.first
  obtain ⟨hamong, hordered, hfailure⟩ := hs
  rw [hl] at hamong hordered
  exact ⟨hordered.1, fun x hx => hamong x (List.mem_cons_of_mem l hx), hordered.2,
    h.failure ▸ hfailure⟩

end TokenStream

namespace Parser

variable {α β : Type} {f : Nat → Nat} {ls : List Lexeme} {inside inside' inside'' : Bool}
  {s s' : TokenStream} {t : Token} {p q : Parser α} {Q : β → TokenStream → Prop}
  {R : α → TokenStream → Prop}

/-- What a parser does on a stream, with `R` for what it gives and leaves: its errors blame
tokens among `ls`, and nothing but lines changes when the lines are written in another way. -/
inductive Reports (f : Nat → Nat) (ls : List Lexeme) (s : TokenStream) (p : Parser α)
    (R : α → TokenStream → Prop) : Prop
  | ok {a : α} {s' : TokenStream} (h : p s = .ok (a, s'))
    (hf : p (s.relabel f) = .ok (a, s'.relabel f)) (hR : R a s') : Reports f ls s p R
  | error {e : SyntaxError} (h : p s = .error e)
    (hf : p (s.relabel f) = .error (e.relabel f)) (he : e.Blames ls) : Reports f ls s p R

namespace Reports

theorem pure {a : α} (h : R a s) : Reports f ls s (Pure.pure a) R := .ok rfl rfl h

theorem fault {x : SyntaxFault} (hx : x.found? = none) :
    Reports f ls s (Parser.fault x : Parser α) R :=
  .error rfl rfl fun _ ht => nomatch hx.symm.trans ht

theorem bind {k : α → Parser β} (h : Reports f ls s p R)
    (hk : ∀ a s', R a s' → Reports f ls s' (k a) Q) : Reports f ls s (p >>= k) Q := by
  cases h with
  | error h hf he => exact .error (bind_error h) (bind_error hf) he
  | ok h hf hR =>
    cases hk _ _ hR with
    | ok h' hf' hQ => exact .ok ((bind_ok h).trans h') ((bind_ok hf).trans hf') hQ
    | error h' hf' he => exact .error ((bind_ok h).trans h') ((bind_ok hf).trans hf') he

theorem ite {c : Prop} [Decidable c] (ht : c → Reports f ls s p R)
    (he : ¬c → Reports f ls s q R) : Reports f ls s (if c then p else q) R := by
  split_ifs with h
  · exact ht h
  · exact he h

/-! ### Looking ahead and taking a token -/

section

variable {k : Option Token → Parser β} (hs : s.Within ls inside)

include hs

theorem peekAt (n : Nat) (h : Reports f ls s (k (s.ahead n)) Q) :
    Reports f ls s (Parser.peekAt n >>= k) Q := by
  refine .bind (R := fun got s' => got = s.ahead n ∧ s' = s) ?_ fun got s' hgot => by
    rw [hgot.1, hgot.2]
    exact h
  have hlexeme : (s.relabel f).lexemes[n]? =
      s.lexemes[n]?.map fun l => { l with lineBefore := f l.lineBefore } := List.getElem?_map
  have hfailed : (s.relabel f).failure = s.failure.map (SyntaxError.relabel f) := rfl
  rw [TokenStream.ahead]
  cases hl : s.lexemes[n]? with
  | some l =>
    rw [hl] at hlexeme
    exact .ok (by rw [Parser.peekAt, hl]; rfl) (by rw [Parser.peekAt, hlexeme]; rfl) ⟨rfl, rfl⟩
  | none =>
    rw [hl] at hlexeme
    cases hfailure : s.failure with
    | none =>
      rw [hfailure] at hfailed
      refine .ok (by rw [Parser.peekAt, hl, hfailure]; rfl) ?_ ⟨rfl, rfl⟩
      rw [Parser.peekAt, hlexeme, hfailed]
      rfl
    | some e =>
      rw [hfailure] at hfailed
      refine .error (by rw [Parser.peekAt, hl, hfailure]) ?_ fun t ht => ?_
      · rw [Parser.peekAt, hlexeme, hfailed]
        rfl
      · cases (hs.failure e hfailure).symm.trans ht

theorem peek (h : Reports f ls s (k (s.ahead 0)) Q) : Reports f ls s (Parser.peek >>= k) Q :=
  peekAt hs 0 h

/-- A token is taken, or inside a tag one that is refused by its name. -/
theorem next (hnone : s.ahead 0 = none → Reports f ls s (k none) Q)
    (hsome : ∀ t s', s.Begins t s' → s'.Within ls t.leadsInside →
      Reports f ls s' (k (some t)) Q ∨
        inside = true ∧ ∃ x, k (some t) = Parser.fault x ∧ x.found? = some t) :
    Reports f ls s (Parser.next >>= k) Q := by
  obtain ⟨lexemes, failure, line⟩ := s
  cases lexemes with
  | nil =>
    cases hfailure : failure with
    | none =>
      subst hfailure
      exact .bind (R := fun got s' => got = none ∧ s' = ⟨[], none, line⟩) (.ok rfl rfl ⟨rfl, rfl⟩)
        fun got s' hgot => by
          rw [hgot.1, hgot.2]
          exact hnone rfl
    | some e =>
      subst hfailure
      exact .error rfl rfl fun t ht => nomatch (hs.failure e rfl).symm.trans ht
  | cons l rest =>
    have hbegins : TokenStream.Begins l.token ⟨l :: rest, failure, line⟩
        ⟨rest, failure, l.lineBefore⟩ := ⟨rfl, l, rfl, rfl⟩
    obtain ⟨hinner, hwithin⟩ := hs.begins hbegins
    obtain h | ⟨hinside, x, hk, hx⟩ := hsome l.token _ hbegins hwithin
    · exact .bind (R := fun got s' => got = some l.token ∧ s' = ⟨rest, failure, l.lineBefore⟩)
        (.ok rfl rfl ⟨rfl, rfl⟩) fun got s' hgot => by
          rw [hgot.1, hgot.2]
          exact h
    · have hrun : ∀ r : TokenStream, k (some l.token) r = .error ⟨r.line, x⟩ :=
        fun r => congrFun hk r
      refine .error (hrun ⟨rest, failure, l.lineBefore⟩) (hrun _) fun t ht => ?_
      obtain rfl : l.token = t := Option.some.inj (hx.symm.trans ht)
      exact ⟨hinner.trans hinside, l, hs.among l List.mem_cons_self, rfl, rfl⟩

/-- A token that was seen before is taken. -/
theorem next_of (ht : s.ahead 0 = some t)
    (h : ∀ s', s.Begins t s' → s'.Within ls t.leadsInside → Reports f ls s' (k (some t)) Q) :
    Reports f ls s (Parser.next >>= k) Q := by
  refine next hs (fun hend => nomatch hend.symm.trans ht) fun u s' hbegins hwithin => .inl ?_
  obtain rfl : u = t := Option.some.inj (hbegins.ahead_zero.symm.trans ht)
  exact h s' hbegins hwithin

end

end Reports

/-! ### Parsers that start and end inside a tag or not -/

/-- A parser that reports on the streams that start inside a tag or not, and leaves one that
does. -/
def Moves (f : Nat → Nat) (ls : List Lexeme) (inside inside' : Bool) (p : Parser α) : Prop :=
  ∀ s : TokenStream, s.Within ls inside → Reports f ls s p fun _ s' => s'.Within ls inside'

namespace Moves

theorem pure (a : α) : Moves f ls inside inside (Pure.pure a) := fun _ hs => .pure hs

theorem fault {x : SyntaxFault} (hx : x.found? = none) :
    Moves f ls inside inside' (Parser.fault x : Parser α) := fun _ _ => .fault hx

theorem bind {k : α → Parser β} (h : Moves f ls inside inside' p)
    (hk : ∀ a, Moves f ls inside' inside'' (k a)) : Moves f ls inside inside'' (p >>= k) :=
  fun s hs => (h s hs).bind fun a => hk a

theorem map (h : Moves f ls inside inside' p) (g : α → β) :
    Moves f ls inside inside' (p >>= fun a => Pure.pure (g a)) := h.bind fun a => pure (g a)

theorem ite {c : Prop} [Decidable c] (ht : c → Moves f ls inside inside' p)
    (he : ¬c → Moves f ls inside inside' q) :
    Moves f ls inside inside' (if c then p else q) := by
  split_ifs with h
  · exact ht h
  · exact he h

theorem peek {k : Option Token → Parser β} (h : ∀ got, Moves f ls inside inside' (k got)) :
    Moves f ls inside inside' (Parser.peek >>= k) := fun s hs => .peek hs (h _ s hs)

end Moves

/-- A parser that takes the next token and gives something, or refuses the token by its name. -/
theorem moves_next {k : Option Token → Parser α}
    (hnone : ∃ x, k none = fault x ∧ x.found? = none)
    (hsome : ∀ t : Token, (t.leadsInside = inside' ∧ ∃ a, k (some t) = Pure.pure a) ∨
      ∃ x, k (some t) = fault x ∧ x.found? = some t) :
    Moves f ls true inside' (next >>= k) := by
  refine fun s hs => .next hs (fun _ => ?_) fun t s' _ hwithin => ?_
  · obtain ⟨x, hk, hx⟩ := hnone
    exact hk ▸ .fault hx
  · obtain ⟨ht, a, hk⟩ | h := hsome t
    · exact .inl (hk ▸ .pure (ht ▸ hwithin))
    · exact .inr ⟨rfl, h⟩

theorem moves_expect (t : Token) : Moves f ls true t.leadsInside (expect t) := by
  refine moves_next ⟨_, if_neg nofun, rfl⟩ fun u => ?_
  by_cases hu : some u = some t
  · exact .inl ⟨congrArg Token.leadsInside (Option.some.inj hu), (), if_pos hu⟩
  · exact .inr ⟨_, if_neg hu, rfl⟩

theorem moves_ident (role : NameRole) : Moves f ls true true (ident role) := by
  refine moves_next ⟨_, rfl, rfl⟩ fun u => ?_
  cases u with
  | ident x => exact .inl ⟨rfl, x, rfl⟩
  | _ => exact .inr ⟨_, rfl, rfl⟩

theorem moves_testName : Moves f ls true true testName := by
  refine moves_next ⟨_, rfl, rfl⟩ fun u => ?_
  split
  iterate 5
    next h =>
      cases h
      exact .inl ⟨rfl, _, rfl⟩
  · exact .inr ⟨_, rfl, rfl⟩

theorem moves_eat (ht : t.leadsInside = true) : Moves f ls true true (eat t) := by
  refine fun s hs => .peek hs (.ite (fun h => ?_) fun _ => .pure hs)
  exact .next_of hs h fun s' _ hwithin => .pure (ht ▸ hwithin)

/-! ### Operators -/

/-- No operator ends a tag. -/
theorem operators_of_leadsInside {t : Token} (h : t.leadsInside = false) :
    productOp? t = none ∧ joinOp? t = none ∧ sumOp? t = none ∧ comparisonOp? t = none ∧
      andOp? t = none ∧ orOp? t = none := by
  cases t with
  | text | varEnd | blockEnd => exact ⟨rfl, rfl, rfl, rfl, rfl, rfl⟩
  | _ => cases h

section

variable {op? : Token → Option (Expr → Expr → Expr)}
  (hop : ∀ t, t.leadsInside = false → op? t = none) {operand : Parser Expr}
  (ho : Moves f ls true true operand)

include hop ho

theorem moves_leftAssocTurn {again : Expr → Parser Expr}
    (ha : ∀ e, Moves f ls true true (again e)) (left : Expr) :
    Moves f ls true true (leftAssocTurn op? operand again left) := by
  refine fun s hs => .peek hs ?_
  cases hbuild : (s.ahead 0).bind op? with
  | none => exact .pure hs
  | some build =>
    obtain ⟨t, ht, hb⟩ := Option.bind_eq_some_iff.1 hbuild
    have hinside : t.leadsInside = true :=
      Bool.eq_true_of_not_eq_false fun h => nomatch hb.symm.trans (hop t h)
    refine .next_of hs ht fun s' _ hs' => ?_
    rw [hinside] at hs'
    exact ho.bind (fun right => ha _) s' hs'

theorem moves_leftAssoc (fuel : Nat) : Moves f ls true true (leftAssoc op? operand fuel) := by
  refine ho.bind fun left => ?_
  induction fuel generalizing left with
  | zero => exact .fault rfl
  | succ fuel ih => exact moves_leftAssocTurn hop ho ih left

end

/-! ### Expressions -/

theorem moves_itemsUntil {close : Sign} {item : Parser α} (hi : Moves f ls true true item)
    (fuel : Nat) : Moves f ls true true (itemsUntil close item fuel) := by
  induction fuel with
  | zero => exact .fault rfl
  | succ fuel ih =>
    refine .peek fun _ => .ite (fun _ => (moves_expect _).bind fun _ => .pure _) fun _ => ?_
    refine hi.bind fun first => (moves_eat rfl).bind fun _ => .ite (fun _ => ih.map _) fun _ => ?_
    exact (moves_expect _).bind fun _ => .pure _

section

variable {expr : Parser Expr} (he : Moves f ls true true expr)

include he

theorem moves_pair : Moves f ls true true (pair expr) :=
  he.bind fun _ => (moves_expect _).bind fun _ => he.map _

theorem moves_argument (seen : Bool) : Moves f ls true true (argument expr seen) := by
  refine fun s hs => .peek hs (.peekAt hs 1 ?_)
  split
  · next key h₀ h₁ =>
    refine .next_of hs h₀ fun s₁ hb hs₁ => ?_
    exact .next_of hs₁ ((hb.ahead_eq 0).trans h₁) fun s₂ _ hs₂ => he.map _ s₂ hs₂
  · exact .ite (fun _ => .fault rfl) fun _ => he.map _ s hs

theorem moves_argumentsUntil (fuel : Nat) (seen : Bool) :
    Moves f ls true true (argumentsUntil expr fuel seen) := by
  induction fuel generalizing seen with
  | zero => exact .fault rfl
  | succ fuel ih =>
    refine .peek fun _ => .ite (fun _ => (moves_expect _).bind fun _ => .pure _) fun _ => ?_
    refine (moves_argument he seen).bind fun arg => ?_
    refine (moves_eat rfl).bind fun more => ?_
    cases more with
    | false => cases arg <;> exact (moves_expect _).bind fun _ => .pure _
    | true => cases arg <;> exact (ih _).bind fun _ => .pure _

theorem moves_arguments (fuel : Nat) : Moves f ls true true (arguments expr fuel) :=
  (moves_expect _).bind fun _ => moves_argumentsUntil he fuel false

theorem moves_primary (fuel : Nat) : Moves f ls true true (primary expr fuel) := by
  refine fun s hs => .next hs (fun _ => .fault rfl) fun t s' _ hs' => ?_
  cases t with
  | str | int | float | ident => exact .inl (.pure hs')
  | keyword word =>
    cases word with
    | trueWord | falseWord | noneWord => exact .inl (.pure hs')
    | _ => exact .inr ⟨rfl, _, rfl, rfl⟩
  | sign sign =>
    cases sign with
    | lParen =>
      refine .inl (he.bind (fun first => (moves_eat rfl).bind fun _ => ?_) s' hs')
      refine .ite (fun _ => ?_) fun _ => ?_
      · exact (moves_itemsUntil he fuel).map _
      · exact (moves_expect _).bind fun _ => .pure _
    | lBracket => exact .inl ((moves_itemsUntil he fuel).map _ s' hs')
    | lBrace => exact .inl ((moves_itemsUntil (moves_pair he) fuel).map _ s' hs')
    | _ => exact .inr ⟨rfl, _, rfl, rfl⟩
  | _ => exact .inr ⟨rfl, _, rfl, rfl⟩

theorem moves_suffixesTurn {again : Expr → Parser Expr}
    (ha : ∀ e, Moves f ls true true (again e)) (base : Expr) :
    Moves f ls true true (suffixesTurn expr again base) := by
  refine fun s hs => .peek hs ?_
  split
  · next h =>
    refine .next_of hs h fun s₁ _ hs₁ => .next hs₁ (fun _ => .fault rfl) fun t s₂ _ hs₂ => ?_
    split
    iterate 2
      next h =>
        cases h
        exact .inl (ha _ s₂ hs₂)
    · exact .inr ⟨rfl, _, rfl, rfl⟩
  · next h =>
    refine .next_of hs h fun s₁ _ hs₁ => he.bind (fun subscript => ?_) s₁ hs₁
    exact (moves_expect _).bind fun _ => ha _
  · exact .fault rfl
  · exact .pure hs

theorem moves_suffixed (fuel : Nat) : Moves f ls true true (suffixed expr fuel) := by
  have hsuffixes : ∀ n base, Moves f ls true true (suffixesOf expr n base) := by
    intro n
    induction n with
    | zero => exact fun _ => .fault rfl
    | succ n ih => exact moves_suffixesTurn he ih
  exact (moves_primary he fuel).bind (hsuffixes fuel)

theorem moves_signed (loops fuel : Nat) : Moves f ls true true (signed expr loops fuel) := by
  induction fuel with
  | zero => exact .fault rfl
  | succ fuel ih =>
    refine fun s hs => .peek hs ?_
    split
    · next h => exact .next_of hs h fun s' _ hs' => ih.map _ s' hs'
    · next h => exact .next_of hs h fun s' _ hs' => ih.map _ s' hs'
    · exact moves_suffixed he loops s hs

theorem moves_filtersTurn (loops : Nat) {again : Expr → Parser Expr}
    (ha : ∀ e, Moves f ls true true (again e)) (subject : Expr) :
    Moves f ls true true (filtersTurn expr loops again subject) := by
  refine (moves_eat rfl).bind fun _ => .ite (fun _ => ?_) fun _ => .pure subject
  refine (moves_ident _).bind fun name => .peek fun _ => .ite (fun _ => ?_) fun _ => ha _
  exact (moves_arguments he loops).bind fun args => ha _

theorem moves_filtered (fuel : Nat) : Moves f ls true true (filtered expr fuel) := by
  have hfilters : ∀ n subject, Moves f ls true true (filtersOf expr fuel n subject) := by
    intro n
    induction n with
    | zero => exact fun _ => .fault rfl
    | succ n ih => exact moves_filtersTurn he fuel ih
  exact (moves_signed he fuel fuel).bind (hfilters fuel)

theorem moves_sum (fuel : Nat) : Moves f ls true true (Parser.sum expr fuel) :=
  moves_leftAssoc (fun _ h => (operators_of_leadsInside h).2.2.1)
    (moves_leftAssoc (fun _ h => (operators_of_leadsInside h).2.1)
      (moves_leftAssoc (fun _ h => (operators_of_leadsInside h).1) (moves_filtered he fuel) fuel)
      fuel) fuel

theorem moves_test (fuel : Nat) (subject : Expr) :
    Moves f ls true true (test expr fuel subject) := by
  refine (moves_eat rfl).bind fun negated => moves_testName.bind fun name => fun s hs => .peek hs ?_
  split
  · exact (moves_arguments he fuel).map _ s hs
  iterate 3
    next h => exact .next_of hs h fun _ _ hs' => .pure hs'
  · exact .pure hs

theorem moves_comparisonsTurn (loops : Nat) {again : Expr → Parser Expr}
    (ha : ∀ e, Moves f ls true true (again e)) (left : Expr) :
    Moves f ls true true (comparisonsTurn expr loops again left) := by
  refine fun s hs => .peek hs ?_
  split
  · next h =>
    refine .next_of hs h fun s' _ hs' => ?_
    exact (moves_test he loops left).bind (fun e => ha e) s' hs'
  · next h =>
    refine .peekAt hs 1 (.ite (fun h₁ => ?_) fun _ => .pure hs)
    refine .next_of hs h fun s₁ hb hs₁ => .next_of hs₁ ((hb.ahead_eq 0).trans h₁) fun s₂ _ hs₂ => ?_
    exact (moves_sum he loops).bind (fun right => ha _) s₂ hs₂
  · cases hop : (s.ahead 0).bind comparisonOp? with
    | none => exact .pure hs
    | some op =>
      obtain ⟨t, ht, hb⟩ := Option.bind_eq_some_iff.1 hop
      have hinside : t.leadsInside = true := Bool.eq_true_of_not_eq_false fun h =>
        nomatch hb.symm.trans (operators_of_leadsInside h).2.2.2.1
      refine .next_of hs ht fun s' _ hs' => ?_
      rw [hinside] at hs'
      exact (moves_sum he loops).bind (fun right => ha _) s' hs'

theorem moves_comparison (fuel : Nat) : Moves f ls true true (comparison expr fuel) := by
  have hcomparisons : ∀ n left, Moves f ls true true (comparisonsOf expr fuel n left) := by
    intro n
    induction n with
    | zero => exact fun _ => .fault rfl
    | succ n ih => exact moves_comparisonsTurn he fuel ih
  exact (moves_sum he fuel).bind (hcomparisons fuel)

theorem moves_negation (loops fuel : Nat) : Moves f ls true true (negation expr loops fuel) := by
  induction fuel with
  | zero => exact .fault rfl
  | succ fuel ih =>
    refine (moves_eat rfl).bind fun _ => .ite (fun _ => ih.map _) fun _ => ?_
    exact moves_comparison he loops

theorem moves_disjunction (fuel : Nat) : Moves f ls true true (disjunction expr fuel) :=
  moves_leftAssoc (fun _ h => (operators_of_leadsInside h).2.2.2.2.2)
    (moves_leftAssoc (fun _ h => (operators_of_leadsInside h).2.2.2.2.1)
      (moves_negation he fuel fuel) fuel) fuel

/-- **One level of the nesting of expressions,** from the brackets inside to the whole. -/
theorem moves_conditional (fuel : Nat) :
    Moves f ls true true (Parser.conditional expr fuel) := by
  refine (moves_disjunction he fuel).bind fun value => (moves_eat rfl).bind fun _ => ?_
  refine .ite (fun _ => ?_) fun _ => .pure value
  refine (moves_disjunction he fuel).bind fun condition => (moves_eat rfl).bind fun _ => ?_
  exact .ite (fun _ => he.map _) fun _ => .pure _

end

/-- **An expression starts and ends inside the tag,** and its errors blame tokens of the tag. -/
theorem moves_expression (fuel : Nat) : Moves f ls true true (expression fuel) := by
  induction fuel with
  | zero => exact .fault rfl
  | succ fuel ih => exact moves_conditional ih fuel

end Parser
end MailMerge
