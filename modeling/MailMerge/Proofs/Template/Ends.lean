/-
# Reading templates ends

Every call for a token ends and moves on in the text, so a scan ends; every turn of the parser
that goes on has taken a token, so the parser ends (`Template.reading_ends`).  The turns of the
parser are those of its loops and the two cycles of the grammar, nodes within nodes and
expressions within expressions (`Parser.TurnsAdvance`).
-/

import MailMerge.Proofs.Template.Calls
import MailMerge.Proofs.Template.Turns

namespace MailMerge
namespace Parser

variable {α β : Type} {k n n' : Nat} {s : TokenStream}

/-! ### Statements -/

/-- Any token. -/
def anyToken : Token → Prop := fun _ => True

theorem anyToken_of_isInner (t : Token) (_ : t.isInner = true) : anyToken t := trivial

theorem agree_next (s : TokenStream) : Agree anyToken s next next := by
  intro hs
  refine ⟨rfl, ?_⟩
  obtain ⟨t, s', -, hbegins, hnext⟩ | ⟨-, ⟨e, he, hnext⟩ | hnext⟩ := next_cases s
  · exact hnext ▸ .ok (hbegins.leaves trivial)
  · exact hnext ▸ .error (hs e he)
  · exact hnext ▸ .ok (.refl s)

theorem agree_atTag (word : Keyword) (s : TokenStream) :
    Agree anyToken s (atTag word) (atTag word) :=
  .peek (.ite (fun _ => .peekAt 1 (.pure _)) fun _ => .pure _)

section

variable {body body' : Parser Template} (hb : AgreeBelow anyToken k body body')
  (hn : k < n) (hn' : k < n')

include hb hn hn'

theorem agree_loop : AgreeBelow anyToken (k + 1) (loop body n) (loop body' n') := by
  have hclose : ∀ (node : Node) s, Agree anyToken s
      (expect .blockStart >>= fun _ => expect (.keyword .endForTag) >>= fun _ =>
        expect .blockEnd >>= fun _ => Pure.pure node)
      (expect .blockStart >>= fun _ => expect (.keyword .endForTag) >>= fun _ =>
        expect .blockEnd >>= fun _ => Pure.pure node) := fun node _ =>
    .expect trivial fun _ _ => .expect trivial fun _ _ => .expect trivial fun _ _ => .pure node
  have he : AgreeBelow anyToken k (expression n) (expression n') :=
    agree_expression anyToken_of_isInner hn hn'
  intro s hs
  refine .expect trivial fun s₁ h₁ => .ident _ (fun _ => trivial) fun first s₂ h₂ => ?_
  refine (agree_targetsOf anyToken_of_isInner hn hn' s₂ (by omega)).bind fun others s₃ h₃ => ?_
  refine .expect trivial fun s₄ h₄ => ?_
  refine (agree_disjunction anyToken_of_isInner he hn hn' s₄ (by omega)).bind
    fun sequence s₅ h₅ => ?_
  refine .expect trivial fun s₆ h₆ => (hb s₆ (by omega)).bind fun nodes s₇ h₇ => ?_
  refine (agree_atTag .elseTag s₇).bind fun isElse s₈ h₈ => .ite (fun _ => ?_) fun _ => ?_
  · refine (agree_next s₈).bind fun _ s₉ h₉ => (agree_next s₉).bind fun _ t₁ g₁ => ?_
    refine .expect trivial fun t₂ g₂ => (hb t₂ (by omega)).bind fun otherwise t₃ _ => ?_
    exact hclose _ t₃
  · exact hclose _ s₈

theorem agree_casesTurn {again again' : Parser (List (Expr × Template) × Option Template)}
    (ha : AgreeBelow anyToken k again again') :
    AgreeBelow anyToken (k + 1) (casesTurn body n again) (casesTurn body' n' again') := by
  intro s hs
  unfold casesTurn
  refine .peek ?_
  split
  · next h₀ =>
    refine .peekAt 1 ?_
    split
    · next h₁ =>
      refine .next_of h₀ trivial fun s₁ hs₁ hahead => .next_of ((hahead 0).trans h₁) trivial
        fun s₂ hs₂ _ => ?_
      refine (agree_expression anyToken_of_isInner hn hn' s₂ (by omega)).bind
        fun condition s₃ hs₃ => ?_
      refine .expect trivial fun s₄ hs₄ => (hb s₄ (by omega)).bind fun nodes s₅ hs₅ => ?_
      exact (ha s₅ (by omega)).map _
    · next h₁ =>
      refine .next_of h₀ trivial fun s₁ hs₁ hahead => .next_of ((hahead 0).trans h₁) trivial
        fun s₂ hs₂ _ => ?_
      refine .expect trivial fun s₃ hs₃ => (hb s₃ (by omega)).bind fun nodes s₄ hs₄ => ?_
      exact .expect trivial fun _ _ => .expect trivial fun _ _ => .expect trivial fun _ _ =>
        .pure _
    · next h₁ =>
      refine .next_of h₀ trivial fun s₁ hs₁ hahead => .next_of ((hahead 0).trans h₁) trivial
        fun s₂ hs₂ _ => ?_
      exact .expect trivial fun _ _ => .pure _
    · exact .fault nofun
  · exact .fault nofun
  · exact .fault nofun

theorem agree_branch : AgreeBelow anyToken (k + 1) (branch body n) (branch body' n') := by
  have hcases : AgreeBelow anyToken (k + 1) (casesOf body n n) (casesOf body' n' n') :=
    .loop_unit (fun _ => rfl) (fun _ => rfl) (fun j hj _ _ ha =>
      agree_casesTurn (fun s hs => hb s (by omega)) (by omega) (by omega) ha) hn hn'
  intro s hs
  refine .expect trivial fun s₁ h₁ => ?_
  refine (agree_expression anyToken_of_isInner hn hn' s₁ (by omega)).bind fun condition s₂ h₂ => ?_
  refine .expect trivial fun s₃ h₃ => (hb s₃ (by omega)).bind fun nodes s₄ h₄ => ?_
  exact (hcases s₄ (by omega)).map _

theorem agree_block : AgreeBelow anyToken (k + 1) (block body n) (block body' n') := by
  intro s hs
  unfold block
  refine .peek ?_
  split
  · exact agree_loop hb hn hn' s hs
  · exact agree_branch hb hn hn' s hs
  · exact agree_assignment anyToken_of_isInner hn hn' s hs
  · exact .fault nofun
  · exact .fault nofun

theorem agree_nodesTurn : AgreeBelow anyToken (k + 1) (nodesTurn n body) (nodesTurn n' body') := by
  intro s hs
  unfold nodesTurn
  refine .peek ?_
  split
  · exact .pure []
  · next h => exact .next_of h trivial fun s' hs' _ => (hb s' (by omega)).map _
  · next h =>
    refine .next_of h trivial fun s₁ h₁ _ => ?_
    refine (agree_expression anyToken_of_isInner hn hn' s₁ (by omega)).bind fun e s₂ h₂ => ?_
    exact .expect trivial fun s₃ h₃ => (hb s₃ (by omega)).map _
  · next h =>
    refine .peekAt 1 (.ite (fun _ => .pure []) fun _ => .next_of h trivial fun s₁ h₁ _ => ?_)
    refine (agree_block hb hn hn' s₁ (by omega)).bind fun node s₂ h₂ => ?_
    exact (hb s₂ (by omega)).map _
  · exact .fault nofun

end

/-- **Nodes are the same for any number of steps above the number of tokens.** -/
theorem agree_nodes (hn : k < n) (hn' : k < n') :
    AgreeBelow anyToken k (nodes n) (nodes n') := by
  induction k generalizing n n' with
  | zero => exact fun s hs => absurd hs (Nat.not_lt_zero _)
  | succ k ih =>
    obtain ⟨n, rfl⟩ := Nat.exists_eq_add_one.2 (Nat.zero_lt_of_lt hn)
    obtain ⟨n', rfl⟩ := Nat.exists_eq_add_one.2 (Nat.zero_lt_of_lt hn')
    have hn := Nat.lt_of_succ_lt_succ hn
    have hn' := Nat.lt_of_succ_lt_succ hn'
    exact agree_nodesTurn (ih hn hn') hn hn'

theorem agree_template (hn : k < n) (hn' : k < n') :
    AgreeBelow anyToken k (template n) (template n') := by
  intro s hs
  refine (agree_nodes hn hn' s hs).bind fun parsed s' _ => .peekAt 1 ?_
  split
  · exact .pure parsed
  · exact .fault nofun

/-! ### Every turn that goes on has taken a token -/

/-- A turn that only goes on behind a token: on streams of up to `m` tokens, parsers to go on
with that agree on the streams of fewer than `k` tokens make turns that agree on those of `k`
tokens. -/
def Advances (m : Nat) (turn : (α → Parser β) → α → Parser β) : Prop :=
  ∀ k ≤ m, ∀ again again' : α → Parser β,
    (∀ a, AgreeBelow anyToken k (again a) (again' a)) →
    ∀ a, AgreeBelow anyToken (k + 1) (turn again a) (turn again' a)

/-- A turn that is told nothing, as a turn. -/
def unitTurn (turn : Parser β → Parser β) (again : Unit → Parser β) (_ : Unit) : Parser β :=
  turn (again ())

/-- Whatever goes round in the parser only goes on behind a token, on streams of up to `m`
tokens and with `n` steps: the loops, negations and signs within one another, expressions
within expressions, and nodes within nodes. -/
structure TurnsAdvance (m n : Nat) : Prop where
  products : Advances m (leftAssocTurn productOp? (filtered (expression n) n))
  joins : Advances m (leftAssocTurn joinOp? (leftAssoc productOp? (filtered (expression n) n) n))
  sums : Advances m (leftAssocTurn sumOp?
    (leftAssoc joinOp? (leftAssoc productOp? (filtered (expression n) n) n) n))
  conjunctions : Advances m (leftAssocTurn andOp? (negation (expression n) n n))
  disjunctions : Advances m (leftAssocTurn orOp?
    (leftAssoc andOp? (negation (expression n) n n) n))
  items : ∀ close, Advances m (unitTurn (itemsTurn close (expression n)))
  pairs : ∀ close, Advances m (unitTurn (itemsTurn close (pair (expression n))))
  arguments : Advances m (argumentsTurn (expression n))
  suffixes : Advances m (suffixesTurn (expression n))
  signs : Advances m (unitTurn (signedTurn (expression n) n))
  filters : Advances m (filtersTurn (expression n) n)
  comparisons : Advances m (comparisonsTurn (expression n) n)
  negations : Advances m (unitTurn (negationTurn (expression n) n))
  expressions : Advances m (unitTurn fun again => Parser.conditional again n)
  targets : Advances m (unitTurn targetsTurn)
  cases : Advances m (unitTurn (casesTurn (nodes n) n))
  nodes : Advances m (unitTurn (nodesTurn n))

theorem advances_leftAssocTurn {m : Nat} {op? : Token → Option (Expr → Expr → Expr)}
    (hop : ∀ t, (op? t).isSome → t.isInner = true) {operand : Parser Expr}
    (ho : AgreeBelow anyToken m operand operand) : Advances m (leftAssocTurn op? operand) :=
  fun _ hk _ _ ha left => agree_leftAssocTurn anyToken_of_isInner hop (ho.mono hk) ha left

/-- **Every turn that goes on has taken a token.** -/
theorem turnsAdvance {m n : Nat} (h : m + 1 < n) : TurnsAdvance m n := by
  have hP := anyToken_of_isInner
  have he : ∀ {k}, k ≤ m + 1 → AgreeBelow anyToken k (expression n) (expression n) :=
    fun hk => agree_expression hP (by omega) (by omega)
  have hn : ∀ {k}, k ≤ m → k < n := fun hk => by omega
  have hm : AgreeBelow anyToken m (expression n) (expression n) := he m.le_succ
  have hmn : m < n := hn (Nat.le_refl m)
  exact {
    products := advances_leftAssocTurn isInner_of_productOp?
      ((agree_filtered hP hm hmn hmn).mono m.le_succ)
    joins := advances_leftAssocTurn isInner_of_joinOp?
      ((agree_product hP hm hmn hmn).mono m.le_succ)
    sums := advances_leftAssocTurn isInner_of_sumOp? ((agree_join hP hm hmn hmn).mono m.le_succ)
    conjunctions := advances_leftAssocTurn isInner_of_andOp?
      ((agree_negation hP hm hmn hmn hmn hmn).mono m.le_succ)
    disjunctions := advances_leftAssocTurn isInner_of_orOp?
      ((agree_conjunction hP hm hmn hmn).mono m.le_succ)
    items := fun close _ hk _ _ ha _ => agree_itemsTurn hP close (he (Nat.succ_le_succ hk)) (ha ())
    pairs := fun close _ hk _ _ ha _ =>
      agree_itemsTurn hP close (agree_pair hP (he (Nat.succ_le_succ hk))) (ha ())
    arguments := fun _ hk _ _ ha => agree_argumentsTurn hP (he (Nat.succ_le_succ hk)) ha
    suffixes := fun _ hk _ _ ha => agree_suffixesTurn hP (hm.mono hk) ha
    signs := fun _ hk _ _ ha _ => agree_signedTurn hP (hm.mono hk) (hn hk) (hn hk) (ha ())
    filters := fun _ hk _ _ ha => agree_filtersTurn hP (hm.mono hk) (Nat.le_of_lt (hn hk))
      (Nat.le_of_lt (hn hk)) ha
    comparisons := fun _ hk _ _ ha => agree_comparisonsTurn hP (hm.mono hk) (hn hk) (hn hk) ha
    negations := fun _ hk _ _ ha _ => agree_negationTurn hP (hm.mono hk) (hn hk) (hn hk) (ha ())
    expressions := fun _ hk _ _ ha _ => agree_conditional hP (ha ()) (hn hk) (hn hk)
    targets := fun _ _ _ _ ha _ => agree_targetsTurn hP (ha ())
    cases := fun _ hk _ _ ha _ =>
      agree_casesTurn (agree_nodes (hn hk) (hn hk)) (hn hk) (hn hk) (ha ())
    nodes := fun _ hk _ _ ha _ => agree_nodesTurn (ha ()) (hn hk) (hn hk) }

end Parser

namespace Template

variable {d : Delimiters} {w : Whitespace} {source : List Char}

/-- The tokens of a source, in front of a parser. -/
def stream (d : Delimiters) (w : Whitespace) (source : List Char) : TokenStream :=
  ⟨(Lexer.scan d w source).lexemes, (Lexer.scan d w source).error?, 1⟩

theorem agree_stream (d : Delimiters) (w : Whitespace) (source : List Char) {n n' : Nat}
    (hn : (stream d w source).size + 1 < n)
    (hn' : (stream d w source).size + 1 < n') :
    Parser.template n (stream d w source) = Parser.template n' (stream d w source) ∧
      Parser.Ends Parser.anyToken (stream d w source) (Parser.template n (stream d w source)) :=
  Parser.agree_template hn hn' _ (Nat.lt_succ_self _) fun _ he => Lexer.error_scan he

/-- **Reading templates ends,** for every text.  Each call for a token has one end: the end of
the text, an error, or a token that leaves the lexer at a later place.  The scan is the chain
of these calls, of which there are no more than the text has bytes.  Whatever goes round in the
parser takes a token before it goes on, so the parser gives a template or an error of syntax,
and however many steps more make no difference. -/
theorem reading_ends (hd : d.Present) (w : Whitespace) (source : List Char) :
    (∀ l : Lexer, ∃! s, Lexer.Call d w l s ∧ s.Settles l.cursor) ∧
    Lexer.Calls d w { cursor := { rest := source } } (Lexer.scan d w source) ∧
    (Lexer.scan d w source).lexemes.length ≤ (String.ofList source).utf8ByteSize ∧
    (∀ m n, m + 1 < n → Parser.TurnsAdvance m n) ∧
    ((∃ t, ofSource d w source = .ok t) ∨
      ∃ e, ofSource d w source = .error e ∧ e.fault ≠ .outOfSteps) ∧
    ∀ n, (stream d w source).size + 1 < n →
      ((Parser.template n).run (stream d w source)).map Prod.fst = ofSource d w source := by
  refine ⟨fun l => ?_, Lexer.calls_scan hd w source, ?_, fun m n => Parser.turnsAdvance, ?_,
    fun n hn => ?_⟩
  · obtain ⟨s, hs⟩ := Lexer.exists_call hd w l
    exact ⟨s, ⟨hs, hs.settles hd⟩, fun s' hs' => hs'.1.unique hs⟩
  · exact ((Lexer.calls_scan hd w source).length_le hd).trans
      (Lexer.length_le_utf8ByteSize source)
  · have hends := (agree_stream d w source (n := (stream d w source).size + 3) (by omega)
      (Nat.lt_succ_self _)).2
    have hsource : ofSource d w source = (Parser.template ((stream d w source).size + 3)
      (stream d w source)).map Prod.fst := rfl
    rw [hsource]
    generalize Parser.template _ (stream d w source) = r at hends
    cases hends with
    | error he => exact .inr ⟨_, rfl, he⟩
    | ok => exact .inl ⟨_, rfl⟩
  · exact congrArg (Except.map Prod.fst) (agree_stream d w source hn
      (Nat.lt_add_of_pos_right Nat.two_pos)).1

/-- A block that is not closed, and a tag that breaks off in front of the name of a filter. -/
theorem reading_ends_truncated :
    let source := "\x7b% if x %\x7d\x7b\x7b a | ".toList
    ({} : Delimiters).Present ∧
      Lexer.Calls {} {} { cursor := { rest := source } } (Lexer.scan {} {} source) ∧
      (Lexer.scan {} {} source).lexemes.length = 7 ∧
      ∃ e, ofSource {} {} source = .error e ∧ e.fault ≠ .outOfSteps := by
  intro source
  have hd : ({} : Delimiters).Present := by decide
  obtain ⟨-, hcalls, -, -, hends, -⟩ := reading_ends hd {} source
  refine ⟨hd, hcalls, by decide +kernel, ?_⟩
  obtain ⟨t, ht⟩ | herror := hends
  · have hnone : (ofSource {} {} source).toOption.isNone = true := by decide +kernel
    rw [ht] at hnone
    cases hnone
  · exact herror

end Template
end MailMerge
