/-
# The line of a syntax error

When a template is refused because a token stands in place of another one, that token is the one
taken last, it stands inside a tag, and the error has the line on which the lexer was when the
token was asked for (`Template.line_of_found`).  The blanks in front of the token are passed over
after that, so the error is short of the line of the token by the line breaks among them.

Tags lead out of the text and back; lists of nodes stop at the end or in front of a tag
(`Parser.Stops`), which is why nothing but the start of a tag is found where one is expected.
-/

import MailMerge.Proofs.Template.Blame

namespace MailMerge

/-- The fault reads: expected something, got the token. -/
def SyntaxFault.Names (x : SyntaxFault) (t : Token) : Prop :=
  ∃ wanted got, x.message = "expected " ++ wanted ++ ", got " ++ got ∧
    (got = t.name ∨ got = Token.nameOption (some t))

theorem SyntaxFault.names_of_found {x : SyntaxFault} {t : Token} (h : x.found? = some t) :
    x.Names t := by
  have hliteral : "expected identifier for " = "expected " ++ "identifier for " ∧
      "expected test name, got " = "expected " ++ "test name" ++ ", got " ∧
      "expected identifier after dot, got " = "expected " ++ "identifier after dot" ++ ", got " ∧
      "expected expression, got " = "expected " ++ "expression" ++ ", got " := by
    decide
  obtain ⟨hrole, htest, hattribute, hexpression⟩ := hliteral
  cases x with
  | expected wanted got =>
    obtain rfl : got = some t := h
    exact ⟨wanted.name, t.name, by dsimp only [message], .inl rfl⟩
  | expectedIdentifier role got =>
    obtain rfl : got = some t := h
    refine ⟨"identifier for " ++ role.name, Token.nameOption (some t), ?_, .inr rfl⟩
    dsimp only [message]
    rw [hrole, ← String.append_assoc]
  | expectedTestName got =>
    obtain rfl : got = some t := h
    refine ⟨"test name", Token.nameOption (some t), ?_, .inr rfl⟩
    dsimp only [message]
    rw [htest]
  | expectedAttribute got =>
    obtain rfl : got = some t := h
    refine ⟨"identifier after dot", Token.nameOption (some t), ?_, .inr rfl⟩
    dsimp only [message]
    rw [hattribute]
  | expectedExpression got =>
    obtain rfl : got = some t := h
    refine ⟨"expression", Token.nameOption (some t), ?_, .inr rfl⟩
    dsimp only [message]
    rw [hexpression]
  | _ => cases h

namespace Parser

variable {α β : Type} {f : Nat → Nat} {ls : List Lexeme} {s s' : TokenStream}

/-! ### Statements -/

/-- A stream outside tags that is at its end or in front of a tag. -/
structure AtTag (ls : List Lexeme) (s : TokenStream) : Prop where
  within : s.Within ls false
  first : s.ahead 0 = none ∨ s.ahead 0 = some .blockStart

/-- A parser of nodes that reports outside tags and stops at the end or in front of a tag. -/
def Stops (f : Nat → Nat) (ls : List Lexeme) (body : Parser Template) : Prop :=
  ∀ s : TokenStream, s.Within ls false → Reports f ls s body fun _ s' => AtTag ls s'

theorem reports_blockStart (hs : AtTag ls s) :
    Reports f ls s (expect .blockStart) fun _ s' => s'.Within ls true := by
  refine .next hs.within (fun _ => .fault rfl) fun t s' hbegins hs' => .inl ?_
  obtain hnone | hstart := hs.first
  · cases hbegins.ahead_zero.symm.trans hnone
  · obtain rfl := Option.some.inj (hbegins.ahead_zero.symm.trans hstart)
    exact .pure hs'

/-- The tag that ends a block. -/
theorem reports_close (hs : AtTag ls s) (word : Keyword) (a : α) :
    Reports f ls s (expect .blockStart >>= fun _ => expect (.keyword word) >>= fun _ =>
      expect .blockEnd >>= fun _ => Pure.pure a) fun _ s' => s'.Within ls false :=
  (reports_blockStart hs).bind fun _ s' hs' =>
    (moves_expect _).bind (fun _ => (moves_expect _).bind fun _ => .pure a) s' hs'

theorem reports_atTag (hs : s.Within ls false) (word : Keyword) :
    Reports f ls s (atTag word) fun isTag s' => s' = s ∧
      (isTag = true → s.ahead 0 = some .blockStart ∧ s.ahead 1 = some (.keyword word)) :=
  .peek hs (.ite (fun h₀ => .peekAt hs 1 (.pure ⟨rfl, fun h₁ => ⟨h₀, of_decide_eq_true h₁⟩⟩))
    fun _ => .pure ⟨rfl, nofun⟩)

/-- The start of a tag that was seen before. -/
theorem reports_open {word : Keyword} {k : Option Token → Option Token → Parser β}
    {Q : β → TokenStream → Prop} (hs : s.Within ls false) (h₀ : s.ahead 0 = some .blockStart)
    (h₁ : s.ahead 1 = some (.keyword word))
    (h : ∀ s', s'.Within ls true →
      Reports f ls s' (k (some .blockStart) (some (.keyword word))) Q) :
    Reports f ls s (next >>= fun a => next >>= fun b => k a b) Q :=
  .next_of hs h₀ fun _ hb hs₁ => .next_of hs₁ ((hb.ahead_eq 0).trans h₁) fun s' _ hs' => h s' hs'

theorem moves_targetsOf (fuel : Nat) : Moves f ls true true (targetsOf fuel) := by
  induction fuel with
  | zero => exact .fault rfl
  | succ fuel ih =>
    refine (moves_eat rfl).bind fun _ => .ite (fun _ => ?_) fun _ => .pure []
    exact (moves_ident _).bind fun target => ih.map _

theorem moves_assignment (fuel : Nat) : Moves f ls true false (assignment fuel) :=
  (moves_expect _).bind fun _ => (moves_ident _).bind fun _ => (moves_expect _).bind fun _ =>
    (moves_expression fuel).bind fun _ => (moves_expect _).bind fun _ => .pure _

section

variable {body : Parser Template} (hb : Stops f ls body)

include hb

theorem moves_loop (fuel : Nat) : Moves f ls true false (loop body fuel) := by
  refine (moves_expect _).bind fun _ => (moves_ident _).bind fun first => ?_
  refine (moves_targetsOf fuel).bind fun others => (moves_expect _).bind fun _ => ?_
  refine (moves_disjunction (moves_expression fuel) fuel).bind fun iterable => ?_
  refine (moves_expect _).bind fun _ s hs => (hb s hs).bind fun nodes s₁ h₁ => ?_
  refine (reports_atTag h₁.within .elseTag).bind fun isElse s₂ h₂ => ?_
  obtain ⟨rfl, helse⟩ := h₂
  refine .ite (fun hisElse => ?_) fun _ => reports_close h₁ _ _
  obtain ⟨ha, hb'⟩ := helse hisElse
  refine reports_open h₁.within ha hb' fun s₃ hs₃ => (moves_expect _ s₃ hs₃).bind fun _ s₄ hs₄ => ?_
  exact (hb s₄ hs₄).bind fun otherwise s₅ h₅ => reports_close h₅ _ _

theorem moves_casesTurn (fuel : Nat) {again : Parser (List (Expr × Template) × Option Template)}
    (ha : Moves f ls false false again) :
    Moves f ls false false (casesTurn body fuel again) := by
  refine fun s hs => .peek hs ?_
  split
  · next h₀ =>
    refine .peekAt hs 1 ?_
    split
    · next h₁ =>
      refine reports_open hs h₀ h₁ fun s₁ hs₁ => (moves_expression fuel s₁ hs₁).bind
        fun condition s₂ hs₂ => (moves_expect _ s₂ hs₂).bind fun _ s₃ hs₃ => ?_
      exact (hb s₃ hs₃).bind fun nodes s₄ h₄ => ha.map _ s₄ h₄.within
    · next h₁ =>
      refine reports_open hs h₀ h₁ fun s₁ hs₁ => (moves_expect _ s₁ hs₁).bind fun _ s₂ hs₂ => ?_
      exact (hb s₂ hs₂).bind fun nodes s₃ h₃ => reports_close h₃ _ _
    · next h₁ =>
      refine reports_open hs h₀ h₁ fun s₁ hs₁ => (moves_expect _ s₁ hs₁).bind fun _ s₂ hs₂ => ?_
      exact .pure hs₂
    · exact .fault rfl
  · exact .fault rfl
  · exact .fault rfl

theorem moves_branch (fuel : Nat) : Moves f ls true false (branch body fuel) := by
  have hcases : ∀ n, Moves f ls false false (casesOf body fuel n) := by
    intro n
    induction n with
    | zero => exact .fault rfl
    | succ n ih => exact moves_casesTurn hb fuel ih
  refine (moves_expect _).bind fun _ => (moves_expression fuel).bind fun condition => ?_
  refine (moves_expect _).bind fun _ s hs => (hb s hs).bind fun nodes s₁ h₁ => ?_
  exact (hcases fuel).map _ s₁ h₁.within

theorem moves_block (fuel : Nat) : Moves f ls true false (block body fuel) := by
  refine fun s hs => .peek hs ?_
  split
  · exact moves_loop hb fuel s hs
  · exact moves_branch hb fuel s hs
  · exact moves_assignment fuel s hs
  · exact .fault rfl
  · exact .fault rfl

theorem stops_nodesTurn (fuel : Nat) : Stops f ls (nodesTurn fuel body) := by
  refine fun s hs => .peek hs ?_
  split
  · next h => exact .pure ⟨hs, .inl h⟩
  · next h => exact .next_of hs h fun s' _ hs' => (hb s' hs').bind fun _ _ h => .pure h
  · next h =>
    refine .next_of hs h fun s₁ _ hs₁ => (moves_expression fuel s₁ hs₁).bind fun e s₂ hs₂ => ?_
    exact (moves_expect _ s₂ hs₂).bind fun _ s₃ hs₃ => (hb s₃ hs₃).bind fun _ _ h => .pure h
  · next h =>
    refine .peekAt hs 1 (.ite (fun _ => .pure ⟨hs, .inr h⟩) fun _ => ?_)
    refine .next_of hs h fun s₁ _ hs₁ => (moves_block hb fuel s₁ hs₁).bind fun node s₂ hs₂ => ?_
    exact (hb s₂ hs₂).bind fun _ _ h => .pure h
  · exact .fault rfl

end

/-- **Nodes stop at the end or in front of a tag,** and their errors blame tokens of tags. -/
theorem stops_nodes (fuel : Nat) : Stops f ls (nodes fuel) := by
  induction fuel with
  | zero => exact fun _ _ => .fault rfl
  | succ fuel ih => exact stops_nodesTurn ih fuel

theorem reports_template (hs : s.Within ls false) (fuel : Nat) :
    Reports f ls s (template fuel) fun _ _ => True := by
  refine (stops_nodes fuel s hs).bind fun parsed s' h' => .peekAt h'.within 1 ?_
  split
  · exact .pure trivial
  · exact .fault rfl

end Parser

namespace Scan

/-- The tokens of a scan, with their numbers, counted from one, in place of their lines.  A fault
of the lexer has the number of the token that it comes in place of. -/
def numbered (scan : Scan) : TokenStream :=
  ⟨scan.lexemes.mapIdx fun i l => { l with lineBefore := i + 1 },
    scan.error?.map (SyntaxError.relabel fun _ => scan.lexemes.length + 1), 0⟩

/-- The line that stands for a number: in front of all tokens the first one. -/
def lineOf (scan : Scan) : Nat → Nat
  | 0 => 1
  | i + 1 =>
    match scan.lexemes[i]? with
    | some l => l.lineBefore
    | none => (scan.error?.map (·.line)).getD 0

theorem relabel_numbered (scan : Scan) :
    scan.numbered.relabel scan.lineOf = ⟨scan.lexemes, scan.error?, 1⟩ := by
  obtain ⟨lexemes, error?⟩ := scan
  have hlexemes : ((lexemes.mapIdx fun i l => { l with lineBefore := i + 1 }).map fun l =>
      { l with lineBefore := lineOf ⟨lexemes, error?⟩ l.lineBefore }) = lexemes := by
    refine List.ext_getElem? fun i => ?_
    rw [List.getElem?_map, List.getElem?_mapIdx]
    cases hl : lexemes[i]? with
    | none => rfl
    | some l =>
      have hline : lineOf ⟨lexemes, error?⟩ (i + 1) = l.lineBefore := by rw [lineOf, hl]
      exact congrArg some (congrArg (Lexeme.mk l.token · l.lineAfter) hline)
  have herror : (error?.map (SyntaxError.relabel fun _ => lexemes.length + 1)).map
      (SyntaxError.relabel (lineOf ⟨lexemes, error?⟩)) = error? := by
    cases error? with
    | none => rfl
    | some e =>
      have hend : lexemes[lexemes.length]? = none := List.getElem?_eq_none (Nat.le_refl _)
      have hline : lineOf ⟨lexemes, some e⟩ (lexemes.length + 1) = e.line := by
        rw [lineOf, hend]
        rfl
      exact congrArg some (congrArg (SyntaxError.mk · e.fault) hline)
  rw [numbered, TokenStream.relabel, hlexemes, herror]
  rfl

/-- What the parser makes of numbers in place of lines: the number of the token that it took last
when it failed, if it fails. -/
def lastTaken? (scan : Scan) : Option Nat :=
  match Parser.template (scan.lexemes.length + 3) scan.numbered with
  | .error e => some e.line
  | .ok _ => none

end Scan

namespace Template

variable {d : Delimiters} {w : Whitespace} {source : List Char} {e : SyntaxError} {t : Token}

theorem within_numbered (d : Delimiters) (w : Whitespace) (source : List Char) :
    (Lexer.scan d w source).numbered.Within (Lexer.scan d w source).numbered.lexemes false := by
  have htokens : (Lexer.scan d w source).numbered.lexemes.map (·.token) =
      (Lexer.scan d w source).lexemes.map (·.token) := by
    refine List.ext_getElem? fun i => ?_
    rw [Scan.numbered, List.getElem?_map, List.getElem?_map, List.getElem?_mapIdx, Option.map_map]
    rfl
  refine ⟨fun _ h => h, ?_, fun e he => ?_⟩
  · rw [htokens]
    exact Lexer.ordered_run _ _ { cursor := { rest := source } }
  · obtain ⟨e', he', rfl⟩ := Option.map_eq_some_iff.1 he
    exact Lexer.found?_of_run (e := e') he'

/-- **A syntax error that names a token is short of its line by the line breaks in front of it.**
When a template is refused because of a token `t` in place of another one, the error names `t`,
which is the token taken last and stands inside a tag, and has the line of the place where the
token before it ends.  So the line is that of the token just when no line break stands between. -/
theorem line_of_found (h : ofSource d w source = .error e) (ht : e.fault.found? = some t) :
    e.fault.Names t ∧ ∃ n before gap rest, (Lexer.scan d w source).lastTaken? = some n ∧
      Lexer.TagToken d w source n t before gap rest ∧
      lineAfter (before ++ gap) = e.line + gap.count '\n' ∧
      (e.line = lineAfter (before ++ gap) ↔ '\n' ∉ gap) := by
  have hreports := Parser.reports_template (f := (Lexer.scan d w source).lineOf)
    (within_numbered d w source) ((Lexer.scan d w source).lexemes.length + 3)
  have hsource : ofSource d w source = (Parser.template
      ((Lexer.scan d w source).lexemes.length + 3)
      ((Lexer.scan d w source).numbered.relabel (Lexer.scan d w source).lineOf)).map Prod.fst := by
    rw [Scan.relabel_numbered]
    rfl
  rw [h] at hsource
  cases hreports with
  | ok _ hf =>
    rw [hf] at hsource
    cases hsource
  | @error e' hrun hf hblames =>
    rw [hf] at hsource
    obtain rfl : e = e'.relabel (Lexer.scan d w source).lineOf := Except.error.inj hsource
    obtain ⟨hinner, l, hl, rfl, hline⟩ := hblames t ht
    obtain ⟨i, hi, rfl⟩ := List.mem_mapIdx.1 hl
    have hx : (Lexer.scan d w source).lexemes[i]? = some (Lexer.scan d w source).lexemes[i] :=
      List.getElem?_eq_getElem hi
    obtain ⟨before, gap, rest, htoken, hbefore⟩ := Lexer.tagToken_of_scan hx hinner
    have hnumber : e'.line = i + 1 := hline.symm
    have hreported : (e'.relabel (Lexer.scan d w source).lineOf).line = lineAfter before := by
      rw [SyntaxError.relabel, hnumber, Scan.lineOf, hx]
      exact hbefore
    refine ⟨SyntaxFault.names_of_found ht, i + 1, before, gap, rest, ?_, htoken, ?_, ?_⟩
    · rw [Scan.lastTaken?, hrun]
      exact congrArg some hnumber
    · rw [lineAfter_append, hreported]
    · rw [lineAfter_append, hreported, Nat.left_eq_add, List.count_eq_zero]

theorem ofSource_parenthesis :
    ofSource {} {} "\x7b\x7b\n) \x7d\x7d".toList =
      .error ⟨1, .expectedExpression (some (.sign .rParen))⟩ := by
  have herror : (match ofSource {} {} "\x7b\x7b\n) \x7d\x7d".toList with
      | .error e => some e
      | .ok _ => none) = some ⟨1, .expectedExpression (some (.sign .rParen))⟩ := by
    decide +kernel
  cases h : ofSource {} {} "\x7b\x7b\n) \x7d\x7d".toList with
  | ok t =>
    rw [h] at herror
    cases herror
  | error e =>
    rw [h] at herror
    exact congrArg Except.error (Option.some.inj herror)

/-- A parenthesis on the second line of a tag. -/
theorem line_of_found_parenthesis :
    let source := "\x7b\x7b\n) \x7d\x7d".toList
    let e : SyntaxError := ⟨1, .expectedExpression (some (.sign .rParen))⟩
    ofSource {} {} source = .error e ∧ e.fault.found? = some (.sign .rParen) ∧
      e.fault.Names (.sign .rParen) ∧
      ∃ n before gap rest, (Lexer.scan {} {} source).lastTaken? = some n ∧
        Lexer.TagToken {} {} source n (.sign .rParen) before gap rest ∧
        lineAfter (before ++ gap) = e.line + gap.count '\n' ∧
        (e.line = lineAfter (before ++ gap) ↔ '\n' ∉ gap) :=
  ⟨ofSource_parenthesis, rfl, line_of_found ofSource_parenthesis rfl⟩

/-- **The line of a syntax error need not be that of the token it names.**  The parenthesis
begins on the second line, and the error is reported on the first. -/
theorem line_of_parenthesis_short :
    let source := "\x7b\x7b\n) \x7d\x7d".toList
    ofSource {} {} source = .error ⟨1, .expectedExpression (some (.sign .rParen))⟩ ∧
      (Lexer.scan {} {} source).lastTaken? = some 2 ∧
      Lexer.TagToken {} {} source 2 (.sign .rParen) "\x7b\x7b".toList "\n".toList
        ") \x7d\x7d".toList ∧
      lineAfter ("\x7b\x7b".toList ++ "\n".toList) = 2 := by
  intro source
  have hblanks : ∀ c ∈ "\n".toList, Text.isBlank c = true := List.all_eq_true.1 (by decide)
  have hbegins : ∀ c ∈ ") \x7d\x7d".toList.head?, Text.isBlank c = false := by
    intro c hc
    obtain rfl : ')' = c := Option.some.inj hc
    decide
  refine ⟨ofSource_parenthesis, by decide +kernel, ⟨rfl, hblanks, hbegins, ?_⟩, by decide⟩
  exact ⟨[.varStart], _, _, rfl, .emit rfl (.refl _), rfl, rfl, rfl⟩

end Template
end MailMerge
