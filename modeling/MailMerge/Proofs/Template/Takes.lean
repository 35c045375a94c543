/-
# Parsers on rows of tokens

What a parser does with a stream depends on its tokens; the lines only go into errors.
`Parser.Takes p ts a us` says that `p` takes `a` off the tokens `ts` and leaves `us`.  There
is one rule for each way to put parsers together, and one for each loop: a row of items or
arguments between commas is taken item by item.
-/

import MailMerge.Proofs.Template.Print
import MailMerge.Template.Parser

namespace MailMerge

/-- The tokens that may follow whatever stands between brackets: they end every expression. -/
def Token.isStop : Token → Bool
  | .sign .comma => true
  | .sign .colon => true
  | .sign .rParen => true
  | .sign .rBracket => true
  | .sign .rBrace => true
  | .varEnd => true
  | _ => false

/-- A stream that holds these tokens and no fault behind them. -/
def TokenStream.Holds (s : TokenStream) (ts : List Token) : Prop :=
  s.lexemes.map (·.token) = ts ∧ s.failure = none

namespace Parser

variable {α β : Type} {p : Parser α} {f : α → Parser β} {a : α} {b : β} {t : Token}
  {ts us vs : List Token}

/-- A parser that takes a result off a row of tokens and leaves another row. -/
def Takes (p : Parser α) (ts : List Token) (a : α) (us : List Token) : Prop :=
  ∀ s : TokenStream, s.Holds ts → ∃ s', p s = .ok (a, s') ∧ s'.Holds us

/-! ### One token -/

namespace Takes

theorem pure (a : α) (ts : List Token) : Takes (Pure.pure a) ts a ts :=
  fun s hs => ⟨s, rfl, hs⟩

theorem bind (h : Takes p ts a us) (hf : Takes (f a) us b vs) : Takes (p >>= f) ts b vs := by
  intro s hs
  obtain ⟨s', hp, hs'⟩ := h s hs
  obtain ⟨s'', hq, hs''⟩ := hf s' hs'
  refine ⟨s'', ?_, hs''⟩
  change (p s >>= fun r => f r.1 r.2) = _
  rw [hp]
  exact hq

theorem peekAt (n : Nat) (ts : List Token) : Takes (Parser.peekAt n) ts ts[n]? ts := by
  intro s hs
  refine ⟨s, ?_, hs⟩
  obtain ⟨lexemes, failure, line⟩ := s
  obtain ⟨rfl, rfl⟩ : lexemes.map (·.token) = ts ∧ failure = none := hs
  rw [Parser.peekAt, List.getElem?_map]
  cases lexemes[n]? <;> rfl

theorem peek (ts : List Token) : Takes Parser.peek ts ts.head? ts := by
  rw [List.head?_eq_getElem?]
  exact peekAt 0 ts

theorem next (t : Token) (ts : List Token) : Takes Parser.next (t :: ts) (some t) ts := by
  intro s hs
  obtain ⟨lexemes, failure, line⟩ := s
  obtain ⟨hl, rfl⟩ : lexemes.map (·.token) = t :: ts ∧ failure = none := hs
  obtain ⟨l, ls, rfl, rfl, rfl⟩ := List.map_eq_cons_iff.1 hl
  exact ⟨_, rfl, rfl, rfl⟩

theorem expect (t : Token) (ts : List Token) : Takes (Parser.expect t) (t :: ts) () ts := by
  refine (next t ts).bind ?_
  rw [if_pos rfl]
  exact pure () ts

theorem eat (t : Token) (ts : List Token) : Takes (Parser.eat t) (t :: ts) true ts := by
  refine (peek _).bind ?_
  rw [if_pos (List.head?_cons ..)]
  exact (next t ts).bind (pure true ts)

/-- A token that is not there is not eaten. -/
theorem eat_ne (h : ts.head? ≠ some t) : Takes (Parser.eat t) ts false ts := by
  refine (peek _).bind ?_
  rw [if_neg h]
  exact pure false ts

theorem ident (role : NameRole) (s : String) (ts : List Token) :
    Takes (Parser.ident role) (.ident s :: ts) s ts := (next _ ts).bind (pure s ts)

end Takes

/-! ### Rows of items and arguments -/

/-- A row that a parser takes as a whole if the next token ends every expression. -/
def TakesRow (p : Parser α) (row : List Token) (a : α) : Prop :=
  ∀ t us, t.isStop = true → Takes p (row ++ t :: us) a (t :: us)

theorem commas_append (row : List Token) (rows : List (List Token)) (t : Token)
    (us : List Token) : ∃ u vs, commas (row :: rows) ++ t :: us = row ++ u :: vs ∧
      ((rows = [] ∧ u = t ∧ vs = us) ∨
        (rows ≠ [] ∧ u = .sign .comma ∧ vs = commas rows ++ t :: us)) := by
  cases rows with
  | nil => exact ⟨t, us, by rw [commas, List.intercalate_singleton], .inl ⟨rfl, rfl, rfl⟩⟩
  | cons r rs =>
    refine ⟨.sign .comma, _, ?_, .inr ⟨List.cons_ne_nil r rs, rfl, rfl⟩⟩
    rw [commas, List.intercalate_cons_cons, List.append_assoc, List.append_assoc]
    rfl

/-- A row does not start with a token. -/
theorem head?_append_ne {row : List Token} (hne : row ≠ []) (h : row.head? ≠ some t) :
    (row ++ us).head? ≠ some t := by
  obtain ⟨u, row, rfl⟩ := List.exists_cons_of_ne_nil hne
  exact h

theorem head?_commas_ne {rows : List (List Token)} {u : Token}
    (hrows : ∀ row ∈ rows, row ≠ [] ∧ row.head? ≠ some t) (hu : u ≠ t) (us : List Token) :
    (commas rows ++ u :: us).head? ≠ some t := by
  cases rows with
  | nil =>
    rintro ⟨⟩
    exact hu rfl
  | cons row rows =>
    obtain ⟨v, vs, hrow, -⟩ := commas_append row rows u us
    obtain ⟨hne, hhead⟩ := hrows row List.mem_cons_self
    rw [hrow]
    exact head?_append_ne hne hhead

/-- **Items are taken up to the closing bracket,** which is taken as well. -/
theorem takes_itemsUntil {item : Parser α} {close : Sign} {row : α → List Token} {xs : List α}
    {fuel : Nat} (hclose : (Token.sign close).isStop = true) (hcomma : close ≠ .comma)
    (hstart : ∀ x ∈ xs, row x ≠ [] ∧ (row x).head? ≠ some (Token.sign close))
    (hitem : ∀ x ∈ xs, TakesRow item (row x) x) (hfuel : xs.length < fuel) (us : List Token) :
    Takes (itemsUntil close item fuel) (commas (xs.map row) ++ .sign close :: us) xs us := by
  induction xs generalizing fuel with
  | nil =>
    obtain ⟨fuel, rfl⟩ := Nat.exists_eq_add_one.2 hfuel
    change Takes _ (.sign close :: us) [] us
    refine (Takes.peek _).bind ?_
    rw [if_pos (List.head?_cons ..)]
    exact (Takes.expect _ _).bind (Takes.pure [] us)
  | cons x xs ih =>
    obtain ⟨fuel, rfl⟩ := Nat.exists_eq_add_one.2 (Nat.zero_lt_of_lt hfuel)
    obtain ⟨hne, hhead⟩ := hstart x List.mem_cons_self
    obtain ⟨u, vs, hrow, hnext⟩ := commas_append (row x) (xs.map row) (.sign close) us
    rw [List.map_cons, hrow]
    refine (Takes.peek _).bind ?_
    rw [if_neg (head?_append_ne hne hhead)]
    rcases hnext with ⟨hnil, rfl, rfl⟩ | ⟨-, rfl, rfl⟩
    · obtain rfl := List.map_eq_nil_iff.1 hnil
      refine (hitem x List.mem_cons_self _ _ hclose).bind ((Takes.eat_ne ?_).bind ?_)
      · rw [List.head?_cons]
        rintro ⟨⟩
        exact hcomma rfl
      · exact (Takes.expect _ _).bind (Takes.pure _ _)
    · refine (hitem x List.mem_cons_self _ _ rfl).bind ((Takes.eat _ _).bind ?_)
      exact (ih (fun y hy => hstart y (List.mem_cons_of_mem _ hy))
        (fun y hy => hitem y (List.mem_cons_of_mem _ hy)) (Nat.lt_of_succ_lt_succ hfuel)).bind
        (Takes.pure _ _)

section

variable {expr : Parser Expr} {fuel : Nat} {seen : Bool} {row : List Token}

theorem takes_argument_named {key : String} {e : Expr} (he : TakesRow expr row e) :
    TakesRow (argument expr seen) (.ident key :: .sign .assign :: row) (.named key e) := by
  intro t us ht
  refine (Takes.peek _).bind ((Takes.peekAt 1 _).bind ?_)
  exact (Takes.next _ _).bind ((Takes.next _ _).bind ((he t us ht).bind (Takes.pure _ _)))

/-- A row whose second token is no `=` is an argument by position. -/
theorem takes_argument_positional {e : Expr} (hne : row ≠ [])
    (hsecond : row[1]? ≠ some (Token.sign .assign)) (he : TakesRow expr row e) :
    TakesRow (argument expr false) row (.positional e) := by
  intro t us ht
  refine (Takes.peek _).bind ((Takes.peekAt 1 _).bind ?_)
  have hassign : (row ++ t :: us)[1]? ≠ some (Token.sign .assign) := by
    obtain ⟨u, row, rfl⟩ := List.exists_cons_of_ne_nil hne
    cases row with
    | nil =>
      rintro ⟨⟩
      cases ht
    | cons v row => exact hsecond
  split
  · next h => exact absurd h hassign
  · rw [if_neg Bool.false_ne_true]
    exact (he t us ht).bind (Takes.pure _ _)

/-- The argument in front of further ones. -/
def Argument.onto : Argument → List Expr × List (String × Expr) → List Expr × List (String × Expr)
  | .positional e, (args, kwargs) => (e :: args, kwargs)
  | .named key e, (args, kwargs) => (args, (key, e) :: kwargs)

/-- Whether no argument can come by position any more. -/
def Argument.endsPositional (arg : Argument) (seen : Bool) : Bool :=
  match arg with
  | .named _ _ => true
  | .positional _ => seen

/-- An argument is taken, and then the arguments behind it. -/
theorem takes_argumentsUntil_cons {rows : List (List Token)} {arg : Argument}
    (more : List Expr × List (String × Expr)) (hne : row ≠ [])
    (hhead : row.head? ≠ some (Token.sign .rParen)) (harg : TakesRow (argument expr seen) row arg)
    (hmore : rows = [] → more = ([], []))
    (hrows : rows ≠ [] → Takes (argumentsUntil expr fuel (arg.endsPositional seen))
      (commas rows ++ .sign .rParen :: us) more us) :
    Takes (argumentsUntil expr (fuel + 1) seen) (commas (row :: rows) ++ .sign .rParen :: us)
      (arg.onto more) us := by
  obtain ⟨u, vs, hrow, hnext⟩ := commas_append row rows (.sign .rParen) us
  rw [hrow]
  refine (Takes.peek _).bind ?_
  rw [if_neg (head?_append_ne hne hhead)]
  rcases hnext with ⟨hnil, rfl, rfl⟩ | ⟨hcons, rfl, rfl⟩
  · obtain rfl := hmore hnil
    refine (harg _ _ rfl).bind ((Takes.eat_ne (by simp)).bind ?_)
    refine (Takes.expect _ _).bind ((Takes.pure ([], []) _).bind ?_)
    cases arg <;> exact Takes.pure _ _
  · refine (harg _ _ rfl).bind ((Takes.eat _ _).bind ?_)
    refine (hrows hcons).bind ?_
    cases arg <;> exact Takes.pure _ _

/-- **Arguments are taken up to the closing parenthesis,** those by position first. -/
theorem takes_argumentsUntil {args : List Expr} {kwargs : List (String × Expr)}
    (hargs : ∀ e ∈ args, e.tokens ≠ [] ∧ e.tokens.head? ≠ some (Token.sign .rParen) ∧
      e.tokens[1]? ≠ some (Token.sign .assign) ∧ TakesRow expr e.tokens e)
    (hkwargs : ∀ e ∈ kwargs, TakesRow expr e.2.tokens e.2) (hseen : seen = true → args = [])
    (hfuel : args.length + kwargs.length < fuel) (us : List Token) :
    Takes (argumentsUntil expr fuel seen)
      (commas (Expr.itemRows args ++ Expr.namedRows kwargs) ++ .sign .rParen :: us)
      (args, kwargs) us := by
  induction args generalizing fuel seen with
  | cons e args ih =>
    obtain ⟨fuel, rfl⟩ := Nat.exists_eq_add_one.2 (Nat.zero_lt_of_lt hfuel)
    obtain ⟨hne, hhead, hsecond, he⟩ := hargs e List.mem_cons_self
    obtain rfl : seen = false := by simpa using hseen
    rw [List.length_cons] at hfuel
    refine takes_argumentsUntil_cons (args, kwargs) hne hhead
      (takes_argument_positional hne hsecond he) ?_ fun _ => ih
        (fun d hd => hargs d (List.mem_cons_of_mem _ hd)) (by simp [Argument.endsPositional])
        (by omega)
    cases args <;> cases kwargs <;> simp [Expr.itemRows, Expr.namedRows]
  | nil =>
    induction kwargs generalizing fuel seen with
    | nil =>
      obtain ⟨fuel, rfl⟩ := Nat.exists_eq_add_one.2 hfuel
      change Takes _ (.sign .rParen :: us) _ us
      refine (Takes.peek _).bind ?_
      rw [if_pos (List.head?_cons ..)]
      exact (Takes.expect _ _).bind (Takes.pure _ us)
    | cons e kwargs ih =>
      obtain ⟨fuel, rfl⟩ := Nat.exists_eq_add_one.2 (Nat.zero_lt_of_lt hfuel)
      rw [List.length_cons] at hfuel
      refine takes_argumentsUntil_cons ([], kwargs) (List.cons_ne_nil _ _) (by simp)
        (takes_argument_named (hkwargs e List.mem_cons_self)) ?_ fun _ => ih
          (fun d hd => hkwargs d (List.mem_cons_of_mem _ hd)) (fun _ => rfl) (by omega)
      cases kwargs <;> simp [Expr.namedRows]

/-- An argument list, from its opening parenthesis on. -/
theorem takes_arguments {args : List Expr} {kwargs : List (String × Expr)}
    (hargs : ∀ e ∈ args, e.tokens ≠ [] ∧ e.tokens.head? ≠ some (Token.sign .rParen) ∧
      e.tokens[1]? ≠ some (Token.sign .assign) ∧ TakesRow expr e.tokens e)
    (hkwargs : ∀ e ∈ kwargs, TakesRow expr e.2.tokens e.2)
    (hfuel : args.length + kwargs.length < fuel) (us : List Token) :
    Takes (arguments expr fuel) (.sign .lParen ::
      (commas (Expr.itemRows args ++ Expr.namedRows kwargs) ++ .sign .rParen :: us))
      (args, kwargs) us :=
  (Takes.expect _ _).bind
    (takes_argumentsUntil hargs hkwargs (fun h => absurd h Bool.false_ne_true) hfuel us)

end

end Parser
end MailMerge
