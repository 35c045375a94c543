/-
# Attributes and subscripts

A chain of steps is parsed step by step, whichever way it is written.  A step behind a point
that goes to an item is a subscript in the tree as well; a step to a key differs from a
subscript only on what is no mapping.  So both ways of writing a chain give the same value
(`PathStep.eval_dotted`).  What keeps the points from doing so everywhere is that two items in a
row are read as a number with a fraction; such a chain the parser rejects
(`PathStep.rejects_dotted`).
-/

import MailMerge.Proofs.Evaluation.Operands
import MailMerge.Proofs.Reading.Run
import MailMerge.Proofs.Template.Chain

namespace MailMerge

namespace Parser

variable {α β : Type} {p : Parser α} {g : α → Parser β} {a : α} {ts us : List Token}
  {f : SyntaxFault}

/-- A parser that fails with a fault on a row of tokens. -/
def Rejects (p : Parser α) (ts : List Token) (f : SyntaxFault) : Prop :=
  ∀ s : TokenStream, s.Holds ts → ∃ line, p s = .error ⟨line, f⟩

theorem rejects_fault (ts : List Token) (f : SyntaxFault) : Rejects (fault f : Parser α) ts f :=
  fun s _ => ⟨s.line, rfl⟩

theorem Rejects.bind (h : Rejects p ts f) (g : α → Parser β) : Rejects (p >>= g) ts f := by
  intro s hs
  obtain ⟨line, hp⟩ := h s hs
  refine ⟨line, ?_⟩
  change (p s >>= fun r => g r.1 r.2) = _
  rw [hp]
  rfl

theorem Takes.rejects (h : Takes p ts a us) (hg : Rejects (g a) us f) : Rejects (p >>= g) ts f := by
  intro s hs
  obtain ⟨s', hp, hs'⟩ := h s hs
  obtain ⟨line, hq⟩ := hg s' hs'
  refine ⟨line, ?_⟩
  change (p s >>= fun r => g r.1 r.2) = _
  rw [hp]
  exact hq

end Parser

namespace Expr

open MailMerge.Parser

variable {k : Level} {fuel : Nat} {e : Expr} {s : String} {ts us : List Token} {f : SyntaxFault}

/-- What rejects a row that starts with a name at a level rejects it at the next looser one. -/
theorem rejects_loosen (h : Rejects (parserAt fuel k.tighter) (.ident s :: ts) f)
    (hfuel : 0 < fuel) : Rejects (parserAt fuel k) (.ident s :: ts) f := by
  obtain ⟨fuel, rfl⟩ := Nat.exists_eq_add_one.2 hfuel
  by_cases hk : k.loops = true
  · rw [parserAt_eq_loopAt hk]
    exact h.bind _
  · cases k with
    | conditional => exact h.bind _
    | negation => exact (Takes.eat_ne (by simp)).rejects h
    | signed => exact (Takes.peek _).rejects h
    | primary => exact h
    | _ => exact absurd rfl hk

/-- **An expression is refused if its attributes and subscripts are.** -/
theorem rejects_expression (h : Rejects (parserAt fuel .suffixed) (.ident s :: ts) f)
    (hfuel : 0 < fuel) : Rejects (expression (fuel + 1)) (.ident s :: ts) f := by
  have htop : Rejects (parserAt fuel .conditional) (.ident s :: ts) f :=
    Level.descend (motive := fun k => Rejects (parserAt fuel k) (.ident s :: ts) f) h
      (fun _ _ hk => rejects_loosen hk hfuel) (by decide)
  exact htop

/-- A name with suffixes is written as a name in front of the tokens of the suffixes. -/
theorem writtenAs_suffixes {m : Nat} (hm : m ≤ ts.length)
    (hts : ts.head? ≠ some (Token.sign .assign))
    (h : ∀ fuel n us b vs, ts.length < fuel → Takes (suffixesOf (expression fuel) n e) us b vs →
      Takes (suffixesOf (expression fuel) (n + m) (.name s)) (ts ++ us) b vs) :
    e.WrittenAs (.ident s :: ts) := by
  intro fuel us hfuel hus
  refine takes_expression_of_readAt (k := .suffixed) (fun fuel hfuel => ?_)
    (starts_cons (Nat.le_succ 11) hts) hfuel hus
  rw [List.length_cons] at hfuel
  refine (readAt_loop rfl).2 ⟨m, by rw [List.length_cons]; omega, fun us b vs _ hloop => ?_⟩
  have hsteps := h fuel (fuel - m) us b vs (by omega) hloop
  rw [Nat.sub_add_cancel (by omega)] at hsteps
  exact Takes.bind ((Takes.next _ _).bind (Takes.pure _ _)) hsteps

end Expr

namespace PathStep

open MailMerge.Parser

variable {expr : Parser Expr} {base b : Expr} {n fuel : Nat} {steps : List PathStep}
  {us vs : List Token}

/-- A step goes in front of spaced steps unless it is an item and an item follows. -/
theorem spaced_cons {s : PathStep} {rest : List PathStep}
    (h : ∀ t ∈ rest.head?, s.isItem = false ∨ t.isItem = false) :
    Spaced (s :: rest) ↔ Spaced rest := by
  cases rest with
  | nil => simp [Spaced]
  | cons t rest => exact List.isChain_cons_cons.trans (and_iff_right (h t rfl))

/-- What may follow an item without making a number with it. -/
theorem isItem_of_next {m : Int64} {rest : List PathStep}
    (hnext : ∀ n rest', rest = item n :: rest' → False) :
    ∀ t ∈ rest.head?, (item m).isItem = false ∨ t.isItem = false := by
  intro t ht
  obtain ⟨rest', rfl⟩ := List.head?_eq_some_iff.1 ht
  cases t with
  | key s => exact .inr rfl
  | item n => exact (hnext n rest' rfl).elim

/-- **Steps behind points are taken one after the other,** if no two in a row go to items. -/
theorem takes_dotted (hspaced : Spaced steps)
    (h : Takes (suffixesOf expr n (steps.foldl attr base)) us b vs) :
    Takes (suffixesOf expr (n + steps.length) base) (dottedTokens steps ++ us) b vs := by
  induction steps using dottedTokens.induct generalizing base with
  | case1 => exact h
  | case2 s rest ih =>
    have hrest : Spaced rest := (spaced_cons fun _ _ => .inl rfl).1 hspaced
    exact (Takes.peek _).bind ((Takes.next _ _).bind ((Takes.next _ _).bind (ih hrest h)))
  | case3 m n rest ih =>
    obtain h | h := (List.isChain_cons_cons.1 hspaced).1 <;> cases h
  | case4 m rest hnext ih =>
    have hrest : Spaced rest := (spaced_cons (isItem_of_next hnext)).1 hspaced
    rw [dottedTokens.eq_4 m rest hnext]
    exact (Takes.peek _).bind ((Takes.next _ _).bind ((Takes.next _ _).bind (ih hrest h)))

/-- **Two items in a row are refused behind a point:** they are one number. -/
theorem rejects_dotted (hspaced : ¬ Spaced steps) : ∃ x : Float, ∀ expr n base us,
    steps.length ≤ n → Rejects (suffixesOf expr n base) (dottedTokens steps ++ us)
      (.expectedAttribute (some (.float x))) := by
  induction steps using dottedTokens.induct with
  | case1 => exact absurd .nil hspaced
  | case2 s rest ih =>
    obtain ⟨x, hx⟩ := ih fun hrest => hspaced ((spaced_cons fun _ _ => .inl rfl).2 hrest)
    refine ⟨x, fun expr n base us hn => ?_⟩
    obtain ⟨n, rfl⟩ := Nat.exists_eq_add_one.2 (Nat.zero_lt_of_lt hn)
    exact (Takes.peek _).rejects ((Takes.next _ _).rejects ((Takes.next _ _).rejects
      (hx _ _ _ _ (Nat.le_of_succ_le_succ hn))))
  | case3 m k rest ih =>
    refine ⟨joined m k, fun expr n base us hn => ?_⟩
    obtain ⟨n, rfl⟩ := Nat.exists_eq_add_one.2 (Nat.zero_lt_of_lt hn)
    exact (Takes.peek _).rejects ((Takes.next _ _).rejects ((Takes.next _ _).rejects
      (rejects_fault _ _)))
  | case4 m rest hnext ih =>
    obtain ⟨x, hx⟩ := ih fun hrest => hspaced ((spaced_cons (isItem_of_next hnext)).2 hrest)
    refine ⟨x, fun expr n base us hn => ?_⟩
    obtain ⟨n, rfl⟩ := Nat.exists_eq_add_one.2 (Nat.zero_lt_of_lt hn)
    rw [dottedTokens.eq_4 m rest hnext]
    exact (Takes.peek _).rejects ((Takes.next _ _).rejects ((Takes.next _ _).rejects
      (hx _ _ _ _ (Nat.le_of_succ_le_succ hn))))

/-- A subscript is one token in brackets. -/
theorem subscript_spec (s : PathStep) : ∃ t e,
    s.subscriptTokens = [.sign .lBracket, t, .sign .rBracket] ∧
      (∀ base, s.index base = .index base e) ∧ e.WrittenAs [t] := by
  cases s with
  | key s =>
    have hreads : Expr.Reads (.str s) := fun _ _ us => (Takes.next _ _).bind (Takes.pure _ us)
    exact ⟨.str s, .str s, rfl, fun _ => rfl, hreads.writtenAs⟩
  | item n =>
    have hreads : Expr.Reads (.int n) := fun _ _ us => (Takes.next _ _).bind (Takes.pure _ us)
    exact ⟨.int n, .int n, rfl, fun _ => rfl, hreads.writtenAs⟩

/-- **Subscripts are taken one after the other.** -/
theorem takes_subscripts (hfuel : (steps.flatMap subscriptTokens).length < fuel)
    (h : Takes (suffixesOf (expression fuel) n (steps.foldl index base)) us b vs) :
    Takes (suffixesOf (expression fuel) (n + steps.length) base)
      (steps.flatMap subscriptTokens ++ us) b vs := by
  induction steps generalizing base with
  | nil => exact h
  | cons s rest ih =>
    obtain ⟨t, e, htokens, hindex, he⟩ := subscript_spec s
    rw [List.flatMap_cons, htokens, List.length_append, List.length_cons, List.length_cons] at hfuel
    rw [List.foldl_cons, hindex] at h
    rw [List.flatMap_cons, htokens, List.append_assoc]
    refine (Takes.peek _).bind ((Takes.next _ _).bind ?_)
    refine (he _ _ (by simp; omega) (Expr.follows_stop rfl)).bind ((Takes.expect _ _).bind ?_)
    exact ih (by omega) h

variable {env : Environment} {x : String}

/-- The text of a name with steps, each written in one way. -/
def chain (x : String) (write : PathStep → String) (steps : List PathStep) : String :=
  x ++ String.join (steps.map write)

/-- A chain is cut into its name and the tokens of its steps. -/
theorem yields_chain {w : Whitespace} {write : PathStep → String} {ts : List Token} (hx : IsName x)
    (hends : Lexer.EndsWord (steps.flatMap (fun s => (write s).toList) ++ [' ', '\x7d', '\x7d']))
    (h : Lexer.Yields w 0 (steps.flatMap (fun s => (write s).toList) ++ [' ', '\x7d', '\x7d'])
      (ts ++ [Token.varEnd])) :
    Lexer.Yields w 0 ((chain x write steps).toList ++ [' ', '\x7d', '\x7d'])
      (.ident x :: ts ++ [Token.varEnd]) := by
  have hyields := h.word hx.1 hends
  rw [Lexer.wordToken, hx.2] at hyields
  rw [chain, String.toList_append, String.toList_join, List.flatMap_map, List.append_assoc]
  exact hyields

/-- **A chain of subscripts is parsed as such.** -/
theorem parse_subscripted (hd : env.delimiters = {}) (hx : IsName x)
    (hsteps : ∀ s ∈ steps, s.Fits) :
    env.parse (env.outputOf (chain x subscripted steps)) =
      .ok [.output (steps.foldl index (.name x))] := by
  have hlength : steps.length ≤ (steps.flatMap subscriptTokens).length := by
    induction steps with
    | nil => exact Nat.le_refl 0
    | cons s rest ih =>
      obtain ⟨t, e, htokens, -⟩ := subscript_spec s
      have := ih fun s hs => hsteps s (List.mem_cons_of_mem _ hs)
      simp only [List.flatMap_cons, htokens, List.length_append, List.length_cons]
      omega
  have hhead : (steps.flatMap subscriptTokens).head? ≠ some (Token.sign .assign) := by
    cases steps with
    | nil => simp
    | cons s rest =>
      obtain ⟨t, e, htokens, -⟩ := subscript_spec s
      simp [htokens]
  exact Environment.parse_outputOf hd
    (Expr.writtenAs_suffixes hlength hhead fun _ _ _ _ _ hfuel => takes_subscripts hfuel) fun _ =>
      yields_chain hx (endsWord_steps subscripted_start steps _) (yields_subscripted hsteps)

theorem length_le_dottedTokens (steps : List PathStep) :
    steps.length ≤ (dottedTokens steps).length := by
  induction steps using dottedTokens.induct with
  | case4 n rest hnext ih =>
    rw [dottedTokens.eq_4 n rest hnext]
    simp only [List.length_cons]
    omega
  | _ => simp only [dottedTokens, List.length_cons, List.length_nil] at *; omega

theorem head?_dottedTokens (steps : List PathStep) :
    ∀ t ∈ (dottedTokens steps).head?, t = .sign .dot := by
  induction steps using dottedTokens.induct with
  | case1 => simp [dottedTokens]
  | case4 n rest hnext => simp [dottedTokens.eq_4 n rest hnext]
  | _ => simp [dottedTokens]

/-- **A chain with points is parsed step by step,** if no two in a row go to items. -/
theorem parse_dotted (hd : env.delimiters = {}) (hx : IsName x) (hsteps : ∀ s ∈ steps, s.Fits)
    (hspaced : Spaced steps) :
    env.parse (env.outputOf (chain x dotted steps)) =
      .ok [.output (steps.foldl attr (.name x))] := by
  have hhead : (dottedTokens steps).head? ≠ some (Token.sign .assign) :=
    fun h => absurd (head?_dottedTokens steps _ h) (by decide)
  exact Environment.parse_outputOf hd (Expr.writtenAs_suffixes (length_le_dottedTokens steps) hhead
    fun _ _ _ _ _ _ => takes_dotted hspaced) fun _ =>
      yields_chain hx (endsWord_steps dotted_start steps _) (yields_dotted hsteps)

end PathStep

/-- A source that outputs an expression is refused if its expression is. -/
theorem Environment.parse_outputOf_error {env : Environment} (hd : env.delimiters = {})
    {expr : String} {row : List Token} {f : SyntaxFault}
    (hrow : ∀ fuel, row.length < fuel →
      Parser.Rejects (Parser.expression (fuel + 1)) (row ++ [Token.varEnd]) f)
    (hexpr : ∀ w, Lexer.Yields w 0 (expr.toList ++ [' ', '\x7d', '\x7d'])
      (row ++ [Token.varEnd])) :
    ∃ line, env.parse (env.outputOf expr) = .error (.malformed line f) := by
  have hscan := Lexer.gives_scan (hexpr env.whitespace).blank
  rw [← toList_outputOf hd, ← body_outputOf hd] at hscan
  have hlength : (Lexer.scan {} env.whitespace (env.body (env.outputOf expr))).lexemes.length =
      row.length + 2 := by
    rw [← List.length_map (f := (·.token)), hscan.1]
    simp
  have htemplate : Parser.Rejects (Parser.template (row.length + 2 + 3))
      (.varStart :: row ++ [Token.varEnd]) f := by
    have hnodes : Parser.Rejects (Parser.nodes (row.length + 2 + 3))
        (.varStart :: row ++ [Token.varEnd]) f :=
      (Parser.Takes.peek _).rejects ((Parser.Takes.next _ _).rejects ((hrow _ (by omega)).bind _))
    exact hnodes.bind _
  obtain ⟨line, hline⟩ := htemplate ⟨(Lexer.scan {} env.whitespace
    (env.body (env.outputOf expr))).lexemes, (Lexer.scan {} env.whitespace
    (env.body (env.outputOf expr))).error?, 1⟩ hscan
  refine ⟨line, ?_⟩
  rw [parse, hd, Template.ofSource, Template.ofScan, hlength]
  change ((Parser.template _ _).map Prod.fst).mapError SyntaxError.toRenderError = _
  rw [hline]
  rfl

namespace PathStep

open MailMerge.Parser

variable {env : Environment} {x : String} {steps : List PathStep}

/-- **A chain with points in which two items follow each other is refused.** -/
theorem parse_dotted_error (env : Environment) (hd : env.delimiters = {}) (hx : IsName x)
    (hsteps : ∀ s ∈ steps, s.Fits) (hspaced : ¬ Spaced steps) :
    ∃ line v, env.parse (env.outputOf (chain x dotted steps)) =
      .error (.malformed line (.expectedAttribute (some (.float v)))) := by
  obtain ⟨v, hv⟩ := rejects_dotted hspaced
  have hlength := length_le_dottedTokens steps
  have hrow : ∀ fuel, (.ident x :: dottedTokens steps).length < fuel →
      Rejects (expression (fuel + 1)) (.ident x :: dottedTokens steps ++ [Token.varEnd])
        (.expectedAttribute (some (.float v))) := by
    intro fuel hfuel
    rw [List.length_cons] at hfuel
    refine Expr.rejects_expression ?_ (by omega)
    have hname : Takes (Expr.parserAt fuel .primary)
        (.ident x :: (dottedTokens steps ++ [Token.varEnd])) (.name x)
        (dottedTokens steps ++ [Token.varEnd]) := (Takes.next _ _).bind (Takes.pure _ _)
    exact hname.rejects (hv _ _ _ _ (by omega))
  obtain ⟨line, hline⟩ := Environment.parse_outputOf_error hd hrow fun w =>
    yields_chain (w := w) hx (endsWord_steps dotted_start steps _) (yields_dotted hsteps)
  exact ⟨line, v, hline⟩

/-! ### Values -/

variable {a : Access} {scopes : Scopes} {m : Memory}

/-- On a mapping a key behind a point and a key in brackets are the same. -/
theorem lookup_eq_index {v : Value} (hv : v.isMapping = true) (s : String) :
    v.lookup a s = Operator.index a v (.str s) := by
  cases v <;> first | rfl | cases hv

/-- One step from bases that end in the same way. -/
theorem eval_step {e e' : Expr} (s : PathStep)
    (he : Evaluation.eval env a scopes e m = Evaluation.eval env a scopes e' m)
    (hkey : s.isItem = false → ∀ v m', Evaluation.eval env a scopes e' m = .ok v m' →
      v.isUndefined = true ∨ v.isMapping = true) :
    Evaluation.eval env a scopes (s.attr e) m = Evaluation.eval env a scopes (s.index e') m := by
  cases s with
  | item n =>
    simp only [attr, index, Evaluation.eval]
    exact Read.bind_congr he _
  | key s =>
    simp only [attr, index, Evaluation.eval]
    rw [Read.bind_congr he]
    cases hv : Evaluation.eval env a scopes e' m with
    | error e m' => rw [Read.bind_of_error hv, Read.bind_of_error hv]
    | ok v m' =>
      rw [Read.bind_of_ok hv, Read.bind_of_ok hv]
      obtain hundefined | hmapping := hkey rfl v m' hv
      · cases v with
        | undefined name => rfl
        | _ => cases hundefined
      · have hdefined : v.defined = pure v := by cases v <;> first | rfl | cases hmapping
        have hkeyed : (Value.str s).defined = pure (.str s) := rfl
        simp only [hdefined, hkeyed, pure_bind, lookup_eq_index hmapping]

/-- Wherever a step of a chain goes to a key, it goes there from a mapping, if from anything. -/
def KeysOnMappings (env : Environment) (a : Access) (scopes : Scopes) (m : Memory) (x : String)
    (steps : List PathStep) : Prop :=
  ∀ n s, steps[n]? = some (.key s) → ∀ v m',
    Evaluation.eval env a scopes ((steps.take n).foldl index (.name x)) m = .ok v m' →
      v.isUndefined = true ∨ v.isMapping = true

/-- **Both ways of writing a chain end in the same way.** -/
theorem eval_dotted (hkeys : KeysOnMappings env a scopes m x steps) :
    Evaluation.eval env a scopes (steps.foldl attr (.name x)) m =
      Evaluation.eval env a scopes (steps.foldl index (.name x)) m := by
  induction steps using List.reverseRecOn with
  | nil => rfl
  | append_singleton steps s ih =>
    rw [List.foldl_append, List.foldl_append]
    refine eval_step s (ih fun n t hn v m' hv => ?_) fun hs v m' hv => ?_
    · have hlt : n < steps.length := (List.getElem?_eq_some_iff.1 hn).1
      refine hkeys n t ?_ v m' ?_
      · rw [List.getElem?_append_left hlt, hn]
      · rwa [List.take_append_of_le_length hlt.le]
    · cases s with
      | item n => cases hs
      | key s =>
        refine hkeys steps.length s ?_ v m' ?_
        · rw [List.getElem?_concat_length]
        · rwa [List.take_left]

/-- **Chains with points and chains of subscripts.**  Between the default markers a chain of
subscripts behind a name is parsed step by step.  With points the same steps are parsed just if
no two items follow each other; otherwise the two are taken for one number, which is refused
behind the point.  Where they are parsed both chains end in the same way, in every access and
scope and from every memory, if each key is sought in a mapping: with the same value, undefined
or not, or the same error. -/
theorem chain_dotted (env : Environment) (hd : env.delimiters = {}) {x : String} (hx : IsName x)
    {steps : List PathStep} (hsteps : ∀ s ∈ steps, s.Fits) :
    env.parseExpression (chain x subscripted steps) = .ok (some (steps.foldl index (.name x))) ∧
    (Spaced steps →
      env.parseExpression (chain x dotted steps) = .ok (some (steps.foldl attr (.name x))) ∧
      ∀ a scopes m, KeysOnMappings env a scopes m x steps →
        Evaluation.eval env a scopes (steps.foldl attr (.name x)) m =
          Evaluation.eval env a scopes (steps.foldl index (.name x)) m) ∧
    (¬ Spaced steps → ∃ line v, env.parseExpression (chain x dotted steps) =
      .error (.malformed line (.expectedAttribute (some (.float v))))) := by
  refine ⟨?_, fun hspaced => ⟨?_, fun a scopes m => eval_dotted⟩, fun hspaced => ?_⟩
  · rw [Environment.parseExpression, parse_subscripted hd hx hsteps]
    rfl
  · rw [Environment.parseExpression, parse_dotted hd hx hsteps hspaced]
    rfl
  · obtain ⟨line, v, hline⟩ := parse_dotted_error env hd hx hsteps hspaced
    refine ⟨line, v, ?_⟩
    rw [Environment.parseExpression, hline]
    rfl

/-- A mapping in a list in a mapping. -/
def sample : Dict Value := [("data", .map [("rows", .list [.null, .map [("e5", .int 7)]])])]

/-- A chain of keys and items by turns, and one of two items. -/
theorem chain_dotted_sample :
    Environment.parseExpression {} "data.rows.1.e5" =
      .ok (some (.attr (.index (.attr (.name "data") "rows") (.int 1)) "e5")) ∧
    (∀ e, Environment.parseExpression {} "data['rows'][1]['e5']" = .ok (some e) →
      Evaluation.eval {} (Reading.plain sample) [[]]
        (.attr (.index (.attr (.name "data") "rows") (.int 1)) "e5") {} =
        Evaluation.eval {} (Reading.plain sample) [[]] e {}) ∧
    ∃ line v, Environment.parseExpression {} "data.0.1" =
      .error (.malformed line (.expectedAttribute (some (.float v)))) := by
  have hdata : IsName "data" := by decide
  have hfits : ∀ s ∈ [key "rows", item 1, key "e5"], s.Fits := by decide
  have hkeys : KeysOnMappings {} (Reading.plain sample) [[]] {} "data"
      [key "rows", item 1, key "e5"] := by
    rintro (_ | _ | _ | n) s hn v m' hv
    · cases hv
      exact .inr rfl
    · simp at hn
    · cases hv
      exact .inr rfl
    · simp at hn
  obtain ⟨hbrackets, hspaced, -⟩ := chain_dotted {} rfl hdata hfits
  obtain ⟨hpoints, heval⟩ := hspaced (by decide)
  have hitems : ∀ s ∈ [item 0, item 1], s.Fits := by decide
  obtain ⟨-, -, hrefused⟩ := chain_dotted {} rfl hdata hitems
  refine ⟨hpoints, ?_, hrefused (by decide)⟩
  rintro e hparse
  cases hbrackets.symm.trans hparse
  exact heval _ _ _ hkeys

/-- Two items in a row, in brackets and behind points. -/
theorem items_in_a_row :
    Environment.renderWith {} [("x", .list [.list [.int 1, .int 2], .int 3])]
      "\x7b\x7b x[0][1] \x7d\x7d" = .ok "2" ∧
    ∃ line v, Environment.renderWith {} [("x", .list [.list [.int 1, .int 2], .int 3])]
      "\x7b\x7b x.0.1 \x7d\x7d" =
        .error (.malformed line (.expectedAttribute (some (.float v)))) := by
  refine ⟨by decide +kernel, ?_⟩
  have hx : IsName "x" := by decide
  have hsource : Environment.outputOf {} (chain "x" dotted [.item 0, .item 1]) =
      "\x7b\x7b x.0.1 \x7d\x7d" := by decide
  have hitems : ∀ s ∈ [item 0, item 1], s.Fits := by decide
  obtain ⟨line, v, hline⟩ := parse_dotted_error {} rfl hx hitems (by decide)
  rw [hsource] at hline
  refine ⟨line, v, ?_⟩
  rw [Environment.renderWith, Context.run, Evaluation.renderSource, hline]
  rfl

end PathStep
end MailMerge
