/-
# Written values as expressions

What is written of a value inside a list or mapping is also an expression of the template
language, and that expression has the value itself (`Value.parse_repr`).  The lexer of
templates reads strings by rules of its own, and it has to see where the tag ends: under open
brackets it does not look for the end, and the braces inside a text stand between quotes.

| value | expression |
| --- | --- |
| text, constant | itself |
| integer | itself, or its magnitude under a minus |
| list, mapping | a list of expressions, a mapping from texts to expressions |
-/

import MailMerge.Proofs.Template.Output
import MailMerge.Proofs.Value.Restore

namespace MailMerge

namespace Value

mutual

/-- A value as an expression; one that cannot be written stands as none. -/
def expr : Value → Expr
  | str s => .str s
  | int n => if n.toInt < 0 then .neg (.int (-n)) else .int n
  | float x => .float x
  | bool b => .bool b
  | list items => .list (exprItems items)
  | map entries => .dict (exprEntries entries)
  | _ => .null

/-- `expr` for the items of a list. -/
def exprItems : List Value → List Expr
  | [] => []
  | v :: rest => expr v :: exprItems rest

/-- `expr` for the entries of a mapping. -/
def exprEntries : List (String × Value) → List (Expr × Expr)
  | [] => []
  | (k, v) :: rest => (.str k, expr v) :: exprEntries rest

end

theorem exprItems_eq_map (vs : List Value) : exprItems vs = vs.map expr := by
  induction vs with
  | nil => rfl
  | cons v vs ih => rw [exprItems, ih, List.map_cons]

theorem exprEntries_eq_map (es : List (String × Value)) :
    exprEntries es = es.map fun e => (.str e.1, e.2.expr) := by
  induction es with
  | nil => rfl
  | cons e es ih => rw [exprEntries, ih, List.map_cons]

end Value

/-! ### Reading what is written -/

namespace Lexer

variable {w : Whitespace} {depth : Nat} {rest : List Char} {ts : List Token}

/-- A character is read back from what is written of it. -/
theorem string?_escapeChar {quote : Char} (hquote : quote = '\'' ∨ quote = '"') (c : Char)
    (cs : List Char) : string? quote (Value.escapeChar quote c ++ cs) =
      (string? quote cs).map fun (text, rest) => (c :: text, rest) := by
  unfold Value.escapeChar
  split_ifs with h₁ h₂ h₃ h₄ h₅
  · subst h₁
    rfl
  · subst h₂
    rfl
  · subst h₃
    rfl
  · subst h₄
    rfl
  · obtain rfl | rfl := hquote <;> subst h₅ <;> rfl
  · rw [List.singleton_append, string?.eq_4 _ _ _ (fun h => absurd h h₁)
      (fun _ _ h => absurd h h₁), if_neg h₅]

theorem string?_written {quote : Char} (hquote : quote = '\'' ∨ quote = '"')
    (cs rest : List Char) :
    string? quote (cs.flatMap (Value.escapeChar quote) ++ [quote] ++ rest) = some (cs, rest) := by
  induction cs with
  | nil => obtain rfl | rfl := hquote <;> rfl
  | cons c cs ih =>
    rw [List.flatMap_cons, List.append_assoc, List.append_assoc, string?_escapeChar hquote,
      ← List.append_assoc, ih]
    rfl

/-- A bracket is counted. -/
theorem innerToken_bracket {c : Cursor} {ch : Char} {s : Sign} {opens : Bool}
    (h : bracket? ch = some (s, opens)) (hc : c.rest = [ch] ++ rest) :
    innerToken false depth c = .emit (.sign s)
      ⟨c.advance [ch].length, .tag false (if opens then depth + 1 else depth - 1), false⟩ := by
  unfold bracket? at h
  split at h <;> cases h <;> rw [innerToken] <;> simp only [hc] <;> rfl

namespace Yields

/-- Behind the bracket that opens a list or mapping. -/
theorem opened {ch : Char} {s : Sign} (h : bracket? ch = some (s, true))
    (hblank : Text.isBlank ch = false) (hminus : ch ≠ '-') (hbrace : ch ≠ '\x7d')
    (hrest : Yields w (depth + 1) rest ts) : Yields w depth ([ch] ++ rest) (.sign s :: ts) :=
  hrest.token (inside_cons hblank hminus hbrace) fun _ hc => innerToken_bracket h hc

/-- Behind the bracket that closes one. -/
theorem closed {ch : Char} {s : Sign} (h : bracket? ch = some (s, false))
    (hblank : Text.isBlank ch = false) (hrest : Yields w depth rest ts) :
    Yields w (depth + 1) ([ch] ++ rest) (.sign s :: ts) :=
  hrest.token (inside_succ hblank) fun _ hc => innerToken_bracket h hc

theorem comma (h : Yields w depth rest ts) : Yields w depth ([','] ++ rest) (.sign .comma :: ts) :=
  h.token (inside_cons (by decide) (by decide) (by decide)) fun _ hc => by
    rw [innerToken]
    simp only [hc]
    rfl

theorem colon (h : Yields w depth rest ts) : Yields w depth ([':'] ++ rest) (.sign .colon :: ts) :=
  h.token (inside_cons (by decide) (by decide) (by decide)) fun _ hc => by
    rw [innerToken]
    simp only [hc]
    rfl

/-- The minus of a negative number. -/
theorem minus (n : Nat) (h : Yields w depth (Nat.toDigits 10 n ++ rest) ts) :
    Yields w depth (['-'] ++ (Nat.toDigits 10 n ++ rest)) (.sign .minus :: ts) :=
  h.token (inside_digits n rest).2 fun _ hc => by
    rw [innerToken]
    simp only [hc]
    rfl

/-- **A text in quotes is one token,** whatever its characters. -/
theorem quoteText (s : String) (h : Yields w depth rest ts) :
    Yields w depth ((Value.quoteText s).toList ++ rest) (.str s :: ts) := by
  have hquote := Value.Literal.quoteFor_eq s.toList
  have hyields := h.string hquote (string?_written hquote s.toList rest)
  rw [String.ofList_toList] at hyields
  rwa [Value.quoteText, String.toList_ofList]

/-- An integer is a token, or two. -/
theorem int {n : Int64} (hn : n ≠ Int64.minValue) (hrest : Breaks rest)
    (h : Yields w depth rest ts) :
    Yields w depth ((toString n.toInt).toList ++ rest) ((Value.int n).expr.tokens ++ ts) := by
  rw [Number.toList_toString, Value.expr]
  split_ifs with hneg
  · have hfit : Number.fit? n.toInt.natAbs = some (-n) := by
      have hmagnitude := Number.toInt_neg_of_ne_minValue hn
      rw [Number.fit?_eq_some_iff]
      omega
    exact (h.number hfit hrest).minus n.toInt.natAbs
  · have hfit : Number.fit? n.toInt.natAbs = some n := by
      rw [Number.fit?_eq_some_iff]
      omega
    exact h.number hfit hrest

/-- **Parts are read one after the other,** with a comma and a blank between neighbours. -/
theorem commas {α : Type} {text : α → List Char} {row : α → List Token} {xs : List α}
    (hxs : ∀ x ∈ xs, ∀ rest ts, Breaks rest → Yields w depth rest ts →
      Yields w depth (text x ++ rest) (row x ++ ts))
    (hrest : Breaks rest) (h : Yields w depth rest ts) :
    Yields w depth (List.intercalate [',', ' '] (xs.map text) ++ rest)
      (MailMerge.commas (xs.map row) ++ ts) := by
  induction xs with
  | nil => exact h
  | cons x xs ih =>
    have hx := hxs x List.mem_cons_self
    have hmore := ih fun y hy => hxs y (List.mem_cons_of_mem _ hy)
    cases xs with
    | nil =>
      rw [List.map_singleton, List.map_singleton, List.intercalate_singleton, MailMerge.commas,
        List.intercalate_singleton]
      exact hx rest ts hrest h
    | cons y ys =>
      rw [List.map_cons, List.map_cons] at hmore
      rw [List.map_cons, List.map_cons, List.intercalate_cons_cons, List.append_assoc,
        List.append_assoc, List.map_cons, List.map_cons, MailMerge.commas,
        List.intercalate_cons_cons, List.append_assoc, List.append_assoc]
      exact hx _ _ (breaks_cons (by decide) _) hmore.blank.comma

/-- **What is written of a value is read as the tokens of its expression.** -/
theorem repr {v : Value} (hv : v.Restorable) (hrest : Breaks rest) (h : Yields w depth rest ts) :
    Yields w depth (v.repr.toList ++ rest) (v.expr.tokens ++ ts) := by
  induction v using Value.induction generalizing depth rest ts with
  | str s => exact h.quoteText s
  | int n => exact h.int hv.ne_minValue hrest
  | bool b =>
    cases b
    · exact h.word (s := "False") ⟨_, _, rfl, by decide, List.all_eq_true.1 rfl⟩ hrest.1
    · exact h.word (s := "True") ⟨_, _, rfl, by decide, List.all_eq_true.1 rfl⟩ hrest.1
  | null => exact h.word (s := "None") ⟨_, _, rfl, by decide, List.all_eq_true.1 rfl⟩ hrest.1
  | list vs ih =>
    rw [Value.restorable_list] at hv
    have hitems : Yields w (depth + 1)
        (List.intercalate [',', ' '] (vs.map fun v => v.repr.toList) ++ ([']'] ++ rest))
        (MailMerge.commas (vs.map fun v => v.expr.tokens) ++ .sign .rBracket :: ts) :=
      commas (fun v hmem rest ts hrest h => ih v hmem (hv v hmem) hrest h)
        (breaks_cons (by decide) rest) (h.closed rfl (by decide))
    rw [Value.Literal.repr_list, Value.expr, Expr.tokens, Expr.itemRows_eq_map,
      Value.exprItems_eq_map, List.map_map, List.cons_append, List.append_assoc,
      List.cons_append, List.append_assoc]
    exact hitems.opened rfl (by decide) (by decide) (by decide)
  | map es ih =>
    rw [Value.restorable_map] at hv
    have hentry : ∀ e ∈ es, ∀ rest ts, Breaks rest → Yields w (depth + 1) rest ts →
        Yields w (depth + 1) (Value.Literal.entryText e ++ rest)
          ((Token.str e.1 :: .sign .colon :: e.2.expr.tokens) ++ ts) := by
      intro e hmem rest ts hrest h
      rw [Value.Literal.entryText, List.append_assoc]
      exact (ih e hmem (hv e hmem) hrest h).blank.colon.quoteText e.1
    have hentries : Yields w (depth + 1)
        (List.intercalate [',', ' '] (es.map Value.Literal.entryText) ++ (['\x7d'] ++ rest))
        (MailMerge.commas (es.map fun e => .str e.1 :: .sign .colon :: e.2.expr.tokens) ++
          .sign .rBrace :: ts) :=
      commas hentry (breaks_cons (by decide) rest) (h.closed rfl (by decide))
    rw [Value.Literal.repr_map, Value.expr, Expr.tokens, Expr.pairRows_eq_map,
      Value.exprEntries_eq_map, List.map_map, List.cons_append, List.append_assoc,
      List.cons_append, List.append_assoc]
    exact hentries.opened rfl (by decide) (by decide) (by decide)
  | _ => cases hv

end Yields
end Lexer

/-! ### The value of the expression -/

namespace Value

theorem printable_expr {v : Value} (hv : v.Restorable) : v.expr.Printable := by
  induction v using Value.induction with
  | int n =>
    have hmagnitude := Number.toInt_neg_of_ne_minValue hv.ne_minValue
    rw [expr]
    split_ifs with hneg
    · rw [Expr.printable_neg, Expr.printable_int]
      omega
    · rw [Expr.printable_int]
      omega
  | list vs ih =>
    rw [restorable_list] at hv
    rw [expr, exprItems_eq_map, Expr.printable_list]
    exact List.forall_mem_map.2 fun v h => ih v h (hv v h)
  | map es ih =>
    rw [restorable_map] at hv
    rw [expr, exprEntries_eq_map, Expr.printable_dict]
    exact List.forall_mem_map.2 fun e h => ⟨rfl, ih e h (hv e h)⟩
  | float => cases hv
  | undefined => cases hv
  | lazy => cases hv
  | _ => rfl

theorem defined_of_solid {v : Value} (h : v.Solid) : v.defined = pure v := by
  cases v with
  | undefined => exact absurd h not_solid_undefined
  | _ => rfl

variable {env : Environment} {a : Access} {scopes : Scopes}

theorem evalItems_expr {vs : List Value} (hvs : ∀ v ∈ vs, v.Solid ∧
    Evaluation.eval env a scopes v.expr = pure v) :
    Evaluation.evalItems env a scopes (vs.map expr) = pure vs := by
  induction vs with
  | nil => rfl
  | cons v vs ih =>
    obtain ⟨hsolid, heval⟩ := hvs v List.mem_cons_self
    rw [List.map_cons, Evaluation.evalItems, heval, pure_bind, defined_of_solid hsolid, pure_bind,
      ih fun u hu => hvs u (List.mem_cons_of_mem _ hu)]
    rfl

/-- Entries in order are added behind those before them. -/
theorem evalPairs_expr (before : Dict Value) {es : Dict Value} (hes : ∀ e ∈ es, e.2.Solid ∧
    Evaluation.eval env a scopes e.2.expr = pure e.2) (ho : Dict.Ordered (before ++ es)) :
    Evaluation.evalPairs env a scopes before (es.map fun e => (.str e.1, e.2.expr)) =
      pure (before ++ es) := by
  induction es generalizing before with
  | nil => rw [List.append_nil]; rfl
  | cons e es ih =>
    obtain ⟨hsolid, heval⟩ := hes e List.mem_cons_self
    have hinsert : Dict.insert e.1 e.2 before = before ++ [(e.1, e.2)] :=
      Dict.insert_of_forall_lt e.2 fun d hd =>
        (List.pairwise_append.1 ho).2.2 d hd e List.mem_cons_self
    have hmore := ih (before ++ [e]) (fun d hd => hes d (List.mem_cons_of_mem _ hd))
      (by rwa [List.append_assoc])
    rw [List.map_cons, Evaluation.evalPairs, Evaluation.eval, pure_bind, output, pure_bind, heval,
      pure_bind, defined_of_solid hsolid, pure_bind, hinsert, hmore, List.append_assoc]
    rfl

/-- **The expression of a value evaluates to it,** whatever the names around it stand for. -/
theorem eval_expr {v : Value} (hv : v.Restorable) (ho : v.InOrder) :
    Evaluation.eval env a scopes v.expr = pure v := by
  induction v using Value.induction with
  | int n =>
    have hmagnitude := Number.toInt_neg_of_ne_minValue hv.ne_minValue
    rw [expr]
    split_ifs with hneg
    · have hfit : Number.fit? (-(-n).toInt) = some n := by
        rw [Number.fit?_eq_some_iff]
        omega
      change Operator.exact (-(-n).toInt) = _
      rw [Operator.exact, hfit]
    · rfl
  | list vs ih =>
    rw [restorable_list] at hv
    rw [inOrder_list] at ho
    rw [expr, exprItems_eq_map, Evaluation.eval,
      evalItems_expr fun v h => ⟨(hv v h).solid, ih v h (hv v h) (ho v h)⟩]
    rfl
  | map es ih =>
    rw [restorable_map] at hv
    rw [inOrder_map] at ho
    rw [expr, exprEntries_eq_map, Evaluation.eval,
      evalPairs_expr [] (fun e h => ⟨(hv e h).solid, ih e h (hv e h) (ho.2 e h)⟩) ho.1]
    rfl
  | float => cases hv
  | undefined => cases hv
  | lazy => cases hv
  | _ => rfl

/-- **What is written of a value is an expression for it.**  Between the default markers it is
parsed as one expression, and that evaluates to the value, with any environment, access and
scopes. -/
theorem parse_repr {env : Environment} (hd : env.delimiters = {}) {v : Value} (hv : v.Restorable)
    (ho : v.InOrder) : env.parse (env.outputOf v.repr) = .ok [.output v.expr] ∧
      ∀ env' a scopes, Evaluation.eval env' a scopes v.expr = pure v :=
  ⟨Environment.parse_outputOf hd (Expr.reads (printable_expr hv)).writtenAs fun w =>
    (Lexer.Yields.finish w).repr hv (Lexer.breaks_blank _), fun _ _ _ => eval_expr hv ho⟩

/-- Quotes of both sorts, backslashes, line breaks and the end of a tag in keys and texts,
numbers at both ends of their range, and braces in front of the end of the tag. -/
def braced : Value :=
  map [("it's", list [int Int64.maxValue, int (-9223372036854775807)]),
    ("\x7d\x7d", map [("\"", str "\x7b\x7b '\"\\\n\t\r \x7d\x7d"), ("n", null)])]

theorem parse_repr_braced : braced.Restorable ∧ braced.InOrder ∧
    Environment.parse {} (Environment.outputOf {} braced.repr) = .ok [.output (.dict
      [(.str "it's", .list [.int Int64.maxValue, .neg (.int Int64.maxValue)]),
        (.str "\x7d\x7d", .dict [(.str "\"", .str "\x7b\x7b '\"\\\n\t\r \x7d\x7d"),
          (.str "n", .null)])])] ∧
    ∀ env a scopes, Evaluation.eval env a scopes braced.expr = pure braced := by
  have hv : braced.Restorable := by decide
  have ho : braced.InOrder := by decide
  exact ⟨hv, ho, parse_repr rfl hv ho⟩

end Value
end MailMerge
