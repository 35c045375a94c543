/-
# Expressions take tokens

The levels of the grammar one after the other: if the parsers for what stands in brackets
agree on the streams of fewer than `k` tokens, the parsers of a level agree on those of `k`
tokens, for any number of steps above `k`.  What goes round is shown for one turn first; the
number of turns then follows from `AgreeBelow.loop`.

An expression only takes tokens that stand inside tags (`Parser.agree_expression`).
-/

import MailMerge.Proofs.Template.Agree

namespace MailMerge

/-- The tokens that stand inside tags. -/
def Token.isInner : Token → Bool
  | .text _ => false
  | .varStart => false
  | .blockStart => false
  | _ => true

namespace Parser

variable {α : Type} {P : Token → Prop} {expr expr' : Parser Expr} {k n n' loops loops' : Nat}

/-- Operators are written inside tags. -/
theorem isInner_of_productOp? (t : Token) (h : (productOp? t).isSome) : t.isInner = true := by
  unfold productOp? at h
  split at h <;> first | rfl | cases h

theorem isInner_of_joinOp? (t : Token) (h : (joinOp? t).isSome) : t.isInner = true := by
  unfold joinOp? at h
  split at h <;> first | rfl | cases h

theorem isInner_of_sumOp? (t : Token) (h : (sumOp? t).isSome) : t.isInner = true := by
  unfold sumOp? at h
  split at h <;> first | rfl | cases h

theorem isInner_of_comparisonOp? (t : Token) (h : (comparisonOp? t).isSome) :
    t.isInner = true := by
  unfold comparisonOp? at h
  split at h <;> first | rfl | cases h

theorem isInner_of_andOp? (t : Token) (h : (andOp? t).isSome) : t.isInner = true := by
  unfold andOp? at h
  split at h <;> first | rfl | cases h

theorem isInner_of_orOp? (t : Token) (h : (orOp? t).isSome) : t.isInner = true := by
  unfold orOp? at h
  split at h <;> first | rfl | cases h

theorem takesOne_testName (s : TokenStream) :
    TakesOne (fun _ t => t.isInner = true) testName s := by
  refine takesOne_next s (fun t => ?_) ⟨_, rfl, nofun⟩
  split
  iterate 5
    next h =>
      cases h
      exact .inl ⟨_, rfl, rfl⟩
  · exact .inr ⟨_, rfl, nofun⟩

section

variable (hP : ∀ t : Token, t.isInner = true → P t)

include hP

/-! ### Operators -/

section

variable {op? : Token → Option (Expr → Expr → Expr)}
  (hop : ∀ t, (op? t).isSome → t.isInner = true) {operand operand' : Parser Expr}

include hop

theorem agree_leftAssocTurn (ho : AgreeBelow P k operand operand')
    {again again' : Expr → Parser Expr} (ha : ∀ e, AgreeBelow P k (again e) (again' e))
    (left : Expr) : AgreeBelow P (k + 1) (leftAssocTurn op? operand again left)
      (leftAssocTurn op? operand' again' left) := by
  intro s hs
  unfold leftAssocTurn
  refine .peek ?_
  cases hbuild : (s.ahead 0).bind op? with
  | none => exact .pure left
  | some build =>
    obtain ⟨t, ht, hb⟩ := Option.bind_eq_some_iff.1 hbuild
    refine .next_of ht (hP t (hop t (Option.isSome_of_eq_some hb))) fun s' hs' _ => ?_
    refine (ho s' (by omega)).bind fun right s'' hs'' => ?_
    exact ha _ s'' (by omega)

theorem agree_leftAssocFrom (ho : AgreeBelow P k operand operand') (hn : k < n) (hn' : k < n')
    (left : Expr) : AgreeBelow P (k + 1) (leftAssocFrom op? operand n left)
      (leftAssocFrom op? operand' n' left) :=
  .loop (fun _ _ => rfl) (fun _ _ => rfl) (fun _ hj _ _ ha e =>
    agree_leftAssocTurn hP hop (ho.mono (Nat.le_of_lt_succ hj)) ha e) hn hn' left

theorem agree_leftAssoc (ho : AgreeBelow P (k + 1) operand operand') (hn : k < n)
    (hn' : k < n') :
    AgreeBelow P (k + 1) (leftAssoc op? operand n) (leftAssoc op? operand' n') := by
  intro s hs
  refine (ho s hs).bind fun left s' hs' => ?_
  exact agree_leftAssocFrom hP hop (ho.mono k.le_succ) hn hn' left s' (by omega)

end

/-! ### Rows in brackets -/

theorem agree_itemsTurn (close : Sign) {item item' : Parser α}
    (hi : AgreeBelow P (k + 1) item item') {again again' : Parser (List α)}
    (ha : AgreeBelow P k again again') :
    AgreeBelow P (k + 1) (itemsTurn close item again) (itemsTurn close item' again') := by
  intro s hs
  unfold itemsTurn
  refine .peek (.ite (fun _ => ?_) fun _ => ?_)
  · exact .expect (hP _ rfl) fun _ _ => .pure []
  · refine (hi s hs).bind fun first s' hs' => .eat (hP _ rfl) (fun s'' hs'' => ?_) ?_
    · exact (ha s'' (by omega)).map _
    · exact .expect (hP _ rfl) fun _ _ => .pure [first]

theorem agree_itemsUntil (close : Sign) {item item' : Parser α}
    (hi : AgreeBelow P (k + 1) item item') (hn : k < n) (hn' : k < n') :
    AgreeBelow P (k + 1) (itemsUntil close item n) (itemsUntil close item' n') :=
  .loop_unit (fun _ => rfl) (fun _ => rfl) (fun _ hj _ _ ha =>
    agree_itemsTurn hP close (hi.mono hj) ha) hn hn'

theorem agree_pair (he : AgreeBelow P k expr expr') :
    AgreeBelow P k (pair expr) (pair expr') := by
  intro s hs
  refine (he s hs).bind fun key s' hs' => .expect (hP _ rfl) fun s'' hs'' => ?_
  exact (he s'' (by omega)).map _

theorem agree_argument (he : AgreeBelow P k expr expr') (seen : Bool) :
    AgreeBelow P k (argument expr seen) (argument expr' seen) := by
  intro s hs
  unfold argument
  refine .peek (.peekAt 1 ?_)
  split
  · next key h₀ h₁ =>
    refine .next_of h₀ (hP _ rfl) fun s' hs' hahead => ?_
    refine .next_of ((hahead 0).trans h₁) (hP _ rfl) fun s'' hs'' _ => ?_
    exact (he s'' (by omega)).map _
  · refine .ite (fun _ => .fault nofun) fun _ => ?_
    exact (he s hs).map _

theorem agree_argumentsTurn (he : AgreeBelow P (k + 1) expr expr')
    {again again' : Bool → Parser (List Expr × List (String × Expr))}
    (ha : ∀ seen, AgreeBelow P k (again seen) (again' seen)) (seen : Bool) :
    AgreeBelow P (k + 1) (argumentsTurn expr again seen) (argumentsTurn expr' again' seen) := by
  intro s hs
  unfold argumentsTurn
  refine .peek (.ite (fun _ => ?_) fun _ => ?_)
  · exact .expect (hP _ rfl) fun _ _ => .pure _
  refine (agree_argument hP he seen s hs).bind fun arg s' hs' => ?_
  refine .eat (hP _ rfl) (fun s'' hs'' => ?_) (.expect (hP _ rfl) fun s'' hs'' => ?_)
  · refine (ha _ s'' (by omega)).bind fun more _ _ => ?_
    cases arg <;> exact .pure _
  · cases arg <;> exact .pure _

theorem agree_argumentsUntil (he : AgreeBelow P (k + 1) expr expr') (hn : k < n) (hn' : k < n')
    (seen : Bool) :
    AgreeBelow P (k + 1) (argumentsUntil expr n seen) (argumentsUntil expr' n' seen) :=
  .loop (fun _ _ => rfl) (fun _ _ => rfl) (fun _ hj _ _ ha seen =>
    agree_argumentsTurn hP (he.mono hj) ha seen) hn hn' seen

/-- A row of arguments stands behind a parenthesis. -/
theorem agree_arguments (he : AgreeBelow P k expr expr') (hn : k ≤ n) (hn' : k ≤ n') :
    AgreeBelow P (k + 1) (arguments expr n) (arguments expr' n') := by
  intro s hs
  refine .expect (hP _ rfl) fun s' hs' => ?_
  cases k with
  | zero => omega
  | succ k => exact agree_argumentsUntil hP he hn hn' false s' (by omega)

/-! ### The levels of expressions -/

theorem agree_primary (he : AgreeBelow P k expr expr') (hn : k ≤ n) (hn' : k ≤ n') :
    AgreeBelow P (k + 1) (primary expr n) (primary expr' n') := by
  intro s hs
  refine .next (fun _ => .fault nofun) fun t s' hs' => ?_
  obtain _ | k := k
  · omega
  cases t with
  | str x => exact .inl ⟨hP _ rfl, .pure _⟩
  | int x => exact .inl ⟨hP _ rfl, .pure _⟩
  | float x => exact .inl ⟨hP _ rfl, .pure _⟩
  | ident name => exact .inl ⟨hP _ rfl, .pure _⟩
  | keyword word =>
    cases word with
    | trueWord => exact .inl ⟨hP _ rfl, .pure _⟩
    | falseWord => exact .inl ⟨hP _ rfl, .pure _⟩
    | noneWord => exact .inl ⟨hP _ rfl, .pure _⟩
    | _ => exact .inr ⟨⟨_, rfl, nofun⟩, rfl⟩
  | sign sign =>
    cases sign with
    | lParen =>
      refine .inl ⟨hP _ rfl, (he s' (by omega)).bind fun first s'' hs'' => ?_⟩
      refine .eat (hP _ rfl) (fun u hu => ?_) (.expect (hP _ rfl) fun _ _ => .pure first)
      exact (agree_itemsUntil hP .rParen he hn hn' u (by omega)).map _
    | lBracket =>
      exact .inl ⟨hP _ rfl, (agree_itemsUntil hP .rBracket he hn hn' s' (by omega)).map _⟩
    | lBrace =>
      refine .inl ⟨hP _ rfl, ?_⟩
      exact (agree_itemsUntil hP .rBrace (agree_pair hP he) hn hn' s' (by omega)).map _
    | _ => exact .inr ⟨⟨_, rfl, nofun⟩, rfl⟩
  | _ => exact .inr ⟨⟨_, rfl, nofun⟩, rfl⟩

theorem agree_suffixesTurn (he : AgreeBelow P k expr expr') {again again' : Expr → Parser Expr}
    (ha : ∀ e, AgreeBelow P k (again e) (again' e)) (base : Expr) :
    AgreeBelow P (k + 1) (suffixesTurn expr again base) (suffixesTurn expr' again' base) := by
  intro s hs
  unfold suffixesTurn
  refine .peek ?_
  split
  · next h =>
    refine .next_of h (hP _ rfl) fun s' hs' _ => .next (fun _ => .fault nofun) fun t u hu => ?_
    split
    iterate 2
      next h =>
        cases h
        exact .inl ⟨hP _ rfl, ha _ u (by omega)⟩
    · exact .inr ⟨⟨_, rfl, nofun⟩, rfl⟩
  · next h =>
    refine .next_of h (hP _ rfl) fun s' hs' _ => (he s' (by omega)).bind fun subscript u hu => ?_
    exact .expect (hP _ rfl) fun v hv => ha _ v (by omega)
  · exact .fault nofun
  · exact .pure base

theorem agree_suffixesOf (he : AgreeBelow P k expr expr') (hn : k < n) (hn' : k < n')
    (base : Expr) : AgreeBelow P (k + 1) (suffixesOf expr n base) (suffixesOf expr' n' base) :=
  .loop (fun _ _ => rfl) (fun _ _ => rfl) (fun _ hj _ _ ha base =>
    agree_suffixesTurn hP (he.mono (Nat.le_of_lt_succ hj)) ha base) hn hn' base

theorem agree_suffixed (he : AgreeBelow P k expr expr') (hn : k < n) (hn' : k < n') :
    AgreeBelow P (k + 1) (suffixed expr n) (suffixed expr' n') := by
  intro s hs
  refine (agree_primary hP he (Nat.le_of_lt hn) (Nat.le_of_lt hn') s hs).bind fun base s' hs' => ?_
  exact agree_suffixesOf hP he hn hn' base s' (by omega)

theorem agree_signedTurn (he : AgreeBelow P k expr expr') (hn : k < loops) (hn' : k < loops')
    {again again' : Parser Expr} (ha : AgreeBelow P k again again') :
    AgreeBelow P (k + 1) (signedTurn expr loops again) (signedTurn expr' loops' again') := by
  intro s hs
  unfold signedTurn
  refine .peek ?_
  split
  · next h => exact .next_of h (hP _ rfl) fun s' hs' _ => (ha s' (by omega)).map _
  · next h => exact .next_of h (hP _ rfl) fun s' hs' _ => (ha s' (by omega)).map _
  · exact agree_suffixed hP he hn hn' s hs

theorem agree_signed (he : AgreeBelow P k expr expr') (hl : k < loops) (hl' : k < loops')
    (hn : k < n) (hn' : k < n') :
    AgreeBelow P (k + 1) (signed expr loops n) (signed expr' loops' n') :=
  .loop_unit (fun _ => rfl) (fun _ => rfl) (fun _ hj _ _ ha =>
    agree_signedTurn hP (he.mono (Nat.le_of_lt_succ hj)) (Nat.lt_of_lt_of_le hj hl)
      (Nat.lt_of_lt_of_le hj hl') ha) hn hn'

theorem agree_filtersTurn (he : AgreeBelow P k expr expr') (hl : k ≤ loops) (hl' : k ≤ loops')
    {again again' : Expr → Parser Expr} (ha : ∀ e, AgreeBelow P k (again e) (again' e))
    (subject : Expr) : AgreeBelow P (k + 1) (filtersTurn expr loops again subject)
      (filtersTurn expr' loops' again' subject) := by
  intro s hs
  refine .eat (hP _ rfl) (fun s' hs' => ?_) (.pure subject)
  refine .ident _ (fun _ => hP _ rfl) fun name u hu => .peek (.ite (fun _ => ?_) fun _ => ?_)
  · refine (agree_arguments hP he hl hl' u (by omega)).bind fun args v hv => ?_
    exact ha _ v (by omega)
  · exact ha _ u (by omega)

theorem agree_filtersOf (he : AgreeBelow P k expr expr') (hl : k < loops) (hl' : k < loops')
    (hn : k < n) (hn' : k < n') (subject : Expr) : AgreeBelow P (k + 1)
      (filtersOf expr loops n subject) (filtersOf expr' loops' n' subject) :=
  .loop (fun _ _ => rfl) (fun _ _ => rfl) (fun j hj _ _ ha subject =>
    agree_filtersTurn hP (he.mono (Nat.le_of_lt_succ hj)) (by omega) (by omega) ha subject)
    hn hn' subject

theorem agree_filtered (he : AgreeBelow P k expr expr') (hn : k < n) (hn' : k < n') :
    AgreeBelow P (k + 1) (filtered expr n) (filtered expr' n') := by
  intro s hs
  refine (agree_signed hP he hn hn' hn hn' s hs).bind fun subject s' hs' => ?_
  exact agree_filtersOf hP he hn hn' hn hn' subject s' (by omega)

theorem agree_product (he : AgreeBelow P k expr expr') (hn : k < n) (hn' : k < n') :
    AgreeBelow P (k + 1) (leftAssoc productOp? (filtered expr n) n)
      (leftAssoc productOp? (filtered expr' n') n') :=
  agree_leftAssoc hP isInner_of_productOp? (agree_filtered hP he hn hn') hn hn'

theorem agree_join (he : AgreeBelow P k expr expr') (hn : k < n) (hn' : k < n') :
    AgreeBelow P (k + 1) (leftAssoc joinOp? (leftAssoc productOp? (filtered expr n) n) n)
      (leftAssoc joinOp? (leftAssoc productOp? (filtered expr' n') n') n') :=
  agree_leftAssoc hP isInner_of_joinOp? (agree_product hP he hn hn') hn hn'

theorem agree_sum (he : AgreeBelow P k expr expr') (hn : k < n) (hn' : k < n') :
    AgreeBelow P (k + 1) (Parser.sum expr n) (Parser.sum expr' n') :=
  agree_leftAssoc hP isInner_of_sumOp? (agree_join hP he hn hn') hn hn'

theorem agree_test (he : AgreeBelow P k expr expr') (hn : k ≤ n) (hn' : k ≤ n')
    (subject : Expr) : AgreeBelow P k (test expr n subject) (test expr' n' subject) := by
  intro s hs
  refine (Agree.eat_self (hP _ rfl)).bind fun negated s' hs' => ?_
  refine .one (takesOne_testName s') (fun _ t ht => hP t ht) fun name u hu => .peek ?_
  split
  · exact (agree_arguments hP he hn hn' u (by omega)).map _
  iterate 3
    next h => exact .next_of h (hP _ rfl) fun _ _ _ => .pure _
  · exact .pure _

theorem agree_comparisonsTurn (he : AgreeBelow P k expr expr') (hl : k < loops)
    (hl' : k < loops') {again again' : Expr → Parser Expr}
    (ha : ∀ e, AgreeBelow P k (again e) (again' e)) (left : Expr) :
    AgreeBelow P (k + 1) (comparisonsTurn expr loops again left)
      (comparisonsTurn expr' loops' again' left) := by
  intro s hs
  unfold comparisonsTurn
  refine .peek ?_
  split
  · next h =>
    refine .next_of h (hP _ rfl) fun s' hs' _ => ?_
    refine (agree_test hP he (Nat.le_of_lt hl) (Nat.le_of_lt hl') left s' (by omega)).bind
      fun e u hu => ?_
    exact ha e u (by omega)
  · next h =>
    refine .peekAt 1 (.ite (fun h₁ => ?_) fun _ => .pure left)
    refine .next_of h (hP _ rfl) fun s' hs' hahead => ?_
    refine .next_of ((hahead 0).trans h₁) (hP _ rfl) fun u hu _ => ?_
    refine (agree_sum hP he hl hl' u (by omega)).bind fun right v hv => ?_
    exact ha _ v (by omega)
  · cases hop : (s.ahead 0).bind comparisonOp? with
    | none => exact .pure left
    | some op =>
      obtain ⟨t, ht, hb⟩ := Option.bind_eq_some_iff.1 hop
      have hinner := isInner_of_comparisonOp? t (Option.isSome_of_eq_some hb)
      refine .next_of ht (hP t hinner) fun s' hs' _ => ?_
      refine (agree_sum hP he hl hl' s' (by omega)).bind fun right u hu => ?_
      exact ha _ u (by omega)

theorem agree_comparisonsOf (he : AgreeBelow P k expr expr') (hl : k < loops)
    (hl' : k < loops') (hn : k < n) (hn' : k < n') (left : Expr) : AgreeBelow P (k + 1)
      (comparisonsOf expr loops n left) (comparisonsOf expr' loops' n' left) :=
  .loop (fun _ _ => rfl) (fun _ _ => rfl) (fun j hj _ _ ha left =>
    agree_comparisonsTurn hP (he.mono (Nat.le_of_lt_succ hj)) (by omega) (by omega) ha left)
    hn hn' left

theorem agree_comparison (he : AgreeBelow P k expr expr') (hn : k < n) (hn' : k < n') :
    AgreeBelow P (k + 1) (comparison expr n) (comparison expr' n') := by
  intro s hs
  refine (agree_sum hP he hn hn' s hs).bind fun left s' hs' => ?_
  exact agree_comparisonsOf hP he hn hn' hn hn' left s' (by omega)

theorem agree_negationTurn (he : AgreeBelow P k expr expr') (hl : k < loops) (hl' : k < loops')
    {again again' : Parser Expr} (ha : AgreeBelow P k again again') :
    AgreeBelow P (k + 1) (negationTurn expr loops again) (negationTurn expr' loops' again') := by
  intro s hs
  refine .eat (hP _ rfl) (fun s' hs' => (ha s' (by omega)).map _) ?_
  exact agree_comparison hP he hl hl' s hs

theorem agree_negation (he : AgreeBelow P k expr expr') (hl : k < loops) (hl' : k < loops')
    (hn : k < n) (hn' : k < n') :
    AgreeBelow P (k + 1) (negation expr loops n) (negation expr' loops' n') :=
  .loop_unit (fun _ => rfl) (fun _ => rfl) (fun j hj _ _ ha =>
    agree_negationTurn hP (he.mono (Nat.le_of_lt_succ hj)) (by omega) (by omega) ha) hn hn'

theorem agree_conjunction (he : AgreeBelow P k expr expr') (hn : k < n) (hn' : k < n') :
    AgreeBelow P (k + 1) (leftAssoc andOp? (negation expr n n) n)
      (leftAssoc andOp? (negation expr' n' n') n') :=
  agree_leftAssoc hP isInner_of_andOp? (agree_negation hP he hn hn' hn hn') hn hn'

theorem agree_disjunction (he : AgreeBelow P k expr expr') (hn : k < n) (hn' : k < n') :
    AgreeBelow P (k + 1) (disjunction expr n) (disjunction expr' n') :=
  agree_leftAssoc hP isInner_of_orOp? (agree_conjunction hP he hn hn') hn hn'

/-- **One level of the nesting of expressions,** from the brackets inside to the whole. -/
theorem agree_conditional (he : AgreeBelow P k expr expr') (hn : k < n) (hn' : k < n') :
    AgreeBelow P (k + 1) (Parser.conditional expr n) (Parser.conditional expr' n') := by
  intro s hs
  refine (agree_disjunction hP he hn hn' s hs).bind fun value s' hs' => ?_
  refine .eat (hP _ rfl) (fun u hu => ?_) (.pure value)
  refine (agree_disjunction hP he hn hn' u (by omega)).bind fun condition v hv => ?_
  refine .eat (hP _ rfl) (fun w hw => ?_) (.pure _)
  exact (he w (by omega)).map _

/-- **An expression is the same for any number of steps above the number of tokens,** and only
takes tokens that stand inside tags. -/
theorem agree_expression (hn : k < n) (hn' : k < n') :
    AgreeBelow P k (expression n) (expression n') := by
  induction k generalizing n n' with
  | zero => exact fun s hs => absurd hs (Nat.not_lt_zero _)
  | succ k ih =>
    obtain ⟨n, rfl⟩ := Nat.exists_eq_add_one.2 (Nat.zero_lt_of_lt hn)
    obtain ⟨n', rfl⟩ := Nat.exists_eq_add_one.2 (Nat.zero_lt_of_lt hn')
    have hn := Nat.lt_of_succ_lt_succ hn
    have hn' := Nat.lt_of_succ_lt_succ hn'
    exact agree_conditional hP (ih hn hn') hn hn'

/-! ### What stands in the tags of statements -/

theorem agree_targetsTurn {again again' : Parser (List String)}
    (ha : AgreeBelow P k again again') :
    AgreeBelow P (k + 1) (targetsTurn again) (targetsTurn again') := by
  intro s hs
  refine .eat (hP _ rfl) (fun s' hs' => ?_) (.pure [])
  refine .ident _ (fun _ => hP _ rfl) fun target u hu => ?_
  exact (ha u (by omega)).map _

theorem agree_targetsOf (hn : k ≤ n) (hn' : k ≤ n') :
    AgreeBelow P k (targetsOf n) (targetsOf n') :=
  .loop_unit (fun _ => rfl) (fun _ => rfl) (fun _ _ _ _ ha => agree_targetsTurn hP ha) hn hn'

theorem agree_assignment (hn : k < n) (hn' : k < n') :
    AgreeBelow P (k + 1) (assignment n) (assignment n') := by
  intro s hs
  refine .expect (hP _ rfl) fun s' hs' => .ident _ (fun _ => hP _ rfl) fun target u hu => ?_
  refine .expect (hP _ rfl) fun v hv => ?_
  refine (agree_expression hP hn hn' v (by omega)).bind fun value _ _ => ?_
  exact .expect (hP _ rfl) fun _ _ => .pure _

end

end Parser
end MailMerge
