/-
# Printed expressions are parsed back

The parser inverts the printer (`Template.ofSource_source`): a printed expression in a
variable tag is parsed as that expression.  The proof is by induction on the expression.  An
expression is read at its own level, by one lemma for each kind; from there it is read at
every looser level (`Expr.ReadAt.descend`), because what may follow it there continues no
level in between.  An expression looser than its place stands in parentheses, which are read
at the tightest level.

The levels of operators and filters are chains, read by the steps of a loop; negation and
signs are prefixes, read by recursion; the conditional and the primary are read at once.
-/

import MailMerge.Proofs.Rows
import MailMerge.Proofs.Template.Spelling
import MailMerge.Proofs.Template.Takes

namespace MailMerge

/-! ### What an expression may be followed by and start with -/

namespace Expr.Level

theorem rank_tighter {k : Level} (h : k ≠ .primary) : k.tighter.rank = k.rank + 1 := by
  cases k <;> first | rfl | exact absurd rfl h

theorem rank_tighter_le (k : Level) : k.tighter.rank ≤ k.rank + 1 := by cases k <;> decide

theorem rank_injective {j k : Level} (h : j.rank = k.rank) : j = k := by
  cases j <;> cases k <;> first | rfl | exact absurd h (by decide)

theorem rank_pos (k : Level) : 0 < k.rank := by cases k <;> decide

theorem rank_le_primary (k : Level) : k.rank ≤ primary.rank := by cases k <;> decide

/-- **From a level to the looser ones,** step by step. -/
theorem descend {motive : Level → Prop} {j k : Level} (h : motive j)
    (loosen : ∀ k : Level, k.rank < j.rank → motive k.tighter → motive k) (hle : k.rank ≤ j.rank) :
    motive k := by
  obtain ⟨d, hd⟩ := Nat.exists_eq_add_of_le hle
  induction d generalizing k with
  | zero => exact rank_injective hd ▸ h
  | succ d ih =>
    have hk : k ≠ .primary := by
      rintro rfl
      have := j.rank_le_primary
      omega
    have hrank := rank_tighter hk
    exact loosen k (by omega) (ih (by omega) (by omega))

end Expr.Level

namespace Token

/-- The rank of the level that goes on with a token: zero if it ends every expression, and more
than all if it never follows one. -/
def link : Token → Nat
  | .keyword .ifTag => 1
  | .keyword .elseTag => 1
  | .keyword .orWord => 2
  | .keyword .andWord => 3
  | .keyword .notWord => 5
  | .keyword .isWord => 5
  | .keyword .inWord => 5
  | .sign .eqEq => 5
  | .sign .notEq => 5
  | .sign .lt => 5
  | .sign .ltEq => 5
  | .sign .gt => 5
  | .sign .gtEq => 5
  | .sign .plus => 6
  | .sign .minus => 6
  | .sign .tilde => 7
  | .sign .star => 8
  | .sign .slash => 8
  | .sign .slashSlash => 8
  | .sign .percent => 8
  | .sign .pipe => 9
  | .sign .dot => 11
  | .sign .lBracket => 11
  | t => if t.isStop then 0 else 13

/-- The rank of the tightest level at which an expression starts with a token. -/
def origin : Token → Nat
  | .keyword .notWord => 4
  | .sign .minus => 10
  | .sign .plus => 10
  | .sign .lParen => 12
  | .sign .lBracket => 12
  | .sign .lBrace => 12
  | .keyword .trueWord => 12
  | .keyword .falseWord => 12
  | .keyword .noneWord => 12
  | .str _ => 12
  | .int _ => 12
  | .float _ => 12
  | .ident _ => 12
  | _ => 0

end Token

namespace Expr

open MailMerge.Parser

variable {k : Level} {fuel n : Nat} {e : Expr} {ts us : List Token}

/-- What may follow an expression at a level: nothing that the level or a tighter one goes on
with. -/
def Follows (k : Level) (us : List Token) : Prop := ∀ t ∈ us.head?, t.link < k.rank

theorem Follows.ne {t : Token} (h : Follows k us) (ht : k.rank ≤ t.link) : us.head? ≠ some t :=
  fun heq => absurd (h t heq) (Nat.not_lt.2 ht)

theorem Follows.mono {j : Level} (h : Follows k us) (hle : k.rank ≤ j.rank) : Follows j us :=
  fun t ht => Nat.lt_of_lt_of_le (h t ht) hle

theorem follows_cons {t : Token} (h : t.link < k.rank) : Follows k (t :: us) :=
  fun _ hu => Option.some.inj hu ▸ h

theorem follows_stop {t : Token} (h : t.isStop = true) : Follows k (t :: us) := by
  refine follows_cons ?_
  have hzero : t.link = 0 := by
    unfold Token.isStop at h
    split at h <;> first | rfl | cases h
  rw [hzero]
  exact k.rank_pos

/-- How an expression at a level starts: with a token of that level or a tighter one, and not
with what looks like the name of an argument. -/
def Starts (k : Level) (ts : List Token) : Prop :=
  ∃ t us, ts = t :: us ∧ k.rank ≤ t.origin ∧ us.head? ≠ some (Token.sign .assign)

theorem Starts.mono {j : Level} (h : Starts k ts) (hle : j.rank ≤ k.rank) : Starts j ts := by
  obtain ⟨t, us, rfl, ht, hus⟩ := h
  exact ⟨t, us, rfl, Nat.le_trans hle ht, hus⟩

theorem Starts.ne_nil (h : Starts k ts) : ts ≠ [] := by
  obtain ⟨t, us, rfl, -⟩ := h
  exact List.cons_ne_nil t us

theorem Starts.head?_ne {t : Token} (h : Starts k ts) (ht : t.origin < k.rank) :
    ts.head? ≠ some t := by
  obtain ⟨u, us, rfl, hu, -⟩ := h
  rintro ⟨⟩
  omega

theorem Starts.head?_append_ne {t : Token} (h : Starts k ts) (ht : t.origin < k.rank)
    (us : List Token) : (ts ++ us).head? ≠ some t :=
  Parser.head?_append_ne h.ne_nil (h.head?_ne ht)

theorem Starts.second_ne (h : Starts k ts) : ts[1]? ≠ some (Token.sign .assign) := by
  obtain ⟨t, us, rfl, -, hus⟩ := h
  rwa [List.getElem?_cons_succ, ← List.head?_eq_getElem?]

theorem Starts.append (h : Starts k ts) (hus : us.head? ≠ some (Token.sign .assign)) :
    Starts k (ts ++ us) := by
  obtain ⟨t, vs, rfl, ht, hvs⟩ := h
  refine ⟨t, vs ++ us, rfl, ht, ?_⟩
  cases vs with
  | nil => exact hus
  | cons => exact hvs

theorem starts_cons {t : Token} (ht : k.rank ≤ t.origin)
    (hts : ts.head? ≠ some (Token.sign .assign)) : Starts k (t :: ts) := ⟨t, ts, rfl, ht, hts⟩

theorem starts_within (h : Starts e.level ts) : Starts k (within k e ts) := by
  unfold within
  split_ifs with hlt
  · refine starts_cons k.rank_le_primary ?_
    exact h.head?_append_ne (t := .sign .assign) e.level.rank_pos _
  · exact h.mono (Nat.le_of_not_lt hlt)

/-- **An expression starts at its own level.** -/
theorem starts_tokens (e : Expr) : Starts e.level e.tokens := by
  have hprefix : ∀ {k : Level} {e : Expr} {t : Token}, k.rank ≤ t.origin →
      Starts e.level e.tokens → Starts k (t :: within k e e.tokens) := fun ht h =>
    starts_cons ht ((starts_within h).head?_ne (Level.rank_pos _))
  induction e using Expr.induction with
  | str | int | float | name | null => exact starts_cons (Nat.le_refl _) (by simp)
  | bool b => cases b <;> exact starts_cons (Nat.le_refl _) (by simp)
  | list items ih =>
    rw [tokens, itemRows_eq_map]
    refine starts_cons (Nat.le_refl _) (head?_commas_ne (List.forall_mem_map.2 fun e he => ?_)
      (by decide) _)
    exact ⟨(ih e he).ne_nil, (ih e he).head?_ne (Level.rank_pos _)⟩
  | dict pairs ih =>
    rw [tokens, pairRows_eq_map]
    refine starts_cons (Nat.le_refl _) (head?_commas_ne (List.forall_mem_map.2 fun e he => ?_)
      (by decide) _)
    have hkey := (ih e he).1
    exact ⟨by simp, hkey.head?_append_ne (t := .sign .assign) (Level.rank_pos _) _⟩
  | attr base key ih => exact (starts_within ih).append (by simp)
  | index base subscript ihb => exact (starts_within ihb).append (by simp)
  | binary op left right ihl =>
    refine (starts_within ihl).append ?_
    cases op <;> simp [BinaryOp.tokens]
  | and left right ihl => exact (starts_within ihl).append (by simp)
  | or left right ihl => exact (starts_within ihl).append (by simp)
  | not e ih => exact hprefix (Nat.le_refl _) ih
  | neg e ih => exact hprefix (Nat.le_refl _) ih
  | pos e ih => exact hprefix (Nat.le_refl _) ih
  | filter subject label args kwargs ihs => exact (starts_within ihs).append (by simp)
  | test subject label args kwargs negated ihs => exact (starts_within ihs).append (by simp)
  | cond value condition otherwise ihv =>
    have hvalue : Starts .disjunction (within .disjunction value value.tokens ++ .keyword .ifTag ::
        (within .disjunction condition condition.tokens ++ elseTokens otherwise)) :=
      (starts_within ihv).append (by simp)
    exact hvalue.mono (Nat.le_succ 1)

/-! ### Reading at a level -/

/-- The parser of a level, whose loops and brackets have this many steps. -/
def parserAt (fuel : Nat) : Level → Parser Expr
  | .conditional => Parser.conditional (expression fuel) fuel
  | .disjunction => disjunction (expression fuel) fuel
  | .conjunction => leftAssoc andOp? (negation (expression fuel) fuel fuel) fuel
  | .negation => negation (expression fuel) fuel fuel
  | .comparison => comparison (expression fuel) fuel
  | .sum => Parser.sum (expression fuel) fuel
  | .join =>
    leftAssoc joinOp? (leftAssoc productOp? (filtered (expression fuel) fuel) fuel) fuel
  | .product => leftAssoc productOp? (filtered (expression fuel) fuel) fuel
  | .filtered => filtered (expression fuel) fuel
  | .signed => signed (expression fuel) fuel fuel
  | .suffixed => suffixed (expression fuel) fuel
  | .primary => primary (expression fuel) fuel

/-- The levels that go on in a loop. -/
def Level.loops : Level → Bool
  | .conditional => false
  | .negation => false
  | .signed => false
  | .primary => false
  | _ => true

/-- The loop of a level, from what it has read so far. -/
def loopAt (fuel : Nat) : Level → Nat → Expr → Parser Expr
  | .disjunction => leftAssocFrom orOp? (parserAt fuel .conjunction)
  | .conjunction => leftAssocFrom andOp? (parserAt fuel .negation)
  | .comparison => comparisonsOf (expression fuel) fuel
  | .sum => leftAssocFrom sumOp? (parserAt fuel .join)
  | .join => leftAssocFrom joinOp? (parserAt fuel .product)
  | .product => leftAssocFrom productOp? (parserAt fuel .filtered)
  | .filtered => filtersOf (expression fuel) fuel
  | .suffixed => suffixesOf (expression fuel)
  | _ => fun _ e => pure e

theorem parserAt_eq_loopAt (hk : k.loops = true) (fuel : Nat) :
    parserAt fuel k = parserAt fuel k.tighter >>= loopAt fuel k fuel := by
  cases k <;> first | rfl | cases hk

/-- A loop of operators stops in front of any other token. -/
theorem takes_leftAssocFrom_stop {op? : Token → Option (Expr → Expr → Expr)}
    {operand : Parser Expr} (h : ∀ t ∈ us.head?, op? t = none) :
    Takes (leftAssocFrom op? operand (n + 1) e) us e us := by
  have hnone : us.head?.bind op? = none := by
    cases us with
    | nil => rfl
    | cons t us => exact h t rfl
  refine (Takes.peek _).bind ?_
  rw [hnone]
  exact Takes.pure e us

/-- **A loop stops in front of what follows its level.** -/
theorem takes_loopAt_stop (hus : Follows k us) : Takes (loopAt fuel k (n + 1) e) us e us := by
  have hop : ∀ {op? : Token → Option (Expr → Expr → Expr)},
      (∀ t, t.link < k.rank → op? t = none) → ∀ t ∈ us.head?, op? t = none :=
    fun h t ht => h t (hus t ht)
  cases k with
  | disjunction =>
    refine takes_leftAssocFrom_stop (hop fun t ht => ?_)
    unfold orOp?
    split <;> first | rfl | exact absurd ht (by decide)
  | conjunction =>
    refine takes_leftAssocFrom_stop (hop fun t ht => ?_)
    unfold andOp?
    split <;> first | rfl | exact absurd ht (by decide)
  | comparison =>
    refine (Takes.peek _).bind ?_
    split
    · next h => exact absurd h (hus.ne (by decide))
    · next h => exact absurd h (hus.ne (by decide))
    · have hnone : us.head?.bind comparisonOp? = none := by
        cases us with
        | nil => rfl
        | cons t us =>
          have ht := hus t rfl
          change comparisonOp? t = none
          unfold comparisonOp?
          split <;> first | rfl | exact absurd ht (by decide)
      rw [hnone]
      exact Takes.pure e us
  | sum =>
    refine takes_leftAssocFrom_stop (hop fun t ht => ?_)
    unfold sumOp?
    split <;> first | rfl | exact absurd ht (by decide)
  | join =>
    refine takes_leftAssocFrom_stop (hop fun t ht => ?_)
    unfold joinOp?
    split <;> first | rfl | exact absurd ht (by decide)
  | product =>
    refine takes_leftAssocFrom_stop (hop fun t ht => ?_)
    unfold productOp?
    split <;> first | rfl | exact absurd ht (by decide)
  | filtered =>
    refine (Takes.eat_ne (hus.ne (by decide))).bind ?_
    exact Takes.pure e us
  | suffixed =>
    refine (Takes.peek _).bind ?_
    split
    · next h => exact absurd h (hus.ne (by decide))
    · next h => exact absurd h (hus.ne (by decide))
    · next h => exact absurd h (hus.ne (by decide))
    · exact Takes.pure e us
  | _ => exact Takes.pure e us

/-- What it is for an expression to be read off a row of tokens at a level.  At a level with a
loop the loop goes on with the expression, after no more steps than there are tokens. -/
def ReadAt (fuel : Nat) (k : Level) (e : Expr) (ts : List Token) : Prop :=
  match k with
  | .negation => ∀ n us, ts.length < n → Follows .negation us →
      Takes (negation (expression fuel) fuel n) (ts ++ us) e us
  | .signed => ∀ n us, ts.length < n → Follows .signed us →
      Takes (signed (expression fuel) fuel n) (ts ++ us) e us
  | .conditional => ∀ us, Follows .conditional us →
      Takes (parserAt fuel .conditional) (ts ++ us) e us
  | .primary => ∀ us, Takes (parserAt fuel .primary) (ts ++ us) e us
  | k => ∃ m ≤ ts.length, ∀ us b vs, Follows k.tighter us →
      Takes (loopAt fuel k (fuel - m) e) us b vs → Takes (parserAt fuel k) (ts ++ us) b vs

theorem readAt_loop (hk : k.loops = true) : ReadAt fuel k e ts ↔
    ∃ m ≤ ts.length, ∀ us b vs, Follows k.tighter us →
      Takes (loopAt fuel k (fuel - m) e) us b vs → Takes (parserAt fuel k) (ts ++ us) b vs := by
  cases k <;> first | exact Iff.rfl | cases hk

/-- **An expression that is read at a level is taken by its parser.** -/
theorem ReadAt.takes (h : ReadAt fuel k e ts) (hfuel : ts.length < fuel) (hus : Follows k us) :
    Takes (parserAt fuel k) (ts ++ us) e us := by
  by_cases hk : k.loops = true
  · obtain ⟨m, hm, h⟩ := (readAt_loop hk).1 h
    obtain ⟨n, hn⟩ := Nat.exists_eq_add_one.2 (show 0 < fuel - m by omega)
    have htighter : k.rank ≤ k.tighter.rank := by cases k <;> decide
    refine h us e us (hus.mono htighter) ?_
    rw [hn]
    exact takes_loopAt_stop hus
  · cases k with
    | conditional => exact h us hus
    | negation => exact h fuel us hfuel hus
    | signed => exact h fuel us hfuel hus
    | primary => exact h us
    | _ => exact absurd rfl hk

/-- An expression that starts like one of the next tighter level and is read there is read at
this level. -/
theorem ReadAt.loosen (h : ReadAt fuel k.tighter e ts) (hs : Starts k.tighter ts)
    (hfuel : ts.length < fuel) : ReadAt fuel k e ts := by
  by_cases hk : k.loops = true
  · refine (readAt_loop hk).2 ⟨0, Nat.zero_le _, fun us b vs hus hloop => ?_⟩
    rw [parserAt_eq_loopAt hk]
    exact (h.takes hfuel hus).bind hloop
  · cases k with
    | conditional =>
      intro us hus
      refine (h.takes hfuel (hus.mono (by decide))).bind ?_
      refine (Takes.eat_ne (hus.ne (by decide))).bind ?_
      exact Takes.pure e us
    | negation =>
      intro n us hn hus
      obtain ⟨n, rfl⟩ := Nat.exists_eq_add_one.2 (Nat.zero_lt_of_lt hn)
      refine (Takes.eat_ne (hs.head?_append_ne (by decide) us)).bind ?_
      exact h.takes hfuel (hus.mono (by decide))
    | signed =>
      intro n us hn hus
      obtain ⟨n, rfl⟩ := Nat.exists_eq_add_one.2 (Nat.zero_lt_of_lt hn)
      refine (Takes.peek _).bind ?_
      split
      · next heq => exact absurd heq (hs.head?_append_ne (by decide) us)
      · next heq => exact absurd heq (hs.head?_append_ne (by decide) us)
      · exact h.takes hfuel (hus.mono (by decide))
    | primary => exact h
    | _ => exact absurd rfl hk

/-- **What is read at a level is read at every looser one.** -/
theorem ReadAt.descend {j : Level} (h : ReadAt fuel j e ts) (hs : Starts j ts)
    (hfuel : ts.length < fuel) (hle : k.rank ≤ j.rank) : ReadAt fuel k e ts := by
  refine Level.descend (motive := fun k => ReadAt fuel k e ts) h (fun k hk hread => ?_) hle
  refine hread.loosen (hs.mono ?_) hfuel
  exact k.rank_tighter_le.trans hk

/-! ### Reading the parts -/

/-- An expression is read at its own level. -/
def Reads (e : Expr) : Prop := ∀ fuel, e.tokens.length < fuel → ReadAt fuel e.level e e.tokens

/-- Between brackets what is read at some level is read from the top. -/
theorem takes_expression_of_readAt (h : ∀ fuel, ts.length < fuel → ReadAt fuel k e ts)
    (hs : Starts k ts) (hfuel : ts.length + 1 < fuel) (hus : Follows .conditional us) :
    Takes (Parser.expression fuel) (ts ++ us) e us := by
  obtain ⟨fuel, rfl⟩ := Nat.exists_eq_add_one.2 (Nat.zero_lt_of_lt hfuel)
  have hfuel : ts.length < fuel := Nat.lt_of_succ_lt_succ hfuel
  have hread := (h fuel hfuel).descend (k := .conditional) hs hfuel k.rank_pos
  exact hread us hus

theorem Reads.expression (h : Reads e) (hfuel : e.tokens.length + 1 < fuel)
    (hus : Follows .conditional us) :
    Takes (Parser.expression fuel) (e.tokens ++ us) e us :=
  takes_expression_of_readAt h (starts_tokens e) hfuel hus

theorem Reads.row (h : Reads e) (hfuel : e.tokens.length + 1 < fuel) :
    TakesRow (Parser.expression fuel) e.tokens e :=
  fun _ _ ht => h.expression hfuel (follows_stop ht)

/-- **An expression is read in any place,** in parentheses or not. -/
theorem Reads.within (h : Reads e) (hfuel : (within k e e.tokens).length < fuel) :
    ReadAt fuel k e (within k e e.tokens) := by
  unfold Expr.within at hfuel ⊢
  split_ifs with hlt
  · rw [if_pos hlt, List.length_append, List.length_cons, List.length_singleton] at hfuel
    have hparens : ReadAt fuel .primary e (.sign .lParen :: e.tokens ++ [Token.sign .rParen]) := by
      intro us
      rw [List.append_assoc]
      refine (Takes.next _ _).bind ?_
      refine (h.expression (by omega) (follows_stop rfl)).bind ?_
      refine (Takes.eat_ne (by simp)).bind ?_
      exact (Takes.expect _ _).bind (Takes.pure e us)
    refine hparens.descend (starts_cons (Nat.le_refl _) ?_) (by simp; omega) k.rank_le_primary
    exact (starts_tokens e).head?_append_ne (t := .sign .assign) e.level.rank_pos _
  · rw [if_neg hlt] at hfuel
    exact (h fuel hfuel).descend (starts_tokens e) hfuel (Nat.le_of_not_lt hlt)

/-- A part is taken by the parser of the level that its place asks for. -/
theorem Reads.takes_within (h : Reads e) (hfuel : (Expr.within k e e.tokens).length < fuel)
    (hus : Follows k us) : Takes (parserAt fuel k) (Expr.within k e e.tokens ++ us) e us :=
  (h.within hfuel).takes hfuel hus

/-- **A chain goes on.**  What the loop of a level makes of an expression and the tokens of one
more link is read at that level. -/
theorem ReadAt.chain {l : Expr} {ls : List Token} (h : ReadAt fuel k l ts)
    (hk : k.loops = true) (hls : ls ≠ []) (hfuel : ts.length < fuel)
    (hfollows : ∀ us, Follows k.tighter (ls ++ us))
    (hlink : ∀ n us b vs, Follows k.tighter us → Takes (loopAt fuel k n e) us b vs →
      Takes (loopAt fuel k (n + 1) l) (ls ++ us) b vs) :
    ReadAt fuel k e (ts ++ ls) := by
  obtain ⟨m, hm, h⟩ := (readAt_loop hk).1 h
  have hpos := List.length_pos_iff.2 hls
  refine (readAt_loop hk).2 ⟨m + 1, by rw [List.length_append]; omega, fun us b vs hus hloop => ?_⟩
  rw [List.append_assoc]
  refine h _ _ _ (hfollows us) ?_
  have hsteps : fuel - m = fuel - (m + 1) + 1 := by omega
  rw [hsteps]
  exact hlink _ us b vs hus hloop

/-- One more operator of a level in a chain of them. -/
theorem takes_leftAssocFrom_link {op? : Token → Option (Expr → Expr → Expr)}
    {operand : Parser Expr} {build : Expr → Expr → Expr} {t : Token} {left right b : Expr}
    {vs : List Token} (hop : op? t = some build) (hright : Takes operand (ts ++ us) right us)
    (hloop : Takes (leftAssocFrom op? operand n (build left right)) us b vs) :
    Takes (leftAssocFrom op? operand (n + 1) left) (t :: ts ++ us) b vs := by
  refine (Takes.peek _).bind ?_
  have hbind : (t :: ts ++ us).head?.bind op? = some build := hop
  rw [hbind]
  exact (Takes.next _ _).bind (hright.bind hloop)

/-- Both operands of an operator, and the operator between them. -/
theorem Reads.leftAssoc {op? : Token → Option (Expr → Expr → Expr)}
    {build : Expr → Expr → Expr} {t : Token} {left right : Expr} (hl : Reads left)
    (hr : Reads right) (hk : k.loops = true)
    (hloop : ∀ fuel, loopAt fuel k = leftAssocFrom op? (parserAt fuel k.tighter))
    (hop : op? t = some build) (ht : t.link < k.tighter.rank)
    (hfuel : (Expr.within k left left.tokens ++
      t :: Expr.within k.tighter right right.tokens).length < fuel) :
    ReadAt fuel k (build left right) (Expr.within k left left.tokens ++
      t :: Expr.within k.tighter right right.tokens) := by
  rw [List.length_append, List.length_cons] at hfuel
  refine (hl.within (by omega)).chain hk (List.cons_ne_nil _ _) (by omega)
    (fun us => follows_cons ht) fun n us b vs hus h => ?_
  rw [hloop] at h ⊢
  exact takes_leftAssocFrom_link hop (hr.takes_within (by omega) hus) h

/-! ### One lemma for each kind of expression -/

section

variable {left right base subject value condition : Expr} {label key : String} {args : List Expr}
  {kwargs : List (String × Expr)}

/-- A comparison that is written with one token. -/
theorem readAt_comparison {op : BinaryOp} {t : Token} (hl : Reads left) (hr : Reads right)
    (hop : comparisonOp? t = some op) (ht : t.link < Level.rank .sum)
    (his : t ≠ .keyword .isWord) (hnot : t ≠ .keyword .notWord)
    (hfuel : (Expr.within .comparison left left.tokens ++
      t :: Expr.within .sum right right.tokens).length < fuel) :
    ReadAt fuel .comparison (binary op left right) (Expr.within .comparison left left.tokens ++
      t :: Expr.within .sum right right.tokens) := by
  rw [List.length_append, List.length_cons] at hfuel
  refine (hl.within (by omega)).chain rfl (List.cons_ne_nil _ _) (by omega)
    (fun us => follows_cons ht) fun n us b vs hus hloop => ?_
  have hbind : (some t).bind comparisonOp? = some op := hop
  refine (Takes.peek _).bind ?_
  rw [List.cons_append, List.head?_cons]
  split
  · next heq => exact absurd (Option.some.inj heq) his
  · next heq => exact absurd (Option.some.inj heq) hnot
  · rw [hbind]
    exact (Takes.next _ _).bind ((hr.takes_within (k := .sum) (by omega) hus).bind hloop)

theorem readAt_notIn (hl : Reads left) (hr : Reads right)
    (hfuel : (tokens (binary .notIn left right)).length < fuel) :
    ReadAt fuel .comparison (binary .notIn left right) (tokens (binary .notIn left right)) := by
  change (Expr.within .comparison left left.tokens ++
    (_ :: _ :: Expr.within .sum right right.tokens)).length < fuel at hfuel
  rw [List.length_append, List.length_cons, List.length_cons] at hfuel
  refine (hl.within (by omega)).chain rfl (List.cons_ne_nil _ _) (by omega)
    (fun us => follows_cons (by decide)) fun n us b vs hus hloop => ?_
  refine (Takes.peek _).bind ((Takes.peekAt 1 _).bind ?_)
  refine (Takes.next _ _).bind ((Takes.next _ _).bind ?_)
  exact (hr.takes_within (k := .sum) (by omega) hus).bind hloop

theorem reads_binary {op : BinaryOp} (hl : Reads left) (hr : Reads right) :
    Reads (binary op left right) := by
  intro fuel hfuel
  cases op with
  | notIn => exact readAt_notIn hl hr hfuel
  | add => exact hl.leftAssoc (k := .sum) hr rfl (fun _ => rfl) rfl (by decide) hfuel
  | sub => exact hl.leftAssoc (k := .sum) hr rfl (fun _ => rfl) rfl (by decide) hfuel
  | mul => exact hl.leftAssoc (k := .product) hr rfl (fun _ => rfl) rfl (by decide) hfuel
  | div => exact hl.leftAssoc (k := .product) hr rfl (fun _ => rfl) rfl (by decide) hfuel
  | floorDiv => exact hl.leftAssoc (k := .product) hr rfl (fun _ => rfl) rfl (by decide) hfuel
  | mod => exact hl.leftAssoc (k := .product) hr rfl (fun _ => rfl) rfl (by decide) hfuel
  | concat => exact hl.leftAssoc (k := .join) hr rfl (fun _ => rfl) rfl (by decide) hfuel
  | _ => exact readAt_comparison hl hr rfl (by decide) (by decide) (by decide) hfuel

theorem reads_and (hl : Reads left) (hr : Reads right) : Reads (and left right) :=
  fun _ hfuel => hl.leftAssoc (k := .conjunction) hr rfl (fun _ => rfl) rfl (by decide) hfuel

theorem reads_or (hl : Reads left) (hr : Reads right) : Reads (or left right) :=
  fun _ hfuel => hl.leftAssoc (k := .disjunction) hr rfl (fun _ => rfl) rfl (by decide) hfuel

theorem reads_not (h : Reads e) : Reads (not e) := by
  intro fuel hfuel n us hn hus
  obtain ⟨n, rfl⟩ := Nat.exists_eq_add_one.2 (Nat.zero_lt_of_lt hn)
  rw [tokens, List.length_cons] at hfuel hn
  refine (Takes.eat _ _).bind ?_
  exact (h.within (k := .negation) (by omega) n us (by omega) hus).bind (Takes.pure _ us)

theorem reads_neg (h : Reads e) : Reads (neg e) := by
  intro fuel hfuel n us hn hus
  obtain ⟨n, rfl⟩ := Nat.exists_eq_add_one.2 (Nat.zero_lt_of_lt hn)
  rw [tokens, List.length_cons] at hfuel hn
  refine (Takes.peek _).bind ((Takes.next _ _).bind ?_)
  exact (h.within (k := .signed) (by omega) n us (by omega) hus).bind (Takes.pure _ us)

theorem reads_pos (h : Reads e) : Reads (pos e) := by
  intro fuel hfuel n us hn hus
  obtain ⟨n, rfl⟩ := Nat.exists_eq_add_one.2 (Nat.zero_lt_of_lt hn)
  rw [tokens, List.length_cons] at hfuel hn
  refine (Takes.peek _).bind ((Takes.next _ _).bind ?_)
  exact (h.within (k := .signed) (by omega) n us (by omega) hus).bind (Takes.pure _ us)

theorem reads_attr (h : Reads base) : Reads (attr base key) := by
  intro fuel hfuel
  rw [tokens, List.length_append] at hfuel
  refine (h.within (k := .suffixed) (by omega)).chain rfl (List.cons_ne_nil _ _) (by omega)
    (fun us => follows_cons (by decide)) fun n us b vs hus hloop => ?_
  exact (Takes.peek _).bind ((Takes.next _ _).bind ((Takes.next _ _).bind hloop))

theorem reads_index (h : Reads base) (he : Reads e) : Reads (index base e) := by
  intro fuel hfuel
  rw [tokens, List.length_append, List.length_cons, List.length_append] at hfuel
  refine (h.within (k := .suffixed) (by omega)).chain rfl (List.cons_ne_nil _ _) (by omega)
    (fun us => follows_cons (by decide)) fun n us b vs hus hloop => ?_
  rw [List.cons_append, List.append_assoc]
  rw [List.length_singleton] at hfuel
  refine (Takes.peek _).bind ((Takes.next _ _).bind ?_)
  exact (he.expression (by omega) (follows_stop rfl)).bind ((Takes.expect _ _).bind hloop)

theorem reads_cond {otherwise : Option Expr} (hv : Reads value) (hc : Reads condition)
    (ho : ∀ e ∈ otherwise, Reads e) : Reads (cond value condition otherwise) := by
  intro fuel hfuel us hus
  rw [tokens, List.length_append, List.length_cons, List.length_append] at hfuel
  rw [tokens, List.append_assoc, List.cons_append, List.append_assoc]
  refine (hv.takes_within (k := .disjunction) (by omega) (follows_cons (by decide))).bind ?_
  refine (Takes.eat _ _).bind ?_
  cases otherwise with
  | none =>
    refine (hc.takes_within (k := .disjunction) (by omega) (hus.mono (by decide))).bind ?_
    exact (Takes.eat_ne (hus.ne (by decide))).bind (Takes.pure _ us)
  | some e =>
    rw [elseTokens, List.length_cons] at hfuel
    refine (hc.takes_within (k := .disjunction) (by omega) (follows_cons (by decide))).bind ?_
    refine (Takes.eat _ _).bind ?_
    exact ((ho e rfl).expression (by omega) hus).bind (Takes.pure _ us)

/-- A row between brackets has fewer tokens than there are steps. -/
theorem row_lt_fuel {row : List Token} {rows : List (List Token)} (h : row ∈ rows)
    (hfuel : (commas rows).length + 1 < fuel) : row.length + 1 < fuel :=
  Nat.lt_of_le_of_lt (Nat.succ_le_succ (part_le_intercalate _ h)) hfuel

/-- Rows between brackets, each of which is taken if there are enough steps for it. -/
theorem takes_bracketed {α : Type} {item : Parser α} {close : Sign} {row : α → List Token}
    {xs : List α} (hclose : (Token.sign close).isStop = true) (hcomma : close ≠ .comma)
    (hstart : ∀ x ∈ xs, row x ≠ [] ∧ (row x).head? ≠ some (Token.sign close))
    (hitem : ∀ x ∈ xs, (row x).length + 1 < fuel → TakesRow item (row x) x)
    (hfuel : (commas (xs.map row)).length + 1 < fuel) (us : List Token) :
    Takes (itemsUntil close item fuel) (commas (xs.map row) ++ .sign close :: us) xs us := by
  have hcount : xs.length ≤ (commas (xs.map row)).length := by
    have h := length_le_intercalate [Token.sign .comma] (xs.map row)
      (List.forall_mem_map.2 fun x hx => (hstart x hx).1)
    rwa [List.length_map] at h
  exact takes_itemsUntil hclose hcomma hstart
    (fun x hx => hitem x hx (row_lt_fuel (List.mem_map_of_mem hx) hfuel)) (by omega) us

theorem reads_list {items : List Expr} (h : ∀ e ∈ items, Reads e) : Reads (list items) := by
  intro fuel hfuel us
  rw [tokens, itemRows_eq_map, List.length_append, List.length_cons, List.length_singleton]
    at hfuel
  rw [tokens, itemRows_eq_map, List.append_assoc]
  refine (Takes.next _ _).bind ?_
  refine (takes_bracketed rfl (by decide) (fun e _ => ?_) (fun e he => (h e he).row) (by omega)
    us).bind (Takes.pure _ us)
  exact ⟨tokens_ne_nil e, (starts_tokens e).head?_ne e.level.rank_pos⟩

theorem takes_pair {key value : Expr} (hk : Reads key) (hv : Reads value)
    (hfuel : (key.tokens ++ .sign .colon :: value.tokens).length + 1 < fuel) :
    TakesRow (pair (expression fuel)) (key.tokens ++ .sign .colon :: value.tokens)
      (key, value) := by
  intro t us ht
  rw [List.length_append, List.length_cons] at hfuel
  rw [List.append_assoc]
  refine (hk.expression (by omega) (follows_stop rfl)).bind ((Takes.expect _ _).bind ?_)
  exact (hv.expression (by omega) (follows_stop ht)).bind (Takes.pure _ _)

theorem reads_dict {pairs : List (Expr × Expr)} (h : ∀ e ∈ pairs, Reads e.1 ∧ Reads e.2) :
    Reads (dict pairs) := by
  intro fuel hfuel us
  rw [tokens, pairRows_eq_map, List.length_append, List.length_cons, List.length_singleton]
    at hfuel
  rw [tokens, pairRows_eq_map, List.append_assoc]
  refine (Takes.next _ _).bind ?_
  refine (takes_bracketed rfl (by decide) (fun e _ => ?_)
    (fun e he => takes_pair (h e he).1 (h e he).2) (by omega) us).bind (Takes.pure _ us)
  exact ⟨by simp, (starts_tokens e.1).head?_append_ne (t := .sign .rBrace) e.1.level.rank_pos _⟩

/-- The argument list of a filter or test that has arguments. -/
theorem takes_call (ha : ∀ e ∈ args, Reads e) (hk : ∀ e ∈ kwargs, Reads e.2)
    (hfuel : (commas (itemRows args ++ namedRows kwargs)).length + 1 < fuel) (us : List Token) :
    Takes (arguments (expression fuel) fuel) (.sign .lParen ::
      (commas (itemRows args ++ namedRows kwargs) ++ .sign .rParen :: us)) (args, kwargs) us := by
  rw [itemRows_eq_map, namedRows_eq_map] at hfuel
  have hcount : args.length + kwargs.length ≤ (commas (args.map tokens ++
      kwargs.map fun e => .ident e.1 :: .sign .assign :: e.2.tokens)).length := by
    have h := length_le_intercalate [Token.sign .comma] (args.map tokens ++
      kwargs.map fun e => .ident e.1 :: .sign .assign :: e.2.tokens)
      (List.forall_mem_append.2 ⟨List.forall_mem_map.2 fun e _ => tokens_ne_nil e,
        List.forall_mem_map.2 fun e _ => List.cons_ne_nil _ _⟩)
    rwa [List.length_append, List.length_map, List.length_map] at h
  refine takes_arguments (fun e he => ?_) (fun e he => ?_) (by omega) us
  · exact ⟨tokens_ne_nil e, (starts_tokens e).head?_ne e.level.rank_pos,
      (starts_tokens e).second_ne, (ha e he).row (row_lt_fuel (List.mem_append_left _
        (List.mem_map_of_mem he)) hfuel)⟩
  · have hrow := row_lt_fuel (List.mem_append_right (args.map tokens) (List.mem_map_of_mem
      (f := fun e : String × Expr => .ident e.1 :: .sign .assign :: e.2.tokens) he)) hfuel
    rw [List.length_cons, List.length_cons] at hrow
    exact (hk e he).row (by omega)

/-- **What follows the name of a filter or test:** an argument list, or nothing that looks like
one. -/
theorem argumentTokens_cases (fuel : Nat) (ha : ∀ e ∈ args, Reads e) (hk : ∀ e ∈ kwargs, Reads e.2)
    (hfuel : (argumentTokens (itemRows args ++ namedRows kwargs)).length < fuel)
    (us : List Token) :
    (args = [] ∧ kwargs = [] ∧ argumentTokens (itemRows args ++ namedRows kwargs) ++ us = us) ∨
      ∃ vs, argumentTokens (itemRows args ++ namedRows kwargs) ++ us = .sign .lParen :: vs ∧
        Takes (arguments (expression fuel) fuel) (.sign .lParen :: vs) (args, kwargs) us := by
  by_cases hempty : (itemRows args ++ namedRows kwargs).isEmpty = true
  · refine .inl ?_
    rw [argumentTokens, if_pos hempty]
    cases args <;> cases kwargs <;> first | exact ⟨rfl, rfl, rfl⟩ | cases hempty
  · refine .inr ⟨_, ?_, takes_call ha hk ?_ us⟩
    · rw [argumentTokens, if_neg hempty, List.append_assoc]
      rfl
    · rw [argumentTokens, if_neg hempty, List.length_append, List.length_cons,
        List.length_singleton] at hfuel
      omega

theorem reads_filter (hs : Reads subject) (ha : ∀ e ∈ args, Reads e)
    (hk : ∀ e ∈ kwargs, Reads e.2) : Reads (filter subject label args kwargs) := by
  intro fuel hfuel
  rw [tokens, List.length_append, List.length_cons, List.length_cons] at hfuel
  refine (hs.within (k := .filtered) (by omega)).chain rfl (List.cons_ne_nil _ _) (by omega)
    (fun us => follows_cons (by decide)) fun n us b vs hus hloop => ?_
  rw [List.cons_append, List.cons_append]
  refine (Takes.eat _ _).bind ((Takes.ident _ _ _).bind ((Takes.peek _).bind ?_))
  rcases argumentTokens_cases fuel ha hk (by omega) us with
    ⟨rfl, rfl, hrest⟩ | ⟨ws, hrest, hcall⟩
  · rw [hrest, if_neg (hus.ne (by decide))]
    exact hloop
  · rw [hrest, if_pos (List.head?_cons ..)]
    exact hcall.bind hloop

theorem reads_test {negated : Bool} (hs : Reads subject) (ha : ∀ e ∈ args, Reads e)
    (hk : ∀ e ∈ kwargs, Reads e.2) : Reads (test subject label args kwargs negated) := by
  intro fuel hfuel
  rw [tokens, List.length_append, List.length_cons, List.length_append, List.length_cons] at hfuel
  -- the test itself, from behind `is` on
  have htest : ∀ us, Follows .sum us → Takes (Parser.test (expression fuel) fuel subject)
      ((if negated then [Token.keyword .notWord] else []) ++
        .ident label :: (argumentTokens (itemRows args ++ namedRows kwargs) ++ us))
      (test subject label args kwargs negated) us := by
    intro us hus
    have hnot : Takes (eat (.keyword .notWord)) ((if negated then [Token.keyword .notWord] else [])
        ++ .ident label :: (argumentTokens (itemRows args ++ namedRows kwargs) ++ us)) negated
        (.ident label :: (argumentTokens (itemRows args ++ namedRows kwargs) ++ us)) := by
      cases negated
      · exact Takes.eat_ne (by simp)
      · exact Takes.eat _ _
    refine hnot.bind (Takes.bind (a := label) ((Takes.next _ _).bind (Takes.pure _ _)) ?_)
    refine (Takes.peek _).bind ?_
    rcases argumentTokens_cases fuel ha hk (by omega) us with
      ⟨rfl, rfl, hrest⟩ | ⟨ws, hrest, hcall⟩
    · rw [hrest]
      split
      · next heq => exact absurd heq (hus.ne (by decide))
      · next heq => exact absurd heq (hus.ne (by simp [Token.link, Token.isStop, Level.rank]))
      · next heq => exact absurd heq (hus.ne (by simp [Token.link, Token.isStop, Level.rank]))
      · next heq => exact absurd heq (hus.ne (by simp [Token.link, Token.isStop, Level.rank]))
      · exact Takes.pure _ us
    · rw [hrest, List.head?_cons]
      exact hcall.bind (Takes.pure _ us)
  refine (hs.within (k := .comparison) (by omega)).chain rfl (List.cons_ne_nil _ _) (by omega)
    (fun us => follows_cons (by decide)) fun n us b vs hus hloop => ?_
  rw [List.cons_append, List.append_assoc]
  exact (Takes.peek _).bind ((Takes.next _ _).bind ((htest us hus).bind hloop))

end

theorem reads_name (s : String) : Reads (name s) :=
  fun _ _ us => (Takes.next _ _).bind (Takes.pure _ us)

/-- **Every printable expression is read at its own level.** -/
theorem reads {e : Expr} (he : e.Printable) : Reads e := by
  induction e using Expr.induction with
  | str s => exact fun _ _ us => (Takes.next _ _).bind (Takes.pure _ us)
  | int n => exact fun _ _ us => (Takes.next _ _).bind (Takes.pure _ us)
  | float => exact absurd he not_printable_float
  | bool b => cases b <;> exact fun _ _ us => (Takes.next _ _).bind (Takes.pure _ us)
  | null => exact fun _ _ us => (Takes.next _ _).bind (Takes.pure _ us)
  | name s => exact reads_name s
  | list items ih => exact reads_list fun e h => ih e h (printable_list.1 he e h)
  | dict pairs ih =>
    rw [printable_dict] at he
    exact reads_dict fun e h => ⟨(ih e h).1 (he e h).1, (ih e h).2 (he e h).2⟩
  | attr base key ih => exact reads_attr (ih (printable_attr.1 he).2)
  | index base subscript ihb ihs =>
    rw [printable_index] at he
    exact reads_index (ihb he.1) (ihs he.2)
  | binary op left right ihl ihr =>
    rw [printable_binary] at he
    exact reads_binary (ihl he.1) (ihr he.2)
  | and left right ihl ihr =>
    rw [printable_and] at he
    exact reads_and (ihl he.1) (ihr he.2)
  | or left right ihl ihr =>
    rw [printable_or] at he
    exact reads_or (ihl he.1) (ihr he.2)
  | not e ih => exact reads_not (ih (printable_not.1 he))
  | neg e ih => exact reads_neg (ih (printable_neg.1 he))
  | pos e ih => exact reads_pos (ih (printable_pos.1 he))
  | filter subject label args kwargs ihs iha ihk =>
    obtain ⟨-, hs, ha, hk⟩ := printable_filter.1 he
    exact reads_filter (ihs hs) (fun e h => iha e h (ha e h)) fun e h => ihk e h (hk e h).2
  | test subject label args kwargs negated ihs iha ihk =>
    obtain ⟨-, hs, ha, hk⟩ := printable_test.1 he
    exact reads_test (ihs hs) (fun e h => iha e h (ha e h)) fun e h => ihk e h (hk e h).2
  | cond value condition otherwise ihv ihc iho =>
    obtain ⟨hv, hc, ho⟩ := printable_cond.1 he
    exact reads_cond (ihv hv) (ihc hc) fun e h => iho e h (ho e h)

end Expr

/-! ### The whole template -/

/-- An expression is taken off a row of tokens that something ends. -/
def Expr.WrittenAs (e : Expr) (row : List Token) : Prop :=
  ∀ fuel us, row.length + 1 < fuel → Expr.Follows .conditional us →
    Parser.Takes (Parser.expression fuel) (row ++ us) e us

theorem Expr.Reads.writtenAs {e : Expr} (he : e.Reads) : e.WrittenAs e.tokens :=
  fun _ _ hfuel hus => he.expression hfuel hus

/-- The tokens that a text, or the output of an expression, is taken off. -/
inductive Node.WrittenAs : Node → List Token → Prop
  | text (s : String) : WrittenAs (.text s) [.text s]
  | output {e : Expr} {row : List Token} (he : e.WrittenAs row) :
    WrittenAs (.output e) (.varStart :: row ++ [Token.varEnd])

/-- **Texts and outputs are taken node by node.** -/
theorem Parser.takes_nodes {tree : Template} {rows : List (List Token)}
    (h : List.Forall₂ Node.WrittenAs tree rows) {fuel : Nat} (hfuel : rows.flatten.length < fuel) :
    Takes (nodes fuel) rows.flatten tree [] := by
  induction h generalizing fuel with
  | nil =>
    obtain ⟨fuel, rfl⟩ := Nat.exists_eq_add_one.2 hfuel
    exact (Takes.peek _).bind (Takes.pure [] [])
  | @cons node row tree rows hnode _ ih =>
    obtain ⟨fuel, rfl⟩ := Nat.exists_eq_add_one.2 (Nat.zero_lt_of_lt hfuel)
    rw [List.flatten_cons, List.length_append] at hfuel
    rw [List.flatten_cons]
    cases hnode with
    | text s =>
      rw [List.length_singleton] at hfuel
      exact (Takes.peek _).bind ((Takes.next _ _).bind ((ih (by omega)).bind (Takes.pure _ [])))
    | @output e row he =>
      rw [List.cons_append, List.length_cons, List.length_append, List.length_singleton] at hfuel
      rw [List.cons_append, List.cons_append, List.append_assoc]
      refine (Takes.peek _).bind ((Takes.next _ _).bind ?_)
      refine (he _ _ (by omega) (Expr.follows_stop rfl)).bind ?_
      exact (Takes.expect _ _).bind ((ih (by omega)).bind (Takes.pure _ []))

/-- **A source is parsed as texts and outputs** if it is cut into the tokens of them. -/
theorem Template.ofSource_of_rows {tree : Template} {rows : List (List Token)}
    (h : List.Forall₂ Node.WrittenAs tree rows) {d : Delimiters} {w : Whitespace} {cs : List Char}
    (hscan : (Lexer.scan d w cs).Gives rows.flatten) : ofSource d w cs = .ok tree := by
  obtain ⟨htokens, herror⟩ := hscan
  have hlength : rows.flatten.length = (Lexer.scan d w cs).lexemes.length := by
    rw [← htokens, List.length_map]
  have htakes : Parser.Takes (Parser.template ((Lexer.scan d w cs).lexemes.length + 3))
      rows.flatten tree [] :=
    (Parser.takes_nodes h (by omega)).bind ((Parser.Takes.peekAt 1 _).bind (Parser.Takes.pure _ _))
  obtain ⟨s, hrun, -⟩ := htakes ⟨_, _, 1⟩ ⟨htokens, herror⟩
  change Except.map Prod.fst (Parser.template _ _) = _
  rw [hrun]
  rfl

/-- **A source is parsed as one expression** if it is cut into the tokens of one. -/
theorem Template.ofSource_of_gives {e : Expr} {row : List Token} (he : e.WrittenAs row)
    {w : Whitespace} {cs : List Char}
    (hscan : (Lexer.scan {} w cs).Gives (.varStart :: row ++ [Token.varEnd])) :
    ofSource {} w cs = .ok [.output e] :=
  ofSource_of_rows (.cons (.output he) .nil) (by simpa using hscan)

/-- **The parser inverts the printer.**  However blanks around tags are treated, the source that
outputs a printed expression is parsed as just that. -/
theorem Template.ofSource_source {e : Expr} (he : e.Printable) (w : Whitespace) :
    ofSource {} w e.source.toList = .ok [.output e] :=
  ofSource_of_gives (Expr.reads he).writtenAs (Expr.scan_source he w)

/-- Prefixes, chains to either side, a membership that is denied, a test that is, arguments of
both sorts, a conditional without `else` inside another one, and braces in front of the end of
the tag. -/
def Expr.manifold : Expr :=
  .cond (.or (.not (.binary .notIn (.neg (.filter (.name "a") "f" [.str "it's \\\n"]
      [("k", .list [.int 3])])) (.index (.attr (.name "b") "c") (.binary .gt (.int 0) (.null)))))
      (.test (.binary .sub (.int 1) (.binary .sub (.int 2) (.int 3))) "t" [] [] true))
    (.and (.cond (.name "d") (.bool true) none) (.binary .concat
      (.filter (.pos (.name "e")) "g" [] [])
      (.binary .floorDiv (.binary .mul (.int 4) (.int 5)) (.binary .add (.int 6) (.int 7)))))
    (some (.dict [(.str "x", .dict [(.bool false, .dict [])])]))

theorem Template.ofSource_source_manifold : Expr.manifold.Printable ∧
    ofSource {} {} Expr.manifold.source.toList = .ok [.output Expr.manifold] := by
  have he : Expr.manifold.Printable := by decide
  exact ⟨he, ofSource_source he {}⟩

end MailMerge
