/-
# Parsing loses nothing and accepts only what nests

What a parser takes off a stream is told by the items it passes (`TokenStream.Passes`).  The
tags of statements pass one item each, expressions pass none, and a list of nodes passes the
items of its nodes, whatever tag it stops in front of.  A template is parsed to the end of the
stream, so it has the items of the tokens (`Template.items_ofSource`); and since the items of a
template nest, a text whose tags do not nest has no template.
-/

import MailMerge.Proofs.Action
import MailMerge.Proofs.Template.Ends
import MailMerge.Proofs.Template.Items

namespace MailMerge

/-! ### What a parser passes -/

namespace TokenStream

variable {s s' s'' : TokenStream} {xs ys : List Item} {t : Token}

/-- The items of the tokens that are left. -/
def items (s : TokenStream) : List Item := Item.ofTokens (s.lexemes.map (·.token))

/-- A stream and what is left of it behind some items. -/
structure Passes (xs : List Item) (s s' : TokenStream) : Prop where
  items_eq : s.items = xs ++ s'.items
  failure : s'.failure = s.failure
  size_le : s'.size ≤ s.size

namespace Passes

theorem refl (s : TokenStream) : s.Passes [] s := ⟨rfl, rfl, Nat.le_refl _⟩

theorem trans (h : s.Passes xs s') (h' : s'.Passes ys s'') : s.Passes (xs ++ ys) s'' :=
  ⟨by rw [h.items_eq, h'.items_eq, List.append_assoc], h'.failure.trans h.failure,
    h'.size_le.trans h.size_le⟩

theorem size_lt {k : Nat} (h : s.Passes xs s') (hs : s.size < k) : s'.size < k :=
  Nat.lt_of_le_of_lt h.size_le hs

theorem sound (h : s.Passes xs s') (hs : s.Sound) : s'.Sound := by rwa [Sound, h.failure]

end Passes

end TokenStream

namespace Item

theorem ofTokens_inner {t : Token} (ht : t.isInner = true) (ts : List Token) :
    ofTokens (t :: ts) = ofTokens ts := by
  cases t <;> first | rfl | cases ht

theorem ofTokens_append_inner {ts us : List Token} (hts : ∀ t ∈ ts, t.isInner = true) :
    ofTokens (ts ++ us) = ofTokens us := by
  induction ts with
  | nil => rfl
  | cons t ts ih =>
    rw [List.cons_append, ofTokens_inner (hts t List.mem_cons_self)]
    exact ih fun u hu => hts u (List.mem_cons_of_mem _ hu)

end Item

namespace TokenStream

variable {s s' s'' : TokenStream} {xs ys : List Item} {t : Token}

/-- What stands inside tags is no item of its own. -/
theorem Leaves.passes (h : s.Leaves (fun t => t.isInner = true) s') : s.Passes [] s' := by
  obtain ⟨used, hs, hused⟩ := h.used
  refine ⟨?_, h.failure, h.size_le⟩
  rw [items, hs, List.map_append, Item.ofTokens_append_inner (List.forall_mem_map.2 hused)]
  rfl

theorem Begins.items_eq (h : s.Begins t s') :
    s.items = Item.ofTokens (t :: s'.lexemes.map (·.token)) := by
  obtain ⟨l, hs, rfl⟩ := h.first
  rw [items, hs, List.map_cons]

theorem Begins.passes_text {x : String} (h : s.Begins (.text x) s') : s.Passes [.text x] s' :=
  ⟨h.items_eq, h.failure, h.size_lt.le⟩

theorem Begins.passes_output (h : s.Begins .varStart s') : s.Passes [.output] s' :=
  ⟨h.items_eq, h.failure, h.size_lt.le⟩

theorem Begins.passes_tag (h : s.Begins .blockStart s') : s.Passes [.tag (s'.ahead 0)] s' := by
  refine ⟨?_, h.failure, h.size_lt.le⟩
  rw [h.items_eq, Item.ofTokens, List.head?_map, List.head?_eq_getElem?]
  rfl

theorem Begins.passes_word {k : Keyword} (h : s.Begins .blockStart s')
    (h' : s'.Begins (.keyword k) s'') : s.Passes [.word k] s'' := by
  have hk : s'.ahead 0 = some (.keyword k) := by
    obtain ⟨l, hs, ht⟩ := h'.first
    rw [ahead, hs, ← ht]
    rfl
  have hword : s'.Passes [] s'' := (h'.leaves (P := fun t => t.isInner = true) rfl).passes
  exact (hk ▸ h.passes_tag).trans hword

end TokenStream

namespace Parser

variable {α β : Type} {s s' s₀ : TokenStream} {p : Parser α} {f : α → Parser β} {t : Token}
  {Q : β → TokenStream → Prop} {R : α → TokenStream → Prop} {k n : Nat} {xs : List Item}

/-- What holds of the result of a parser and of what it leaves, if it does not fail. -/
def Yields (s : TokenStream) (p : Parser α) (R : α → TokenStream → Prop) : Prop :=
  ∀ a s', p s = .ok (a, s') → R a s'

namespace Yields

theorem pure {a : α} (h : R a s) : Yields s (Pure.pure a) R := by
  rintro _ _ ⟨⟩
  exact h

theorem fault {x : SyntaxFault} : Yields s (Parser.fault x) R := by
  rintro _ _ ⟨⟩

theorem bind (h : Yields s p R) (hf : ∀ a s', R a s' → Yields s' (f a) Q) :
    Yields s (p >>= f) Q := by
  intro b s'' hb
  cases hp : p s with
  | error e =>
    rw [bind_error hp] at hb
    cases hb
  | ok r =>
    rw [bind_ok hp] at hb
    exact hf r.1 r.2 (h r.1 r.2 hp) b s'' hb

theorem ite {c : Prop} [Decidable c] {q : Parser α} (ht : c → Yields s p R)
    (he : ¬c → Yields s q R) : Yields s (if c then p else q) R := by
  split_ifs with h
  · exact ht h
  · exact he h

theorem peekAt {f : Option Token → Parser β} (m : Nat) (h : Yields s (f (s.ahead m)) Q) :
    Yields s (Parser.peekAt m >>= f) Q := by
  intro b s'' hb
  obtain hpeek | ⟨e, -, hpeek⟩ := peekAt_cases m s
  · rw [bind_ok hpeek] at hb
    exact h b s'' hb
  · rw [bind_error hpeek] at hb
    cases hb

/-- Nothing is seen ahead only at the end of a stream without a fault. -/
theorem peekAt_end {f : Option Token → Parser β} (m : Nat)
    (hnone : s.ahead m = none → s.failure = none → Yields s (f none) Q)
    (hsome : ∀ t, s.ahead m = some t → Yields s (f (some t)) Q) :
    Yields s (Parser.peekAt m >>= f) Q := by
  cases ht : s.ahead m with
  | some t => exact peekAt m (ht ▸ hsome t ht)
  | none =>
    cases hfailure : s.failure with
    | none => exact peekAt m (ht ▸ hnone ht hfailure)
    | some e =>
      have hpeek : Parser.peekAt m s = .error e := by
        rw [TokenStream.ahead, Option.map_eq_none_iff] at ht
        rw [Parser.peekAt, ht, hfailure]
      intro b s'' hb
      rw [bind_error hpeek] at hb
      cases hb

theorem and {R' : α → TokenStream → Prop} (h : Yields s p R) (h' : Yields s p R') :
    Yields s p fun a s' => R a s' ∧ R' a s' := fun a s' hp => ⟨h a s' hp, h' a s' hp⟩

theorem trivial (s : TokenStream) (p : Parser α) : Yields s p fun _ _ => True :=
  fun _ _ _ => True.intro

theorem next_of {f : Option Token → Parser β} (ht : s.ahead 0 = some t)
    (h : ∀ s', s.Begins t s' → Yields s' (f (some t)) Q) : Yields s (Parser.next >>= f) Q := by
  intro b s'' hb
  obtain ⟨u, s', hu, hbegins, hnext⟩ | ⟨hend, -⟩ := next_cases s
  · obtain rfl := Option.some.inj (hu.symm.trans ht)
    rw [bind_ok hnext] at hb
    exact h s' hbegins b s'' hb
  · cases hend.symm.trans ht

theorem expect {f : Unit → Parser β} (h : ∀ s', s.Begins t s' → Yields s' (f ()) Q) :
    Yields s (Parser.expect t >>= f) Q := by
  intro b s'' hb
  cases takesOne_expect t s with
  | taken hbegins ht hp =>
    rw [bind_ok hp] at hb
    exact h _ (ht ▸ hbegins) b s'' hb
  | refused _ hp =>
    rw [bind_error hp] at hb
    cases hb

/-- A token inside a tag is expected behind some items. -/
theorem expect_inner {f : Unit → Parser β} (hs : s₀.Passes xs s) (ht : t.isInner = true)
    (h : ∀ s', s₀.Passes xs s' → Yields s' (f ()) Q) : Yields s (Parser.expect t >>= f) Q :=
  expect fun s' hbegins => h s' (by
    simpa using hs.trans (hbegins.leaves (P := fun t => t.isInner = true) ht).passes)

/-- What only takes tokens inside tags stands behind some items. -/
theorem inner (hs : s₀.Passes xs s) (h₀ : s₀.Sound)
    (h : Agree (fun t => t.isInner = true) s p p)
    (hf : ∀ a s', s₀.Passes xs s' → Yields s' (f a) Q) : Yields s (p >>= f) Q := by
  refine bind (R := fun _ s' => s₀.Passes xs s') (fun a s' hp => ?_) hf
  obtain ⟨-, hends⟩ := h (hs.sound h₀)
  rw [hp] at hends
  cases hends with
  | ok hleaves => simpa using hs.trans hleaves.passes

/-- The tag that ends a block. -/
theorem close {a : α} {word : Keyword} (hs : s₀.Passes xs s)
    (h : ∀ s', s₀.Passes (xs ++ [.word word]) s' → R a s') :
    Yields s (Parser.expect .blockStart >>= fun _ => Parser.expect (.keyword word) >>= fun _ =>
      Parser.expect .blockEnd >>= fun _ => Pure.pure a) R :=
  expect fun _ h₁ => expect fun _ h₂ =>
    expect_inner (hs.trans (h₁.passes_word h₂)) rfl fun s' hs' => pure (h s' hs')

/-- The start of a tag that was seen before. -/
theorem open_of {f : Option Token → Option Token → Parser β} {word : Keyword}
    (hs : s₀.Passes xs s) (h₀ : s.ahead 0 = some .blockStart)
    (h₁ : s.ahead 1 = some (.keyword word))
    (h : ∀ s', s₀.Passes (xs ++ [.word word]) s' →
      Yields s' (f (some .blockStart) (some (.keyword word))) Q) :
    Yields s (Parser.next >>= fun a => Parser.next >>= fun b => f a b) Q :=
  next_of h₀ fun _ hb => next_of ((hb.ahead_eq 0).trans h₁) fun s' hb' =>
    h s' (hs.trans (hb.passes_word hb'))

end Yields

theorem yields_atTag (word : Keyword) (s : TokenStream) :
    Yields s (atTag word) fun isTag s' => s' = s ∧
      (isTag = true → s.ahead 0 = some .blockStart ∧ s.ahead 1 = some (.keyword word)) :=
  .peekAt 0 (.ite (fun h₀ => .peekAt 1 (.pure ⟨rfl, fun h₁ => ⟨h₀, of_decide_eq_true h₁⟩⟩))
    fun _ => .pure ⟨rfl, nofun⟩)

theorem isInner_self (t : Token) (h : t.isInner = true) : t.isInner = true := h

/-- A parser of nodes that passes their items, on the streams of fewer than `k` tokens. -/
def PassesNodes (k : Nat) (body : Parser Template) : Prop :=
  ∀ s : TokenStream, s.size < k → s.Sound →
    Yields s body fun t s' => s.Passes (bodyItems t) s'

/-- The nodes of a body stand behind some items. -/
theorem PassesNodes.yields {body : Parser Template} (hb : PassesNodes k body)
    {g : Template → Parser β} (hs : s₀.Passes xs s) (h₀ : s₀.Sound) (hk : s₀.size < k)
    (hg : ∀ t s', s₀.Passes (xs ++ bodyItems t) s' → Yields s' (g t) Q) :
    Yields s (body >>= g) Q :=
  (hb s (Nat.lt_of_le_of_lt hs.size_le hk) (hs.sound h₀)).bind fun t s' ht =>
    hg t s' (hs.trans ht)

section

variable {body : Parser Template} (hb : PassesNodes k body) (hn : k < n) (h₀ : s₀.Sound)
  (hk : s₀.size < k)

include hb hn h₀ hk

theorem yields_loop :
    Yields s₀ (loop body n) fun node s' =>
      ∃ rest, node.items = .word .forTag :: rest ∧ s₀.Passes rest s' := by
  have hclose : ∀ {targets sequence nodes s} otherwise,
      s₀.Passes (bodyItems nodes ++ elseItems otherwise) s →
      Yields s (expect .blockStart >>= fun _ => expect (.keyword .endForTag) >>= fun _ =>
        expect .blockEnd >>= fun _ => Pure.pure (Node.loop targets sequence nodes otherwise))
        fun node s' => ∃ rest, node.items = .word .forTag :: rest ∧ s₀.Passes rest s' :=
    fun _ hs => .close hs fun s' hs' => ⟨_, rfl, hs'⟩
  have hinner := isInner_self
  have he : AgreeBelow _ k (expression n) (expression n) := agree_expression hinner hn hn
  refine .expect_inner (.refl s₀) rfl fun s₁ h₁ => ?_
  refine .inner h₁ h₀ (.ident_self _ fun _ => rfl) fun first s₂ h₂ => ?_
  refine .inner h₂ h₀ (agree_targetsOf hinner hn.le hn.le s₂ (h₂.size_lt hk)) fun others s₃ h₃ => ?_
  refine .expect_inner h₃ rfl fun s₄ h₄ => ?_
  refine .inner h₄ h₀ (agree_disjunction hinner he hn hn s₄ (h₄.size_lt (Nat.lt_succ_of_lt hk)))
    fun sequence s₅ h₅ => ?_
  refine .expect_inner h₅ rfl fun s₆ h₆ => hb.yields h₆ h₀ hk fun nodes s₇ h₇ => ?_
  refine (yields_atTag .elseTag s₇).bind fun isElse s₈ h₈ => ?_
  obtain ⟨rfl, helse⟩ := h₈
  refine .ite (fun h => ?_) fun _ => ?_
  · refine .open_of h₇ (helse h).1 (helse h).2 fun s₉ h₉ => .expect_inner h₉ rfl fun t₁ g₁ => ?_
    refine hb.yields g₁ h₀ hk fun otherwise t₂ g₂ => hclose (some otherwise) ?_
    simpa [elseItems] using g₂
  · exact hclose none (by simpa [elseItems] using h₇)

theorem yields_casesTurn {again : Parser (List (Expr × Template) × Option Template)}
    (ha : ∀ s, s.size ≤ s₀.size → s.Sound → Yields s again fun r s' =>
      s.Passes (laterItems r.1 ++ elseItems r.2 ++ [.word .endIfTag]) s') :
    Yields s₀ (casesTurn body n again) fun r s' =>
      s₀.Passes (laterItems r.1 ++ elseItems r.2 ++ [.word .endIfTag]) s' := by
  have hinner := isInner_self
  unfold casesTurn
  refine .peekAt 0 ?_
  split
  · next hstart =>
    refine .peekAt 1 ?_
    split
    · next hword =>
      refine .open_of (.refl s₀) hstart hword fun s₁ h₁ => ?_
      refine .inner h₁ h₀ (agree_expression hinner hn hn s₁ (h₁.size_lt hk))
        fun condition s₂ h₂ => ?_
      refine .expect_inner h₂ rfl fun s₃ h₃ => hb.yields h₃ h₀ hk fun nodes s₄ h₄ => ?_
      refine (ha s₄ h₄.size_le (h₄.sound h₀)).bind fun r s₅ h₅ => .pure ?_
      simpa [laterItems] using h₄.trans h₅
    · next hword =>
      refine .open_of (.refl s₀) hstart hword fun s₁ h₁ => .expect_inner h₁ rfl fun s₂ h₂ => ?_
      refine hb.yields h₂ h₀ hk fun nodes s₃ h₃ => .close h₃ fun s₄ h₄ => ?_
      simpa [laterItems, elseItems] using h₄
    · next hword =>
      refine .open_of (.refl s₀) hstart hword fun s₁ h₁ => .expect_inner h₁ rfl fun s₂ h₂ => ?_
      exact .pure h₂
    · exact .fault
  · exact .fault
  · exact .fault

end

theorem yields_assignment (hn : k < n) (h₀ : s.Sound) (hk : s.size < k) :
    Yields s (assignment n) fun node s' =>
      ∃ rest, node.items = .word .setTag :: rest ∧ s.Passes rest s' := by
  refine .expect_inner (.refl s) rfl fun s₁ h₁ => ?_
  refine .inner h₁ h₀ (.ident_self _ fun _ => rfl) fun target s₂ h₂ => ?_
  refine .expect_inner h₂ rfl fun s₃ h₃ => ?_
  refine .inner h₃ h₀ (agree_expression isInner_self hn hn s₃ (h₃.size_lt hk)) fun value s₄ h₄ => ?_
  exact .expect_inner h₄ rfl fun s₅ h₅ => .pure ⟨[], rfl, h₅⟩

section

variable {body : Parser Template} (hb : PassesNodes k body) (hn : k < n)

include hb hn

theorem yields_casesOf (fuel : Nat) (h₀ : s.Sound) (hk : s.size < k) :
    Yields s (casesOf body n fuel) fun r s' =>
      s.Passes (laterItems r.1 ++ elseItems r.2 ++ [.word .endIfTag]) s' := by
  induction fuel generalizing s with
  | zero => exact .fault
  | succ fuel ih =>
    exact yields_casesTurn hb hn h₀ hk fun s' hs' h₀' => ih h₀' (Nat.lt_of_le_of_lt hs' hk)

theorem yields_branch (h₀ : s.Sound) (hk : s.size < k) :
    Yields s (branch body n) fun node s' =>
      ∃ rest, node.items = .word .ifTag :: rest ∧ s.Passes rest s' := by
  refine .expect_inner (.refl s) rfl fun s₁ h₁ => ?_
  refine .inner h₁ h₀ (agree_expression isInner_self hn hn s₁ (h₁.size_lt hk))
    fun condition s₂ h₂ => ?_
  refine .expect_inner h₂ rfl fun s₃ h₃ => hb.yields h₃ h₀ hk fun nodes s₄ h₄ => ?_
  refine (yields_casesOf hb hn n (h₄.sound h₀) (h₄.size_lt hk)).bind fun r s₅ h₅ => .pure ?_
  exact ⟨_, rfl, by simpa [caseItems] using h₄.trans h₅⟩

theorem yields_block (h₀ : s.Sound) (hk : s.size < k) :
    Yields s (block body n) fun node s' =>
      ∃ rest, node.items = .tag (s.ahead 0) :: rest ∧ s.Passes rest s' := by
  unfold block
  refine .peekAt 0 ?_
  split
  · next h =>
    rw [h]
    exact yields_loop hb hn h₀ hk
  · next h =>
    rw [h]
    exact yields_branch hb hn h₀ hk
  · next h =>
    rw [h]
    exact yields_assignment hn h₀ hk
  · exact .fault
  · exact .fault

/-- **One turn of a list of nodes passes their items.** -/
theorem passesNodes_nodesTurn : PassesNodes (k + 1) (nodesTurn n body) := by
  intro s hs h₀
  have hsize : ∀ {t s'}, s.Begins t s' → s'.size < k :=
    fun h => Nat.lt_of_lt_of_le h.size_lt (Nat.le_of_lt_succ hs)
  unfold nodesTurn
  refine .peekAt 0 ?_
  split
  · exact .pure (.refl s)
  · next h =>
    refine .next_of h fun s₁ h₁ => ?_
    have hpasses := h₁.passes_text
    refine (hb s₁ (hsize h₁) (hpasses.sound h₀)).bind fun t s₂ h₂ => .pure ?_
    exact hpasses.trans h₂
  · next h =>
    refine .next_of h fun s₁ h₁ => ?_
    have hsound := h₁.passes_output.sound h₀
    refine .inner (.refl s₁) hsound (agree_expression isInner_self hn hn s₁ (hsize h₁))
      fun e s₂ h₂ => .expect_inner h₂ rfl fun s₃ h₃ => ?_
    refine hb.yields h₃ hsound (hsize h₁) fun t s₄ h₄ => .pure ?_
    exact h₁.passes_output.trans h₄
  · next h =>
    refine .peekAt 1 (.ite (fun _ => .pure (.refl s)) fun _ => .next_of h fun s₁ h₁ => ?_)
    have hpasses := h₁.passes_tag
    refine (yields_block hb hn (hpasses.sound h₀) (hsize h₁)).bind fun node s₂ h₂ => ?_
    obtain ⟨rest, hnode, hrest⟩ := h₂
    have hblock : s.Passes node.items s₂ := hnode ▸ hpasses.trans hrest
    refine (hb s₂ (hrest.size_lt (hsize h₁)) (hblock.sound h₀)).bind fun t s₃ h₃ => .pure ?_
    exact hblock.trans h₃
  · exact .fault

end

/-- **Nodes pass their items.** -/
theorem passesNodes_nodes (hn : k < n) : PassesNodes k (nodes n) := by
  induction k generalizing n with
  | zero => exact fun s hs => absurd hs (Nat.not_lt_zero _)
  | succ k ih =>
    obtain ⟨n, rfl⟩ := Nat.exists_eq_add_one.2 (Nat.zero_lt_of_lt hn)
    have hn := Nat.lt_of_succ_lt_succ hn
    exact passesNodes_nodesTurn (ih hn) hn

/-- Nodes stop at the end of the stream, or in front of a tag. -/
theorem yields_nodes_stop (n : Nat) (s : TokenStream) :
    Yields s (nodes n) fun _ s' => s'.ahead 0 = none ∨ (s'.ahead 1).isSome := by
  induction n generalizing s with
  | zero => exact .fault
  | succ n ih =>
    have hagain : ∀ (node : Node) s, Yields s (nodes n >>= fun t => Pure.pure (node :: t))
        fun _ s' => s'.ahead 0 = none ∨ (s'.ahead 1).isSome :=
      fun node s => (ih s).bind fun _ _ h => .pure h
    change Yields s (nodesTurn n (nodes n)) _
    unfold nodesTurn
    refine .peekAt 0 ?_
    split
    · next h => exact .pure (.inl h)
    · next h => exact .next_of h fun s' _ => hagain _ s'
    · next h =>
      refine .next_of h fun s' _ => (Yields.trivial s' _).bind fun e s'' _ => ?_
      exact .expect fun s₃ _ => hagain _ s₃
    · next h =>
      refine .peekAt 1 (.ite (fun hend => .pure (.inr ?_)) fun _ => .next_of h fun s' _ => ?_)
      · exact Option.isSome_of_any hend
      · exact (Yields.trivial s' _).bind fun node s'' _ => hagain node s''
    · exact .fault

/-- **A template is parsed to the end,** and its items are those of the tokens. -/
theorem yields_template (hn : s.size + 1 < n) (h₀ : s.Sound) :
    Yields s (template n) fun t _ => s.failure = none ∧ t.items = s.items := by
  have hnodes := passesNodes_nodes hn s (Nat.lt_succ_self _) h₀
  refine (hnodes.and (yields_nodes_stop n s)).bind fun t s' ht => ?_
  obtain ⟨hpasses, hstop⟩ := ht
  refine .peekAt_end 1 (fun hend hfailure => .pure ?_) fun _ _ => .fault
  have hnil : s'.lexemes = [] := by
    obtain hnone | hsome := hstop
    · simpa [TokenStream.ahead] using hnone
    · rw [hend] at hsome
      cases hsome
  refine ⟨hpasses.failure ▸ hfailure, ?_⟩
  rw [hpasses.items_eq, TokenStream.items, hnil]
  exact (List.append_nil _).symm

end Parser

namespace Template

/-- **Parsing loses nothing and accepts only what nests.**  A template that is parsed has the
items of the tokens, one for one and in their order, up to the end of the text; so a text whose
tags do not nest is refused. -/
theorem items_ofSource (d : Delimiters) (w : Whitespace) (source : List Char) :
    (∀ t, ofSource d w source = .ok t → (Lexer.scan d w source).error? = none ∧
      t.items = (Lexer.scan d w source).items) ∧
    (¬Item.WellNested (Lexer.scan d w source).items → ∃ e, ofSource d w source = .error e) := by
  have hitems : ∀ t, ofSource d w source = .ok t → (Lexer.scan d w source).error? = none ∧
      t.items = (Lexer.scan d w source).items := by
    intro t ht
    obtain ⟨⟨t', s'⟩, hparse, rfl⟩ := exists_of_map_ok ht
    have hyields := Parser.yields_template (s := stream d w source)
      (n := (stream d w source).size + 3) (by omega) fun _ he => Lexer.error_scan he
    exact hyields t' s' hparse
  refine ⟨hitems, fun hnest => ?_⟩
  cases hsource : ofSource d w source with
  | error e => exact ⟨e, rfl⟩
  | ok t => exact absurd ((hitems t hsource).2 ▸ t.wellNested_items) hnest

/-- A loop in the last part of a branch, and a branch and a loop that cross. -/
theorem items_ofSource_crossed :
    let nested := ("a\x7b% if x %\x7d\x7b\x7b y \x7d\x7d\x7b% elif z %\x7db\x7b% else %\x7d" ++
      "\x7b% for i in x %\x7d\x7b% endfor %\x7d\x7b% endif %\x7d").toList
    let crossed := "\x7b% if x %\x7d\x7b% for i in x %\x7d\x7b% endif %\x7d\x7b% endfor %\x7d".toList
    (∃ t, ofSource {} {} nested = .ok t ∧ t.items = [.text "a", .word .ifTag, .output,
      .word .elifTag, .text "b", .word .elseTag, .word .forTag, .word .endForTag,
      .word .endIfTag]) ∧
    ¬Item.WellNested (Lexer.scan {} {} crossed).items ∧
    ∃ e, ofSource {} {} crossed = .error e := by
  intro nested crossed
  have hcrossed : ¬Item.WellNested (Lexer.scan {} {} crossed).items := by decide +kernel
  refine ⟨?_, hcrossed, (items_ofSource _ _ _).2 hcrossed⟩
  have hsome : (ofSource {} {} nested).toOption.isSome = true := by decide +kernel
  cases ht : ofSource {} {} nested with
  | error e =>
    rw [ht] at hsome
    cases hsome
  | ok t => exact ⟨t, rfl, ((items_ofSource _ _ _).1 t ht).2.trans (by decide +kernel)⟩

end Template

end MailMerge
