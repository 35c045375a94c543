/-
# Parsers that agree

Two parsers agree on a stream if they do the same there, neither runs out of steps, and both
leave an end of the stream (`Parser.Agree`).  What is taken off may be restricted to tokens of
one kind.  There is one rule for each way to put parsers together; the rules for parsers that
take a token leave a shorter stream.

A parser that goes round is a turn that is given the parser to go on with.  If parsers that
agree on the streams of fewer than `k` tokens make turns that agree on those of `k` tokens as
well, every turn that goes on has taken a token, and any two numbers of steps above the number
of tokens come to the same (`Parser.AgreeBelow.loop`).
-/

import MailMerge.Template.Parser
import Mathlib.Data.List.Basic

namespace MailMerge

namespace TokenStream

variable {P : Token → Prop} {s s' s'' : TokenStream} {t : Token} {n : Nat}

/-- The number of tokens left. -/
def size (s : TokenStream) : Nat := s.lexemes.length

/-- The token `n` places ahead. -/
def ahead (n : Nat) (s : TokenStream) : Option Token := (s.lexemes[n]?).map (·.token)

/-- A stream whose lexer did not run out of steps. -/
def Sound (s : TokenStream) : Prop := ∀ e ∈ s.failure, e.fault ≠ .outOfSteps

/-- What is left of a stream behind tokens of one kind. -/
structure Leaves (P : Token → Prop) (s s' : TokenStream) : Prop where
  failure : s'.failure = s.failure
  used : ∃ used, s.lexemes = used ++ s'.lexemes ∧ ∀ l ∈ used, P l.token

namespace Leaves

theorem refl (s : TokenStream) : s.Leaves P s := ⟨rfl, [], rfl, by simp⟩

theorem trans (h : s.Leaves P s') (h' : s'.Leaves P s'') : s.Leaves P s'' := by
  obtain ⟨used, hs, hused⟩ := h.used
  obtain ⟨used', hs', hused'⟩ := h'.used
  refine ⟨h'.failure.trans h.failure, used ++ used', ?_, ?_⟩
  · rw [hs, hs', List.append_assoc]
  · exact List.forall_mem_append.2 ⟨hused, hused'⟩

theorem size_le (h : s.Leaves P s') : s'.size ≤ s.size := by
  obtain ⟨used, hs, -⟩ := h.used
  rw [size, size, hs, List.length_append]
  exact Nat.le_add_left _ _

theorem sound (h : s.Leaves P s') (hs : s.Sound) : s'.Sound := by rwa [Sound, h.failure]

end Leaves

/-- What is left of a stream behind its first token. -/
structure Begins (t : Token) (s s' : TokenStream) : Prop where
  failure : s'.failure = s.failure
  first : ∃ l, s.lexemes = l :: s'.lexemes ∧ l.token = t

namespace Begins

theorem leaves (h : s.Begins t s') (ht : P t) : s.Leaves P s' := by
  obtain ⟨l, hs, rfl⟩ := h.first
  exact ⟨h.failure, [l], hs, by simpa using ht⟩

theorem size_lt (h : s.Begins t s') : s'.size < s.size := by
  obtain ⟨l, hs, -⟩ := h.first
  rw [size, size, hs]
  exact Nat.lt_succ_self _

/-- What was further ahead is one place closer. -/
theorem ahead_eq (h : s.Begins t s') (n : Nat) : s'.ahead n = s.ahead (n + 1) := by
  obtain ⟨l, hs, -⟩ := h.first
  rw [ahead, ahead, hs, List.getElem?_cons_succ]

end Begins

end TokenStream

namespace Parser

variable {α β : Type} {P : Token → Prop} {s s' : TokenStream} {t : Token} {p q : Parser α}
  {f g : α → Parser β} {k n n' : Nat}

/-- Looking ahead shows what is there, or meets the fault behind the tokens. -/
theorem peekAt_cases (n : Nat) (s : TokenStream) :
    peekAt n s = .ok (s.ahead n, s) ∨ ∃ e ∈ s.failure, peekAt n s = .error e := by
  rw [peekAt, TokenStream.ahead]
  cases s.lexemes[n]? with
  | some l => exact .inl rfl
  | none =>
    cases hfailure : s.failure with
    | none => exact .inl rfl
    | some e => exact .inr ⟨e, rfl, rfl⟩

/-- What `next` does: it takes the first token, or meets the end or the fault behind the tokens. -/
theorem next_cases (s : TokenStream) :
    (∃ t s', s.ahead 0 = some t ∧ s.Begins t s' ∧ next s = .ok (some t, s')) ∨
    (s.ahead 0 = none ∧ ((∃ e ∈ s.failure, next s = .error e) ∨ next s = .ok (none, s))) := by
  obtain ⟨lexemes, failure, line⟩ := s
  cases lexemes with
  | cons l ls => exact .inl ⟨l.token, ⟨ls, failure, l.lineBefore⟩, rfl, ⟨rfl, l, rfl, rfl⟩, rfl⟩
  | nil =>
    refine .inr ⟨rfl, ?_⟩
    cases failure with
    | none => exact .inr rfl
    | some e => exact .inl ⟨e, rfl, rfl⟩

theorem bind_ok {a : α} (h : p s = .ok (a, s')) : (p >>= f) s = f a s' := by
  change (p s >>= fun r => f r.1 r.2) = _
  rw [h]
  rfl

theorem bind_error {e : SyntaxError} (h : p s = .error e) : (p >>= f) s = .error e := by
  change (p s >>= fun r => f r.1 r.2) = _
  rw [h]
  rfl

/-- A token is eaten if it is the next one. -/
theorem eat_cases (t : Token) (s : TokenStream) :
    (∃ s', s.Begins t s' ∧ eat t s = .ok (true, s')) ∨
    (s.ahead 0 ≠ some t ∧ eat t s = .ok (false, s)) ∨ ∃ e ∈ s.failure, eat t s = .error e := by
  obtain hpeek | ⟨e, he, hpeek⟩ := peekAt_cases 0 s
  · have heat : eat t s = (if s.ahead 0 = some t then next >>= fun _ => pure true
        else pure false : Parser Bool) s := bind_ok hpeek
    by_cases ht : s.ahead 0 = some t
    · rw [if_pos ht] at heat
      obtain ⟨u, s', hu, hbegins, hnext⟩ | ⟨hend, -⟩ := next_cases s
      · obtain rfl := Option.some.inj (hu.symm.trans ht)
        exact .inl ⟨s', hbegins, heat.trans (bind_ok hnext)⟩
      · cases hend.symm.trans ht
    · rw [if_neg ht] at heat
      exact .inr (.inl ⟨ht, heat⟩)
  · exact .inr (.inr ⟨e, he, bind_error hpeek⟩)

/-- How a parser may leave a stream: with an error other than that the steps ran out, or with
an end of the stream behind tokens of one kind. -/
inductive Ends (P : Token → Prop) (s : TokenStream) : Except SyntaxError (α × TokenStream) → Prop
  | error {e : SyntaxError} (h : e.fault ≠ .outOfSteps) : Ends P s (.error e)
  | ok {a : α} {s' : TokenStream} (h : s.Leaves P s') : Ends P s (.ok (a, s'))

theorem Ends.behind {r : Except SyntaxError (α × TokenStream)} (h : Ends P s' r)
    (hs : s.Leaves P s') : Ends P s r := by
  cases h with
  | error he => exact .error he
  | ok h => exact .ok (hs.trans h)

/-- Parsers that do the same on a stream, and come to an end there. -/
def Agree (P : Token → Prop) (s : TokenStream) (p q : Parser α) : Prop :=
  s.Sound → p s = q s ∧ Ends P s (p s)

/-- A parser that fails at once, though not for lack of steps. -/
def Refuses (p : Parser α) : Prop := ∃ x, p = fault x ∧ x ≠ .outOfSteps

/-- A parser that takes one token off a stream, which tells what it gives, or refuses. -/
inductive TakesOne (R : α → Token → Prop) (p : Parser α) (s : TokenStream) : Prop
  | taken {a : α} {t : Token} {s' : TokenStream} (hs : s.Begins t s') (ha : R a t)
    (h : p s = .ok (a, s'))
  | refused {e : SyntaxError} (he : s.Sound → e.fault ≠ .outOfSteps) (h : p s = .error e)

/-- A parser that takes the next token and then gives something or refuses at once. -/
theorem takesOne_next {R : α → Token → Prop} {f : Option Token → Parser α} (s : TokenStream)
    (hsome : ∀ t, (∃ a, R a t ∧ f (some t) = pure a) ∨ Refuses (f (some t)))
    (hnone : Refuses (f none)) : TakesOne R (next >>= f) s := by
  obtain ⟨t, s', -, hbegins, hnext⟩ | ⟨-, ⟨e, he, hnext⟩ | hnext⟩ := next_cases s
  · obtain ⟨a, ha, hf⟩ | ⟨x, hf, hx⟩ := hsome t
    · exact .taken hbegins ha (by rw [bind_ok hnext, hf]; rfl)
    · exact .refused (fun _ => hx) (by rw [bind_ok hnext, hf]; rfl)
  · exact .refused (fun hs => hs e he) (bind_error hnext)
  · obtain ⟨x, hf, hx⟩ := hnone
    exact .refused (fun _ => hx) (by rw [bind_ok hnext, hf]; rfl)

theorem takesOne_expect (t : Token) (s : TokenStream) :
    TakesOne (fun _ u => u = t) (expect t) s := by
  refine takesOne_next s (fun u => ?_) ⟨_, if_neg nofun, nofun⟩
  by_cases hu : some u = some t
  · exact .inl ⟨(), Option.some.inj hu, if_pos hu⟩
  · exact .inr ⟨_, if_neg hu, nofun⟩

theorem takesOne_ident (role : NameRole) (s : TokenStream) :
    TakesOne (fun x u => u = .ident x) (ident role) s := by
  refine takesOne_next s (fun u => ?_) ⟨_, rfl, nofun⟩
  cases u with
  | ident x => exact .inl ⟨x, rfl, rfl⟩
  | _ => exact .inr ⟨_, rfl, nofun⟩

/-- Parsers that agree on all streams of fewer than `k` tokens. -/
def AgreeBelow (P : Token → Prop) (k : Nat) (p q : Parser α) : Prop :=
  ∀ s : TokenStream, s.size < k → Agree P s p q

namespace Agree

theorem pure (a : α) : Agree P s (Pure.pure a) (Pure.pure a) :=
  fun _ => ⟨rfl, .ok (.refl s)⟩

theorem fault {x : SyntaxFault} (hx : x ≠ .outOfSteps) :
    Agree P s (Parser.fault x : Parser α) (Parser.fault x) := fun _ => ⟨rfl, .error hx⟩

theorem bind (h : Agree P s p q)
    (hf : ∀ a s', s'.size ≤ s.size → Agree P s' (f a) (g a)) :
    Agree P s (p >>= f) (q >>= g) := by
  intro hs
  obtain ⟨heq, hends⟩ := h hs
  generalize hr : p s = r at heq hends
  cases hends with
  | error he =>
    rw [bind_error hr, bind_error heq.symm]
    exact ⟨rfl, .error he⟩
  | @ok a s' hleaves =>
    rw [bind_ok hr, bind_ok heq.symm]
    obtain ⟨heq', hends'⟩ := hf a s' hleaves.size_le (hleaves.sound hs)
    exact ⟨heq', hends'.behind hleaves⟩

theorem map (h : Agree P s p q) (j : α → β) :
    Agree P s (p >>= fun a => Pure.pure (j a)) (q >>= fun a => Pure.pure (j a)) :=
  h.bind fun a _ _ => pure (j a)

theorem ite {c : Prop} [Decidable c] {p' q' : Parser α} (ht : c → Agree P s p q)
    (he : ¬c → Agree P s p' q') : Agree P s (if c then p else p') (if c then q else q') := by
  split_ifs with h
  · exact ht h
  · exact he h

/-! ### Looking ahead -/

section

variable {f g : Option Token → Parser β}

theorem peekAt (n : Nat) (h : Agree P s (f (s.ahead n)) (g (s.ahead n))) :
    Agree P s (Parser.peekAt n >>= f) (Parser.peekAt n >>= g) := by
  intro hs
  obtain hpeek | ⟨e, he, hpeek⟩ := peekAt_cases n s
  · rw [bind_ok hpeek, bind_ok hpeek]
    exact h hs
  · rw [bind_error hpeek, bind_error hpeek]
    exact ⟨rfl, .error (hs e he)⟩

theorem peek (h : Agree P s (f (s.ahead 0)) (g (s.ahead 0))) :
    Agree P s (Parser.peek >>= f) (Parser.peek >>= g) := peekAt 0 h

/-! ### Taking a token -/

/-- A token of the kind is taken, or one that both parsers refuse. -/
theorem next (hnone : s.ahead 0 = none → Agree P s (f none) (g none))
    (hsome : ∀ t s', s'.size < s.size →
      P t ∧ Agree P s' (f (some t)) (g (some t)) ∨ Refuses (f (some t)) ∧ f (some t) = g (some t)) :
    Agree P s (Parser.next >>= f) (Parser.next >>= g) := by
  intro hs
  obtain ⟨t, s', -, hbegins, hnext⟩ | ⟨hend, ⟨e, he, hnext⟩ | hnext⟩ := next_cases s
  · rw [bind_ok hnext, bind_ok hnext]
    obtain ⟨ht, h⟩ | ⟨⟨x, hf, hx⟩, hg⟩ := hsome t s' hbegins.size_lt
    · have hleaves : s.Leaves P s' := hbegins.leaves ht
      obtain ⟨heq, hends⟩ := h (hleaves.sound hs)
      exact ⟨heq, hends.behind hleaves⟩
    · rw [← hg, hf]
      exact ⟨rfl, .error hx⟩
  · rw [bind_error hnext, bind_error hnext]
    exact ⟨rfl, .error (hs e he)⟩
  · rw [bind_ok hnext, bind_ok hnext]
    exact hnone hend hs

/-- A token that was seen before is taken. -/
theorem next_of (ht : s.ahead 0 = some t) (hP : P t)
    (h : ∀ s', s'.size < s.size → (∀ n, s'.ahead n = s.ahead (n + 1)) →
      Agree P s' (f (some t)) (g (some t))) :
    Agree P s (Parser.next >>= f) (Parser.next >>= g) := by
  intro hs
  obtain ⟨u, s', hu, hbegins, hnext⟩ | ⟨hend, -⟩ := next_cases s
  · obtain rfl := Option.some.inj (hu.symm.trans ht)
    rw [bind_ok hnext, bind_ok hnext]
    have hleaves : s.Leaves P s' := hbegins.leaves hP
    obtain ⟨heq, hends⟩ := h s' hbegins.size_lt hbegins.ahead_eq (hleaves.sound hs)
    exact ⟨heq, hends.behind hleaves⟩
  · cases hend.symm.trans ht

end

/-- A token is taken by a parser that takes one or refuses. -/
theorem one {R : α → Token → Prop} (h : TakesOne R p s) (hP : ∀ a t, R a t → P t)
    (hf : ∀ a s', s'.size < s.size → Agree P s' (f a) (g a)) :
    Agree P s (p >>= f) (p >>= g) := by
  intro hs
  cases h with
  | taken hbegins ha hp =>
    rw [bind_ok hp, bind_ok hp]
    have hleaves := hbegins.leaves (hP _ _ ha)
    obtain ⟨heq, hends⟩ := hf _ _ hbegins.size_lt (hleaves.sound hs)
    exact ⟨heq, hends.behind hleaves⟩
  | refused he hp =>
    rw [bind_error hp, bind_error hp]
    exact ⟨rfl, .error (he hs)⟩

theorem expect {f g : Unit → Parser β} (hP : P t)
    (h : ∀ s', s'.size < s.size → Agree P s' (f ()) (g ())) :
    Agree P s (Parser.expect t >>= f) (Parser.expect t >>= g) :=
  one (takesOne_expect t s) (fun _ _ ht => ht ▸ hP) fun _ => h

theorem ident {f g : String → Parser β} (role : NameRole) (hP : ∀ x, P (.ident x))
    (h : ∀ x s', s'.size < s.size → Agree P s' (f x) (g x)) :
    Agree P s (Parser.ident role >>= f) (Parser.ident role >>= g) :=
  one (takesOne_ident role s) (fun x _ ht => ht ▸ hP x) h

theorem ident_self (role : NameRole) (hP : ∀ x, P (.ident x)) :
    Agree P s (Parser.ident role) (Parser.ident role) := by
  intro hs
  refine ⟨rfl, ?_⟩
  cases takesOne_ident role s with
  | taken hbegins ht hp => exact hp ▸ .ok (hbegins.leaves (ht ▸ hP _))
  | refused he hp => exact hp ▸ .error (he hs)

theorem eat {f g : Bool → Parser β} (hP : P t)
    (htrue : ∀ s', s'.size < s.size → Agree P s' (f true) (g true))
    (hfalse : Agree P s (f false) (g false)) :
    Agree P s (Parser.eat t >>= f) (Parser.eat t >>= g) := by
  intro hs
  obtain ⟨s', hbegins, heat⟩ | ⟨-, heat⟩ | ⟨e, he, heat⟩ := eat_cases t s
  · rw [bind_ok heat, bind_ok heat]
    have hleaves := hbegins.leaves hP
    obtain ⟨heq, hends⟩ := htrue s' hbegins.size_lt (hleaves.sound hs)
    exact ⟨heq, hends.behind hleaves⟩
  · rw [bind_ok heat, bind_ok heat]
    exact hfalse hs
  · rw [bind_error heat, bind_error heat]
    exact ⟨rfl, .error (hs e he)⟩

theorem eat_self (hP : P t) : Agree P s (Parser.eat t) (Parser.eat t) := by
  intro hs
  refine ⟨rfl, ?_⟩
  obtain ⟨s', hbegins, heat⟩ | ⟨-, heat⟩ | ⟨e, he, heat⟩ := eat_cases t s
  · exact heat ▸ .ok (hbegins.leaves hP)
  · exact heat ▸ .ok (.refl s)
  · exact heat ▸ .error (hs e he)

end Agree

namespace AgreeBelow

theorem mono {j : Nat} (h : AgreeBelow P k p q) (hj : j ≤ k) : AgreeBelow P j p q :=
  fun s hs => h s (Nat.lt_of_lt_of_le hs hj)

/-- **Parsers that go round come to an end.**  If turns agree on the streams of fewer than
`j + 1` tokens whenever what they go on with agrees on those of fewer than `j`, then the
parsers made from them agree on all streams of fewer tokens than they have steps. -/
theorem loop {F G : Nat → α → Parser β} {T U : (α → Parser β) → α → Parser β}
    (hF : ∀ n a, F (n + 1) a = T (F n) a) (hG : ∀ n a, G (n + 1) a = U (G n) a)
    (hturn : ∀ j < k, ∀ again again' : α → Parser β,
      (∀ a, AgreeBelow P j (again a) (again' a)) →
      ∀ a, AgreeBelow P (j + 1) (T again a) (U again' a))
    (hn : k ≤ n) (hn' : k ≤ n') (a : α) : AgreeBelow P k (F n a) (G n' a) := by
  induction k generalizing n n' a with
  | zero => exact fun s hs => absurd hs (Nat.not_lt_zero _)
  | succ k ih =>
    obtain ⟨n, rfl⟩ := Nat.exists_eq_add_one.2 (Nat.zero_lt_of_lt hn)
    obtain ⟨n', rfl⟩ := Nat.exists_eq_add_one.2 (Nat.zero_lt_of_lt hn')
    rw [hF, hG]
    refine hturn k (Nat.lt_succ_self k) _ _ (fun a => ?_) a
    exact ih (fun j hj => hturn j (Nat.lt_succ_of_lt hj)) (Nat.le_of_succ_le_succ hn)
      (Nat.le_of_succ_le_succ hn') a

/-- The same for a turn that is told nothing. -/
theorem loop_unit {F G : Nat → Parser β} {T U : Parser β → Parser β}
    (hF : ∀ n, F (n + 1) = T (F n)) (hG : ∀ n, G (n + 1) = U (G n))
    (hturn : ∀ j < k, ∀ again again' : Parser β, AgreeBelow P j again again' →
      AgreeBelow P (j + 1) (T again) (U again'))
    (hn : k ≤ n) (hn' : k ≤ n') : AgreeBelow P k (F n) (G n') :=
  loop (F := fun n (_ : Unit) => F n) (G := fun n _ => G n) (T := fun again _ => T (again ()))
    (U := fun again _ => U (again ())) (fun n _ => hF n) (fun n _ => hG n)
    (fun j hj _ _ h _ => hturn j hj _ _ (h ())) hn hn' ()

end AgreeBelow

end Parser
end MailMerge
