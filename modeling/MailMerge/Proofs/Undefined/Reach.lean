/-
# Where a template evaluates its expressions

`Evaluates` follows the render of nodes to each expression that is evaluated on the way: the
scopes and the memory it is evaluated in are those that the nodes, cases and turns before it
have left.  The scopes hold loose values (`Evaluates.loose`), and what fails at such a place
fails the whole render, since no construct catches an error; so does an undefined value where
a text is put out or a loop begins (`Evaluates.fails`).
-/

import MailMerge.Proofs.Undefined.Strict
import MailMerge.Proofs.Undefined.Templates

namespace MailMerge
namespace Evaluation

/-- Rendering nodes in scopes and a memory comes to evaluating an expression in scopes and a
memory, where its value may be needed to be defined or not. -/
inductive Evaluates (env : Environment) (a : Access) :
    (needed : Bool) → List Node → Scopes → Memory → Expr → Scopes → Memory → Prop
  | output {e : Expr} {rest : List Node} {s : Scopes} {m : Memory} :
    Evaluates env a true (.output e :: rest) s m e s m
  | set {target : String} {e : Expr} {rest : List Node} {s : Scopes} {m : Memory} :
    Evaluates env a false (.set target e :: rest) s m e s m
  | condition {before after : List (Expr × List Node)} {c : Expr} {body rest : List Node}
    {otherwise : Option (List Node)} {s : Scopes} {m m' : Memory} :
    renderCases env a before s m = .ok none m' →
    Evaluates env a false (.branch (before ++ (c, body) :: after) otherwise :: rest) s m c s m'
  | case {needed : Bool} {before after : List (Expr × List Node)} {c e : Expr}
    {body rest : List Node} {otherwise : Option (List Node)} {s s' : Scopes}
    {m m₁ m₂ m' : Memory} {v : Value} :
    renderCases env a before s m = .ok none m₁ → eval env a s c m₁ = .ok v m₂ →
    v.truthy = true → Evaluates env a needed body s m₂ e s' m' →
    Evaluates env a needed (.branch (before ++ (c, body) :: after) otherwise :: rest) s m e s' m'
  | otherwise {needed : Bool} {cases : List (Expr × List Node)} {e : Expr} {body rest : List Node}
    {s s' : Scopes} {m m₁ m' : Memory} :
    renderCases env a cases s m = .ok none m₁ → Evaluates env a needed body s m₁ e s' m' →
    Evaluates env a needed (.branch cases (some body) :: rest) s m e s' m'
  | sequence {targets : List String} {e : Expr} {body rest : List Node}
    {otherwise : Option (List Node)} {s : Scopes} {m : Memory} :
    Evaluates env a true (.loop targets e body otherwise :: rest) s m e s m
  | turn {needed : Bool} {targets : List String} {sequence e : Expr} {body rest : List Node}
    {otherwise : Option (List Node)} {s s' inner : Scopes} {m m₁ m₂ m₃ m₄ m' : Memory}
    {v item : Value} {items before after : List Value} {text : String} :
    eval env a s sequence m = .ok v m₁ → loopItems a targets.length v m₁ = .ok items m₂ →
    items = before ++ item :: after →
    turns (renderNodes env a body) targets s items.length 0 before m₂ = .ok text m₃ →
    bindTargets targets item ([] :: s) m₃ = .ok inner m₄ →
    Evaluates env a needed body (inner.set "loop" (loopInfo before.length items.length)) m₄ e s'
      m' →
    Evaluates env a needed (.loop targets sequence body otherwise :: rest) s m e s' m'
  | empty {needed : Bool} {targets : List String} {sequence e : Expr}
    {body otherwise rest : List Node} {s s' : Scopes} {m m₁ m₂ m' : Memory} {v : Value} :
    eval env a s sequence m = .ok v m₁ → loopItems a targets.length v m₁ = .ok [] m₂ →
    Evaluates env a needed otherwise s m₂ e s' m' →
    Evaluates env a needed (.loop targets sequence body (some otherwise) :: rest) s m e s' m'
  | later {needed : Bool} {node : Node} {rest : List Node} {e : Expr} {s s₁ s' : Scopes}
    {m m₁ m' : Memory} {text : String} :
    renderNode env a node s m = .ok (text, s₁) m₁ → Evaluates env a needed rest s₁ m₁ e s' m' →
    Evaluates env a needed (node :: rest) s m e s' m'

namespace Evaluates

variable {env : Environment} {a : Access} {needed : Bool} {nodes : List Node} {s s' : Scopes}
  {m m' : Memory} {e : Expr}

/-- **Expressions are evaluated in scopes of loose values.** -/
theorem loose {J : Memory → Prop} {H : Handles} (ha : a.Defined J H)
    (h : Evaluates env a needed nodes s m e s' m') (hs : s.Loose H) (hm : J m) :
    s'.Loose H ∧ J m' := by
  induction h with
  | output => exact ⟨hs, hm⟩
  | set => exact ⟨hs, hm⟩
  | condition hbefore => exact ⟨hs, (Ensures.renderCases ha _ hs _ _ _ hm hbefore).2⟩
  | case hbefore hc _ _ ih =>
    have hm₁ := (Ensures.renderCases ha _ hs _ _ _ hm hbefore).2
    exact ih hs (Ensures.eval ha hs _ _ _ _ hm₁ hc).2
  | otherwise hcases _ ih => exact ih hs (Ensures.renderCases ha _ hs _ _ _ hm hcases).2
  | sequence => exact ⟨hs, hm⟩
  | turn hsequence hitems hsplit hbefore hbind _ ih =>
    obtain ⟨hv, hm₁⟩ := Ensures.eval ha hs _ _ _ _ hm hsequence
    obtain ⟨hwhole, hm₂⟩ := Ensures.loopItems ha _ hv _ _ _ hm₁ hitems
    obtain ⟨hwhole₁, hwhole₂⟩ := List.forall_mem_append.1 (hsplit ▸ hwhole)
    have hm₃ := (Ensures.turns (fun hs => Ensures.renderNodes ha _ hs) _ hs _ hwhole₁ _
      _ _ _ hm₂ hbefore).2
    obtain ⟨hinner, hm₄⟩ := Ensures.bindTargets _ (hwhole₂ _ List.mem_cons_self) hs.push
      _ _ _ hm₃ hbind
    exact ih (Ensures.loose_turn hinner _ _) hm₄
  | empty hsequence hitems _ ih =>
    obtain ⟨hv, hm₁⟩ := Ensures.eval ha hs _ _ _ _ hm hsequence
    exact ih hs (Ensures.loopItems ha _ hv _ _ _ hm₁ hitems).2
  | later hnode _ ih =>
    obtain ⟨hs₁, hm₁⟩ := Ensures.renderNode ha _ hs _ _ _ hm hnode
    exact ih hs₁ hm₁

/-- The cases behind conditions that do not hold. -/
theorem fails_renderCases {before after : List (Expr × List Node)}
    (h : renderCases env a before s m = .ok none m')
    (hafter : Fails (renderCases env a after s) m') :
    Fails (renderCases env a (before ++ after) s) m := by
  induction before generalizing m with
  | nil =>
    obtain ⟨-, rfl⟩ := EStateM.Result.ok.inj h
    exact hafter
  | cons p rest ih =>
    obtain ⟨v, m₁, hv, h⟩ := Read.exists_of_bind_ok h
    refine .bind_ok hv ?_
    split at h
    · obtain ⟨_, _, _, h⟩ := Read.exists_of_bind_ok h
      cases h
    · rw [if_neg ‹_›]
      exact ih h

/-- The turns behind turns that succeed. -/
theorem fails_turns {body : Scopes → Read (String × Scopes)} {targets : List String} {i n : Nat}
    {before after : List Value} {text : String}
    (h : turns body targets s n i before m = .ok text m')
    (hafter : Fails (turns body targets s n (i + before.length) after) m') :
    Fails (turns body targets s n i (before ++ after)) m := by
  induction before generalizing i m text with
  | nil =>
    obtain ⟨-, rfl⟩ := EStateM.Result.ok.inj h
    exact hafter
  | cons item rest ih =>
    obtain ⟨inner, m₁, hinner, h⟩ := Read.exists_of_bind_ok h
    obtain ⟨r, m₂, hr, h⟩ := Read.exists_of_bind_ok h
    obtain ⟨more, m₃, hmore, h⟩ := Read.exists_of_bind_ok h
    obtain ⟨-, rfl⟩ := EStateM.Result.ok.inj h
    refine .bind_ok hinner (.bind_ok hr (Fails.bind_left (ih hmore ?_)))
    rwa [Nat.add_right_comm]

/-- A loop whose turns fail. -/
theorem fails_loop {targets : List String} {sequence : Expr} {body : List Node}
    {otherwise : Option (List Node)} {m₁ : Memory} {v : Value} {items : List Value}
    (hsequence : eval env a s sequence m = .ok v m₁)
    (hitems : loopItems a targets.length v m₁ = .ok items m') (hne : items ≠ [])
    (hturns : Fails (turns (renderNodes env a body) targets s items.length 0 items) m') :
    Fails (renderNode env a (.loop targets sequence body otherwise) s) m := by
  refine .bind_ok hsequence (.bind_ok hitems ?_)
  cases items with
  | nil => exact absurd rfl hne
  | cons x xs => exact hturns.bind_left

/-- **No construct catches an error:** what fails at one place fails the render, and so does an
undefined value where it is needed. -/
theorem fails (h : Evaluates env a needed nodes s m e s' m')
    (he : Fails (eval env a s' e) m' ∨ needed = true ∧ GivesUndefined (eval env a s' e) m') :
    Fails (renderNodes env a nodes s) m := by
  induction h with
  | output =>
    rcases he with he | ⟨-, hu⟩
    · exact Fails.bind_left he.bind_left
    · exact (fails_renderNode_output hu).bind_left
  | set =>
    rcases he with he | ⟨hn, -⟩
    · exact Fails.bind_left he.bind_left
    · cases hn
  | condition hbefore =>
    rcases he with he | ⟨hn, -⟩
    · exact (fails_renderCases hbefore he.bind_left).bind_left.bind_left
    · cases hn
  | case hbefore hc htrue _ ih =>
    refine (fails_renderCases hbefore (.bind_ok hc ?_)).bind_left.bind_left
    rw [if_pos htrue]
    exact (ih he).bind_left
  | otherwise hcases _ ih => exact (Fails.bind_ok hcases (ih he)).bind_left
  | sequence =>
    rcases he with he | ⟨-, hu⟩
    · exact Fails.bind_left he.bind_left
    · exact (fails_renderNode_loop hu).bind_left
  | @turn _ targets _ _ body _ _ s _ _ _ _ _ m₃ _ _ _ item items before after _ hsequence hitems
      hsplit hbefore hbind _ ih =>
    have hitem : Fails (turns (renderNodes env a body) targets s items.length (0 + before.length)
        (item :: after)) m₃ := by
      rw [Nat.zero_add]
      exact .bind_ok hbind (ih he).bind_left
    have hturns := fails_turns hbefore hitem
    rw [← hsplit] at hturns
    exact (fails_loop hsequence hitems (by simp [hsplit]) hturns).bind_left
  | empty hsequence hitems _ ih =>
    exact Fails.bind_left (.bind_ok hsequence (.bind_ok hitems (ih he)))
  | later hnode _ ih => exact .bind_ok hnode (ih he).bind_left

end Evaluates
end Evaluation
end MailMerge
