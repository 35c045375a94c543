/-
# Running in parallel

Two accesses that answer in step make every parallel pair of computations follow one
another: from related memories both end in related results and related memories, or
both fail with the same error (`Parallel.follows`).  What single answers must keep is
the step condition `Simulates`; whole runs are covered by induction on the judgement.
-/

import MailMerge.Context
import MailMerge.Proofs.Evaluation.Templates

namespace MailMerge

/-- What a run ends in. -/
abbrev Finish (α : Type) := EStateM.Result RenderError Memory α

namespace Finish

variable {α : Type}

/-- The result of a run. -/
def result : Finish α → Except RenderError α
  | .ok x _ => .ok x
  | .error e _ => .error e

/-- The memory behind a run. -/
def memory : Finish α → Memory
  | .ok _ m => m
  | .error _ m => m

theorem result_map {β : Type} (u : α → β) (x : Read α) (m : Memory) :
    result ((u <$> x) m) = (result (x m)).map u := by
  change result (EStateM.map u x m) = _
  unfold EStateM.map
  rcases x m with ⟨v, m'⟩ | ⟨e, m'⟩ <;> rfl

theorem memory_map {β : Type} (u : α → β) (x : Read α) (m : Memory) :
    memory ((u <$> x) m) = memory (x m) := by
  change memory (EStateM.map u x m) = _
  unfold EStateM.map
  rcases x m with ⟨v, m'⟩ | ⟨e, m'⟩ <;> rfl

end Finish

/-- Runs that begin alike go on alike. -/
theorem Read.bind_congr {α β : Type} {x y : Read α} {m : Memory} (h : x m = y m) (f : α → Read β) :
    (x >>= f) m = (y >>= f) m := by
  change EStateM.bind x f m = EStateM.bind y f m
  unfold EStateM.bind
  rw [h]

/-- Two runs end in the same way: in results that `P` relates or in one error that satisfies
`E`, and in memories that `J` relates. -/
def Follows {α β : Type} (P : α → β → Prop) (E : RenderError → Prop) (J : Memory → Memory → Prop) :
    Finish α → Finish β → Prop
  | .ok x m, .ok y m' => P x y ∧ J m m'
  | .error e m, .error e' m' => e = e' ∧ E e ∧ J m m'
  | _, _ => False

namespace Follows

variable {α β γ δ : Type} {P : α → β → Prop} {E : RenderError → Prop}
  {J : Memory → Memory → Prop} {r : Finish α} {r' : Finish β}

theorem imp {Q : α → β → Prop} {F : RenderError → Prop} {K : Memory → Memory → Prop}
    (hP : ∀ x y, P x y → Q x y) (hE : ∀ e, E e → F e) (hJ : ∀ m m', J m m' → K m m')
    (h : Follows P E J r r') : Follows Q F K r r' := by
  cases r <;> cases r' <;> try exact h
  · exact ⟨hP _ _ h.1, hJ _ _ h.2⟩
  · exact ⟨h.1, hE _ h.2.1, hJ _ _ h.2.2⟩

theorem memory (h : Follows P E J r r') : J r.memory r'.memory := by
  rcases r with ⟨x, m⟩ | ⟨e, m⟩ <;> rcases r' with ⟨y, m'⟩ | ⟨e', m'⟩
  · exact h.2
  · exact h.elim
  · exact h.elim
  · exact h.2.2

/-- Runs with equal results. -/
theorem result_eq {r r' : Finish α} (h : Follows Eq E J r r') :
    Finish.result r = Finish.result r' := by
  rcases r with ⟨x, m⟩ | ⟨e, m⟩ <;> rcases r' with ⟨y, m'⟩ | ⟨e', m'⟩
  · exact congrArg Except.ok h.1
  · exact h.elim
  · exact h.elim
  · exact congrArg Except.error h.1

theorem bind {Q : γ → δ → Prop} {f : Read α} {f' : Read β} {g : α → Read γ} {g' : β → Read δ}
    {m m' : Memory} (h : Follows P E J (f m) (f' m'))
    (hg : ∀ x y m m', P x y → J m m' → Follows Q E J (g x m) (g' y m')) :
    Follows Q E J ((f >>= g) m) ((f' >>= g') m') := by
  change Follows Q E J (EStateM.bind f g m) (EStateM.bind f' g' m')
  unfold EStateM.bind
  revert h
  rcases f m with ⟨x, m₁⟩ | ⟨e, m₁⟩ <;> rcases f' m' with ⟨y, m₁'⟩ | ⟨e', m₁'⟩ <;> intro h
  · exact hg x y m₁ m₁' h.1 h.2
  · exact h.elim
  · exact h.elim
  · exact h

end Follows

/-- The answers of two accesses follow one another. -/
structure Simulates (B : Bridge) (E : RenderError → Prop) (J : Memory → Memory → Prop)
    (a a' : Access) : Prop where
  left : a.height = B.left
  right : a'.height = B.right
  fault : ∀ e, B.fault e → E e
  count : ∀ m m', J m m' → J { m with uses := m.uses + 1 } { m' with uses := m'.uses + 1 }
  name : ∀ s m m', J m m' →
    Follows (Option.Rel (Value.Related B B.left)) E J (a.name s m) (a'.name s m')
  entry : ∀ {n place keys} key m m', B.same (n + 1) place keys → J m m' →
    Follows (Value.Related B n) E J (a.entry place key m) (a'.entry place key m')
  opened : ∀ {n place keys entries} key m m', B.flat (n + 1) place keys entries → J m m' →
    Follows (Value.Related B n) E J (a.entry place key m)
      (.ok ((Dict.find? entries key).getD (.undefined key)) m')

/-- **Parallel computations follow one another** where the answers to their questions do. -/
theorem Parallel.follows {B : Bridge} {α β : Type} {P : α → β → Prop} {f : Access → Read α}
    {g : Access → Read β} (h : Parallel B P f g) {E : RenderError → Prop}
    {J : Memory → Memory → Prop} {a a' : Access} (hs : Simulates B E J a a') {m m' : Memory}
    (hm : J m m') : Follows P E J (f a m) (g a' m') := by
  induction h generalizing m m' with
  | pure hP => exact ⟨hP, hm⟩
  | throw he => exact ⟨rfl, hs.fault _ he, hm⟩
  | bind _ _ ihf ihg => exact (ihf hm).bind fun x y m m' hxy hm => ihg x y hxy hm
  | name s => exact hs.name s m m' hm
  | entry key h => exact hs.entry key m m' h hm
  | opened key h => exact hs.opened key m m' h hm
  | count => exact ⟨trivial, hs.count m m' hm⟩
  | height _ ih =>
    beta_reduce
    rw [hs.left, hs.right]
    exact ih hm

end MailMerge
