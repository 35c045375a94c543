/-
# What a read ensures, and when it fails

`Ensures J P x` says of a reading computation that from a memory with the invariant `J` its
results have the property `P` and the invariant stays; of errors it says nothing.  `Fails x m`
says that it ends in an error from one memory.  Both have a rule for each way to compose
computations, and nothing later looks at the memory that is threaded through.
-/

import MailMerge.Evaluation.Memory
import Mathlib.Data.List.Basic

namespace MailMerge

namespace Read

variable {α β : Type} {x : Read α} {f : α → Read β} {m m' : Memory}

/-- What follows a success goes on from its result and its memory. -/
theorem bind_of_ok {v : α} (h : x m = .ok v m') : (x >>= f) m = f v m' := by
  change EStateM.bind x f m = _
  rw [EStateM.bind, h]

/-- Nothing follows an error. -/
theorem bind_of_error {e : RenderError} (h : x m = .error e m') : (x >>= f) m = .error e m' := by
  change EStateM.bind x f m = _
  rw [EStateM.bind, h]

/-- A success of two computations in a row is one of both. -/
theorem exists_of_bind_ok {w : β} (h : (x >>= f) m = .ok w m') :
    ∃ v m₁, x m = .ok v m₁ ∧ f v m₁ = .ok w m' := by
  rcases hx : x m with ⟨v, m₁⟩ | ⟨e, m₁⟩
  · exact ⟨v, m₁, rfl, (bind_of_ok hx).symm.trans h⟩
  · rw [bind_of_error hx] at h
    cases h

end Read

/-- A success from a memory with the invariant `J` gives a result with the property `P`, and
the invariant stays. -/
def Ensures {α : Type} (J : Memory → Prop) (P : α → Prop) (x : Read α) : Prop :=
  ∀ m v m', J m → x m = .ok v m' → P v ∧ J m'

/-- A computation that keeps an invariant. -/
abbrev Keeps {α : Type} (J : Memory → Prop) (x : Read α) : Prop := Ensures J (fun _ => True) x

namespace Ensures

variable {α β : Type} {J : Memory → Prop} {P : α → Prop} {Q : β → Prop}

theorem pure {v : α} (h : P v) : Ensures J P (Pure.pure v : Read α) := by
  rintro m _ _ hm ⟨⟩
  exact ⟨h, hm⟩

theorem throw (e : RenderError) : Ensures J P (MonadExcept.throw e : Read α) := by
  rintro _ _ _ _ ⟨⟩

theorem bind {x : Read α} {f : α → Read β} (hx : Ensures J P x)
    (hf : ∀ v, P v → Ensures J Q (f v)) : Ensures J Q (x >>= f) := by
  intro m w m' hm hrun
  obtain ⟨v, m₁, hr, hrun⟩ := Read.exists_of_bind_ok hrun
  obtain ⟨hv, hm₁⟩ := hx m v m₁ hm hr
  exact hf v hv m₁ w m' hm₁ hrun

theorem imp {R : α → Prop} {x : Read α} (hx : Ensures J P x) (h : ∀ v, P v → R v) :
    Ensures J R x := fun m v m' hm hrun => (hx m v m' hm hrun).imp_left (h v)

theorem keeps {x : Read α} (hx : Ensures J P x) : Keeps J x := hx.imp fun _ _ => trivial

/-- Results one by one. -/
theorem mapM {xs : List α} {f : α → Read β} (h : ∀ x ∈ xs, Ensures J Q (f x)) :
    Ensures J (fun ys => ∀ y ∈ ys, Q y) (xs.mapM f) := by
  induction xs with
  | nil => exact .pure (by simp)
  | cons x xs ih =>
    rw [List.mapM_cons]
    exact (h x List.mem_cons_self).bind fun y hy =>
      (ih fun z hz => h z (List.mem_cons_of_mem _ hz)).bind fun ys hys =>
        .pure (List.forall_mem_cons.2 ⟨hy, hys⟩)

/-- A property of the result at every turn. -/
theorem foldlM {xs : List α} {f : β → α → Read β} {c : β} (hc : Q c)
    (h : ∀ c x, Q c → x ∈ xs → Ensures J Q (f c x)) : Ensures J Q (xs.foldlM f c) := by
  induction xs generalizing c with
  | nil => exact .pure hc
  | cons x xs ih =>
    rw [List.foldlM_cons]
    exact (h c x hc List.mem_cons_self).bind fun d hd =>
      ih hd fun c y hc hy => h c y hc (List.mem_cons_of_mem _ hy)

end Ensures

/-- A computation ends in an error from one memory. -/
def Fails {α : Type} (x : Read α) (m : Memory) : Prop := ∃ e m', x m = .error e m'

namespace Fails

variable {α β : Type} {m m' : Memory} {x : Read α} {f : α → Read β}

theorem throw (e : RenderError) : Fails (MonadExcept.throw e : Read α) m := ⟨e, m, rfl⟩

theorem bind_left (h : Fails x m) : Fails (x >>= f) m := by
  obtain ⟨e, m', he⟩ := h
  exact ⟨e, m', Read.bind_of_error he⟩

/-- What follows a success fails. -/
theorem bind_ok {v : α} (hx : x m = .ok v m') (hf : Fails (f v) m') : Fails (x >>= f) m := by
  obtain ⟨e, m'', he⟩ := hf
  exact ⟨e, m'', (Read.bind_of_ok hx).trans he⟩

/-- What follows fails in any case. -/
theorem bind_right (hf : ∀ v m', Fails (f v) m') : Fails (x >>= f) m := by
  rcases hx : x m with ⟨v, m'⟩ | ⟨e, m'⟩
  · exact bind_ok hx (hf v m')
  · exact bind_left ⟨e, m', hx⟩

end Fails
end MailMerge
