/-
# Depth

The limit on renders one inside the other never matters: each of them belongs to an
entry that was waiting, so a limit that is at least the number of waiting entries gives
the result, the error and the memory that any other such limit gives.
-/

import MailMerge.Proofs.Reading.Progress

namespace MailMerge
namespace Reading

variable {env : Environment} {parent : Dict Value} {height : Nat}

/-- How sources are rendered with access to a depth. -/
def renderAt (env : Environment) (parent : Dict Value) (height : Nat) : Nat → String → Read String
  | 0 => fun _ => throw (.invalid .tooDeep)
  | depth + 1 => Evaluation.renderSource env (access env parent height depth)

theorem access_eq (env : Environment) (parent : Dict Value) (height depth : Nat) :
    access env parent height depth =
      { name := name env parent (renderAt env parent height depth)
        entry := entry (renderAt env parent height depth)
        height := height } := by
  cases depth <;> rfl

@[simp] theorem access_height (env : Environment) (parent : Dict Value) (height depth : Nat) :
    (access env parent height depth).height = height := by
  cases depth <;> rfl

/-- Accesses go together if they do where a template has to be rendered. -/
theorem simulates_of_settle {depth depth' : Nat} {m₀ : Memory}
    (hsettle : ∀ {n place key source m}, Progress m₀ m →
      m.vars.face? (place, key) = some (.template source) →
      Follows (Value.Related (.all height) n) (fun _ => True) (Together m)
        (settle (renderAt env parent height depth) place key source m)
        (settle (renderAt env parent height depth') place key source m)) :
    Simulates (.all height) (fun _ => True) (Together m₀) (access env parent height depth)
      (access env parent height depth') := by
  have hentry : ∀ {n place} key m, Progress m₀ m →
      Follows (Value.Related (.all height) n) (fun _ => True) (Together m)
        (entry (renderAt env parent height depth) place key m)
        (entry (renderAt env parent height depth') place key m) := fun key m hm =>
    entry_together hm.order (fun _ _ => .refl_all) (fun _ _ => .refl_all) (fun _ _ => trivial)
      fun _ hs => hsettle hm hs
  rw [access_eq, access_eq]
  refine ⟨rfl, rfl, fun _ _ => trivial, ?_, ?_, ?_, fun _ _ _ h => h.elim⟩
  · rintro m _ ⟨rfl, hm⟩
    exact ⟨rfl, hm.count⟩
  · rintro s m _ ⟨rfl, hm⟩
    exact (name_together hm.order (fun _ _ => .refl_all) (fun _ _ => .refl_all)
      (hentry s m hm)).since hm fun _ h => h
  · rintro n place keys key m _ - ⟨rfl, hm⟩
    exact (hentry key m hm).since hm fun _ h => h

/-- **Access to two depths, neither less than the number of waiting entries, is the same.** -/
theorem simulates_access {depth depth' : Nat} {m₀ : Memory} (hd : Entry.waitingIn m₀.vars ≤ depth)
    (hd' : Entry.waitingIn m₀.vars ≤ depth') :
    Simulates (.all height) (fun _ => True) (Together m₀) (access env parent height depth)
      (access env parent height depth') := by
  induction depth generalizing depth' m₀ with
  | zero =>
    -- nothing waits any more, so there is no template to render
    refine simulates_of_settle fun hm hs => ?_
    have := Vars.waitingIn_pos hs
    have := hm.waiting
    omega
  | succ depth ih =>
    refine simulates_of_settle fun {n place key source m} hm hs => ?_
    have hpos := Vars.waitingIn_pos hs
    have hle := hm.waiting
    obtain ⟨depth', rfl⟩ : ∃ d, depth' = d + 1 := ⟨depth' - 1, by omega⟩
    have hmark := replaces_mark hm.order hs
    have hmarked := waitingIn_mark hm.order hs
    have hrender := (Parallel.renderSource env source
      (Bridge.all_exact height) fun _ _ => trivial).follows
      (ih (by omega : _ ≤ depth) (by omega : _ ≤ depth')) ⟨rfl, .refl hmark.order⟩
    exact settle_together hm.order hs (fun _ => .refl_all) (fun _ _ => trivial) hrender

/-- A run makes progress, and its result could be had by itself. -/
theorem together_access (env : Environment) (parent : Dict Value) {α β : Type} {P : α → β → Prop}
    {f : Access → Read α} {g : Access → Read β} (h : Parallel (.all height) P f g) {depth : Nat}
    {m : Memory} (ho : m.vars.InOrder) (hd : Entry.waitingIn m.vars ≤ depth) :
    Follows P (fun _ => True) (Together m) (f (access env parent height depth) m)
      (g (access env parent height depth) m) :=
  h.follows (simulates_access hd hd) ⟨rfl, .refl ho⟩

/-- A waiting entry whose read succeeds holds what the read has given. -/
theorem face_of_entry {depth : Nat} {place : List String} {key source : String} {v : Value}
    {m m' : Memory} (ho : m.vars.InOrder)
    (hs : m.vars.face? (place, key) = some (.template source))
    (hd : Entry.waitingIn m.vars ≤ depth)
    (hrun : (access env parent height depth).entry place key m = .ok v m') :
    m'.vars.face? (place, key) = some (.resolved v) := by
  have hmarked := waitingIn_mark ho hs
  rw [access_eq] at hrun
  dsimp only at hrun
  rw [entry_eq, hs] at hrun
  refine face_of_settle ho hs ?_ hrun
  cases depth with
  | zero => omega
  | succ depth =>
    exact (together_access env parent (Parallel.renderSource env source
      (Bridge.all_exact height) fun _ _ => trivial) (replaces_mark ho hs).order
        (by omega)).progress

end Reading
end MailMerge
