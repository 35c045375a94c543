/-
# Reading without a memory

The same reads over variables that stay as they are: a template is rendered each time it
is asked for, with its entry marked, and nothing is written down.  What such a
computation gives does not depend on the memory it runs in.  It is what reading with a
memory is measured by.

`Marking base vars` says that `vars` is `base` with some waiting entries marked.
-/

import MailMerge.Proofs.Reading.Depth

namespace MailMerge

namespace Read

/-- A computation that has one result, whatever the memory. -/
def Gives {α : Type} (x : Read α) (r : Except RenderError α) : Prop :=
  ∀ m, Finish.result (x m) = r

variable {α β : Type}

theorem gives_pure (v : α) : Gives (pure v : Read α) (.ok v) := fun _ => rfl

theorem gives_throw (e : RenderError) : Gives (throw e : Read α) (.error e) := fun _ => rfl

/-- A result is no other. -/
theorem Gives.unique {x : Read α} {r r' : Except RenderError α} (h : Gives x r)
    (h' : Gives x r') : r = r' := (h {}).symm.trans (h' {})

theorem Gives.bind_ok {x : Read α} {f : α → Read β} {v : α} {r : Except RenderError β}
    (hx : Gives x (.ok v)) (hf : Gives (f v) r) : Gives (x >>= f) r := by
  intro m
  have hm := hx m
  change Finish.result (EStateM.bind x f m) = r
  unfold EStateM.bind
  rcases h : x m with ⟨w, m'⟩ | ⟨e, m'⟩
  · rw [h] at hm
    obtain rfl := Except.ok.inj hm
    exact hf m'
  · rw [h] at hm
    cases hm

theorem Gives.bind_error {x : Read α} {f : α → Read β} {e : RenderError}
    (hx : Gives x (.error e)) : Gives (x >>= f) (.error e) := by
  intro m
  have hm := hx m
  change Finish.result (EStateM.bind x f m) = .error e
  unfold EStateM.bind
  rcases h : x m with ⟨w, m'⟩ | ⟨d, m'⟩
  · rw [h] at hm
    cases hm
  · rw [h] at hm
    obtain rfl := Except.error.inj hm
    rfl

/-- Computations in a row give what their results in a row are. -/
theorem Gives.bind {x : Read α} {f : α → Read β} {r : Except RenderError α}
    {s : α → Except RenderError β} (hx : Gives x r) (hf : ∀ v, Gives (f v) (s v)) :
    Gives (x >>= f) (r >>= s) := by
  rcases r with e | v
  · exact hx.bind_error
  · exact hx.bind_ok (hf v)

/-- Computations over a list give what their results over the list are. -/
theorem Gives.mapM {f : α → Read β} {g : α → Except RenderError β} {xs : List α}
    (h : ∀ x ∈ xs, Gives (f x) (g x)) : Gives (xs.mapM f) (xs.mapM g) := by
  induction xs with
  | nil => exact gives_pure _
  | cons x xs ih =>
    rw [List.forall_mem_cons] at h
    rw [List.mapM_cons, List.mapM_cons]
    exact h.1.bind fun _ => (ih h.2).bind fun _ => gives_pure _

theorem exists_gives_bind {x : Read α} {f : α → Read β} (hx : ∃ r, Gives x r)
    (hf : ∀ v, ∃ r, Gives (f v) r) : ∃ r, Gives (x >>= f) r := by
  obtain ⟨r | v, hx⟩ := hx
  · exact ⟨_, hx.bind_error⟩
  · obtain ⟨s, hs⟩ := hf v
    exact ⟨s, hx.bind_ok hs⟩

theorem exists_gives_mapM {f : α → Read β} {xs : List α} (h : ∀ x ∈ xs, ∃ r, Gives (f x) r) :
    ∃ r, Gives (xs.mapM f) r := by
  refine ⟨xs.mapM fun x => Finish.result (f x {}), Gives.mapM fun x hx => ?_⟩
  obtain ⟨r, hr⟩ := h x hx
  rwa [hr {}]

theorem Gives.map {x : Read α} {r : Except RenderError α} (hx : Gives x r) (f : α → β) :
    Gives (f <$> x) (r.map f) := by
  rw [← bind_pure_comp]
  rcases r with e | v
  · exact hx.bind_error
  · exact hx.bind_ok (gives_pure (f v))

end Read

namespace Reading

/-- What rendering the entry `key` from its source makes of the source's text: a value, or the
error met in the variable. -/
def valueOf (key source : String) (x : Read String) : Read Value := fun m =>
  match x m with
  | .ok text m => .ok (.coerce source text) m
  | .error e m => .error (.inVariable key e) m

/-- Reads an entry of variables that stay as they are. -/
def entryAfresh (render : Vars → String → Read String) (vars : Vars) (place : List String)
    (key : String) : Read Value :=
  match vars.face? (place, key) with
  | none => pure (.undefined key)
  | some (.literal v) => pure v
  | some (.resolved v) => pure v
  | some (.mapping keys) => pure (.lazy (place ++ [key]) keys)
  | some (.rendering _) => throw (.cyclic key)
  | some (.template source) =>
    valueOf key source (render (vars.put place key (.rendering source)) source)

/-- Resolves a name among variables that stay as they are. -/
def nameAfresh (env : Environment) (parent : Dict Value) (render : Vars → String → Read String)
    (vars : Vars) (s : String) : Read (Option Value) :=
  match Dict.find? parent s with
  | some v => pure (some v)
  | none =>
    match Dict.find? env.globals s with
    | some v => pure (some v)
    | none => if Dict.has vars s then some <$> entryAfresh render vars [] s else pure none

/-- Access to variables that stay as they are, for up to `depth` renders one inside the
other. -/
def afresh (env : Environment) (parent : Dict Value) (height : Nat) : Nat → Vars → Access
  | 0, vars =>
    let render := fun (_ : Vars) (_ : String) => (throw (.invalid .tooDeep) : Read String)
    { name := nameAfresh env parent render vars
      entry := entryAfresh render vars
      height := height }
  | depth + 1, vars =>
    let render := fun vars => Evaluation.renderSource env (afresh env parent height depth vars)
    { name := nameAfresh env parent render vars
      entry := entryAfresh render vars
      height := height }

/-- How sources are rendered afresh to a depth. -/
def renderAfresh (env : Environment) (parent : Dict Value) (height : Nat) :
    Nat → Vars → String → Read String
  | 0 => fun _ _ => throw (.invalid .tooDeep)
  | depth + 1 => fun vars => Evaluation.renderSource env (afresh env parent height depth vars)

theorem afresh_eq (env : Environment) (parent : Dict Value) (height depth : Nat) (vars : Vars) :
    afresh env parent height depth vars =
      { name := nameAfresh env parent (renderAfresh env parent height depth) vars
        entry := entryAfresh (renderAfresh env parent height depth) vars
        height := height } := by
  cases depth <;> rfl

@[simp] theorem afresh_height (env : Environment) (parent : Dict Value) (height depth : Nat)
    (vars : Vars) : (afresh env parent height depth vars).height = height := by
  cases depth <;> rfl

/-- What has a value without rendering gives it afresh. -/
theorem gives_entry {env : Environment} {parent : Dict Value} {height depth : Nat} {vars : Vars}
    {spot : Spot} {v : Value} (h : Face.value? spot (vars.face? spot) = some v) :
    Read.Gives ((afresh env parent height depth vars).entry spot.1 spot.2) (.ok v) := by
  rw [afresh_eq]
  simp only [entryAfresh]
  revert h
  rcases vars.face? spot with _ | face
  · rintro ⟨⟩
    exact Read.gives_pure _
  · cases face <;> rintro ⟨⟩ <;> exact Read.gives_pure _

theorem gives_valueOf_ok {key source text : String} {x : Read String}
    (h : Read.Gives x (.ok text)) :
    Read.Gives (valueOf key source x) (.ok (.coerce source text)) := by
  intro m
  have hm := h m
  unfold valueOf
  rcases hx : x m with ⟨t, m'⟩ | ⟨e, m'⟩ <;> rw [hx] at hm <;> cases hm
  rfl

theorem gives_valueOf_error {key source : String} {e : RenderError} {x : Read String}
    (h : Read.Gives x (.error e)) :
    Read.Gives (valueOf key source x) (.error (.inVariable key e)) := by
  intro m
  have hm := h m
  unfold valueOf
  rcases hx : x m with ⟨t, m'⟩ | ⟨d, m'⟩ <;> rw [hx] at hm <;> cases hm
  rfl

end Reading

namespace Vars

/-- Variables with some of the waiting entries marked. -/
structure Marking (base vars : Vars) : Prop where
  order : vars.InOrder
  face : ∀ spot, vars.face? spot = base.face? spot ∨
    ∃ s, base.face? spot = some (.template s) ∧ vars.face? spot = some (.rendering s)

namespace Marking

variable {base vars : Vars} {spot : Spot}

theorem refl (h : base.InOrder) : Marking base base := ⟨h, fun _ => .inl rfl⟩

/-- A marking shows what waits nowhere as it is. -/
theorem face_eq (h : Marking base vars) (hn : ∀ s, base.face? spot ≠ some (.template s)) :
    vars.face? spot = base.face? spot :=
  (h.face spot).resolve_right fun ⟨s, hs, _⟩ => hn s hs

/-- An entry that waits and is not marked waits as it did. -/
theorem template (h : Marking base vars) {s : String}
    (hs : base.face? spot = some (.template s))
    (hn : ∀ s, vars.face? spot ≠ some (.rendering s)) :
    vars.face? spot = some (.template s) := by
  rcases h.face spot with he | ⟨t, -, ht⟩
  · exact he.trans hs
  · exact absurd ht (hn t)

/-- One more mark. -/
theorem mark (h : Marking base vars) {s : String} (hb : base.face? spot = some (.template s))
    (hs : vars.face? spot = some (.template s)) :
    Marking base (vars.put spot.1 spot.2 (.rendering s)) := by
  have hput := replaces_mark h.order hs
  refine ⟨hput.order, fun q => ?_⟩
  by_cases hq : q = spot
  · exact .inr ⟨s, hq ▸ hb, hq ▸ hput.here⟩
  · rw [hput.elsewhere q hq]
    exact h.face q

end Marking
end Vars
end MailMerge
