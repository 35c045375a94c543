/-
# Shadowed variables

A variable with the name of a parent value or of a global is never read: no read of the context
renders it or an entry under it.  So a template that waits there still waits behind each read,
succeeding or failing, and might have had any other text (`Context.Plain.read_shadowed`).

All that could lead to such an entry is its name, which stands for something else, or a handle
on a mapping that it is in; and a handle comes from the name of its variable.
-/

import MailMerge.Proofs.Context.Cycles
import MailMerge.Proofs.Context.Lazy

namespace MailMerge

/-- The bridge of values whose handles are on mappings of other variables than one. -/
def Bridge.beside (root : String) (height : Nat) : Bridge :=
  .level (fun _ place _ => ∀ key, Spot.root (place, key) ≠ root) (fun _ => True) height id
    (fun _ => trivial) fun _ => trivial

theorem Bridge.beside_exact (root : String) (height : Nat) : (Bridge.beside root height).Exact :=
  fun _ _ _ _ h => h

namespace Reading

/-- Two memories that differ in the source of one waiting template only, the first of which has
made progress. -/
structure Aside (spot : Spot) (source source' : String) (m₀ m m' : Memory) : Prop where
  progress : Progress m₀ m
  unread : Unread spot source source' m m'

namespace Aside

variable {spot : Spot} {source source' : String} {m₀ m m' m₁ m₁' : Memory}

theorem since (h : Aside spot source source' m m₁ m₁') (hm : Progress m₀ m) :
    Aside spot source source' m₀ m₁ m₁' := ⟨hm.trans h.progress, h.unread⟩

theorem count (h : Aside spot source source' m₀ m m') :
    Aside spot source source' m₀ { m with uses := m.uses + 1 } { m' with uses := m'.uses + 1 } :=
  ⟨h.progress.count, h.unread.count⟩

end Aside

variable {env : Environment} {parent : Dict Value} {height n : Nat} {spot q : Spot}
  {source source' s : String} {m₀ m m' : Memory} {render : String → Read String}

/-- **The step of a read elsewhere:** if the renders under the mark do alike, so do the reads. -/
theorem settle_beside (h : Unread spot source source' m m') (hq : q ≠ spot)
    (hs : m.vars.face? q = some (.template s))
    (hrender : Follows Eq (fun _ => True)
      (Aside spot source source' (put q.1 q.2 (.rendering s) m))
      (render s (put q.1 q.2 (.rendering s) m)) (render s (put q.1 q.2 (.rendering s) m'))) :
    Follows (Value.Related (.beside (Spot.root spot) height) n) (fun _ => True)
      (Aside spot source source' m) (settle render q.1 q.2 s m) (settle render q.1 q.2 s m') := by
  have hmark := replaces_mark h.order hs
  unfold settle
  revert hrender
  rcases render s (put q.1 q.2 (.rendering s) m) with ⟨text, m₁⟩ | ⟨e, m₁⟩ <;>
    rcases render s (put q.1 q.2 (.rendering s) m') with ⟨text', m₁'⟩ | ⟨e', m₁'⟩ <;>
    intro hrender
  · obtain ⟨rfl, hp, h₁⟩ := hrender
    exact ⟨.of_atHand (Value.coerce_solid s text).atHand,
      progress_around hp h.order hs (.inl ⟨_, rfl, rfl⟩),
      h₁.put hq (hp.rendering_iff.2 hmark.here) rfl rfl [q]⟩
  · exact hrender.elim
  · exact hrender.elim
  · obtain ⟨rfl, -, hp, h₁⟩ := hrender
    exact ⟨rfl, trivial, progress_around hp h.order hs (.inr ⟨rfl, rfl⟩),
      h₁.put hq (hp.rendering_iff.2 hmark.here) rfl rfl []⟩

/-- Entries of other variables are read alike if their templates are. -/
theorem entry_beside (h : Unread spot source source' m m') (hhand : m.vars.Shows Value.AtHand)
    (hq : Spot.root q ≠ Spot.root spot)
    (hsettle : ∀ s, m.vars.face? q = some (.template s) →
      Follows (Value.Related (.beside (Spot.root spot) height) n) (fun _ => True)
        (Aside spot source source' m) (settle render q.1 q.2 s m)
        (settle render q.1 q.2 s m')) :
    Follows (Value.Related (.beside (Spot.root spot) height) n) (fun _ => True)
      (Aside spot source source' m) (entry render q.1 q.2 m) (entry render q.1 q.2 m') := by
  have hne : (q.1, q.2) ≠ spot := fun he => hq (congrArg Spot.root he)
  have hm : Aside spot source source' m m m' := ⟨.refl h.order, h⟩
  rw [entry_eq, entry_eq, h.elsewhere _ hne]
  rcases hf : m.vars.face? (q.1, q.2) with _ | face
  · exact ⟨.undefined q.2, hm⟩
  · cases face with
    | literal v => exact ⟨.of_atHand (hhand _ _ hf), hm⟩
    | resolved v => exact ⟨.of_atHand (hhand _ _ hf), hm⟩
    | mapping keys => exact ⟨.handle fun key => (Spot.root_snoc q.1 q.2 key).trans_ne hq, hm⟩
    | rendering s => exact ⟨rfl, trivial, hm⟩
    | template s => exact hsettle s hf

section

variable (hparent : ∀ s v, Dict.find? parent s = some v → v.AtHand)
  (hglobals : ∀ s v, Dict.find? env.globals s = some v → v.AtHand)
  (hshadow : (Dict.has parent (Spot.root spot) || Dict.has env.globals (Spot.root spot)) = true)
include hparent hglobals hshadow

/-- Names are resolved alike if they lead to other variables. -/
theorem name_beside {key : String} (h : Unread spot source source' m m')
    (hentry : key ≠ Spot.root spot →
      Follows (Value.Related (.beside (Spot.root spot) height) n) (fun _ => True)
        (Aside spot source source' m) (entry render [] key m) (entry render [] key m')) :
    Follows (Option.Rel (Value.Related (.beside (Spot.root spot) height) n)) (fun _ => True)
      (Aside spot source source' m) (name env parent render key m)
      (name env parent render key m') := by
  have hm : Aside spot source source' m m m' := ⟨.refl h.order, h⟩
  have hhas : Dict.has m'.vars key = Dict.has m.vars key := by
    rw [Vars.has_eq_isSome_face?, Vars.has_eq_isSome_face?, h.isSome]
  unfold name
  rcases hp : Dict.find? parent key with _ | v
  · rcases hg : Dict.find? env.globals key with _ | v
    · have hne : key ≠ Spot.root spot := by
        rintro rfl
        simp [Dict.has, hp, hg] at hshadow
      dsimp only
      rw [hhas]
      split
      · exact (hentry hne).bind fun x y m m' hxy hm => ⟨.some hxy, hm⟩
      · exact ⟨.none, hm⟩
    · exact ⟨.some (.of_atHand (hglobals key v hg)), hm⟩
  · exact ⟨.some (.of_atHand (hparent key v hp)), hm⟩

/-- Accesses do alike if they do where a template of another variable has to be rendered. -/
theorem aside_of_render {depth : Nat} (hhand : m₀.vars.Shows Value.AtHand)
    (hrender : ∀ {q s m m'}, Progress m₀ m → Unread spot source source' m m' → q ≠ spot →
      m.vars.face? q = some (.template s) →
      Follows Eq (fun _ => True) (Aside spot source source' (put q.1 q.2 (.rendering s) m))
        (renderAt env parent height depth s (put q.1 q.2 (.rendering s) m))
        (renderAt env parent height depth s (put q.1 q.2 (.rendering s) m'))) :
    Simulates (.beside (Spot.root spot) height) (fun _ => True) (Aside spot source source' m₀)
      (access env parent height depth) (access env parent height depth) := by
  have hentry : ∀ {n m m'} (q : Spot), Spot.root q ≠ Spot.root spot → Progress m₀ m →
      Unread spot source source' m m' →
      Follows (Value.Related (.beside (Spot.root spot) height) n) (fun _ => True)
        (Aside spot source source' m) (entry (renderAt env parent height depth) q.1 q.2 m)
        (entry (renderAt env parent height depth) q.1 q.2 m') := by
    intro n m m' q hq hp h
    have hne : q ≠ spot := fun he => hq (congrArg Spot.root he)
    exact entry_beside h (hp.shows (fun s text => (Value.coerce_solid s text).atHand) hhand) hq
      fun s hs => settle_beside h hne hs (hrender hp h hne hs)
  rw [access_eq]
  refine ⟨rfl, rfl, fun _ _ => trivial, fun m m' h => h.count, fun s m m' h => ?_, ?_,
    fun _ _ _ h => h.elim⟩
  · exact (name_beside hparent hglobals hshadow h.unread fun hne =>
      hentry ([], s) hne h.progress h.unread).imp (fun _ _ h => h) (fun _ h => h)
        fun _ _ h₁ => h₁.since h.progress
  · intro n place keys key m m' hsame h
    exact (hentry (place, key) (hsame key) h.progress h.unread).imp (fun _ _ h => h)
      (fun _ h => h) fun _ _ h₁ => h₁.since h.progress

/-- **What is shadowed is never read:** runs do alike whatever the template is. -/
theorem aside_access (depth : Nat) (hhand : m₀.vars.Shows Value.AtHand) :
    Simulates (.beside (Spot.root spot) height) (fun _ => True) (Aside spot source source' m₀)
      (access env parent height depth) (access env parent height depth) := by
  induction depth generalizing m₀ with
  | zero =>
    refine aside_of_render hparent hglobals hshadow hhand fun hp h hq hs => ?_
    have hmark := replaces_mark h.order hs
    exact ⟨rfl, trivial, .refl hmark.order, h.put hq hs rfl rfl []⟩
  | succ depth ih =>
    refine aside_of_render hparent hglobals hshadow hhand fun {q s m m'} hp h hq hs => ?_
    have hmark := replaces_mark h.order hs
    have hhandm := hp.shows (fun s text => (Value.coerce_solid s text).atHand) hhand
    have hmarked : (put q.1 q.2 (.rendering s) m).vars.Shows Value.AtHand :=
      (Grounded.mark ⟨h.order, hhandm, fun _ _ hf => hf⟩ hs).atHand
    exact (Parallel.renderSource env s (Bridge.beside_exact _ height) fun _ _ => trivial).follows
      (ih hmarked) ⟨.refl hmark.order, h.put hq hs rfl rfl []⟩

end

end Reading

namespace Context

variable {c : Context} {spot : Spot} {source : String}

/-- The parent scope or the globals have a value of this name. -/
def Shadows (c : Context) (key : String) : Prop :=
  (Dict.has c.parent key || Dict.has c.env.globals key) = true

/-- **Shadowed variables are never rendered.**  A template that waits at or under a variable with
the name of a parent value or of a global waits behind each read as before, and with any other
source in its place the read gives the same, fails the same and leaves the same behind it, but
for that source. -/
theorem Plain.read_shadowed (h : c.Plain Value.AtHand) (hshadow : c.Shadows (Spot.root spot))
    (hs : c.vars.face? spot = some (.template source)) (step : ReadStep) :
    (c.read step).2.vars.face? spot = some (.template source) ∧ ∀ source',
      (c.withSource spot source').read step =
        ((c.read step).1, (c.read step).2.withSource spot source') := by
  have hfollows : ∀ source', Follows Eq (fun _ => True)
      (Reading.Aside spot source source' c.memory) (step.answer c.env c.access c.memory)
      (step.answer c.env c.access (c.withSource spot source').memory) := fun source' =>
    (step.parallel (Bridge.beside_exact _ _) c.env fun _ _ _ => trivial).follows
      (Reading.aside_access
        (fun s v hf => Value.atHand_map.1 h.parent (s, v) (Dict.mem_of_find? hf))
        (fun s v hf => Value.atHand_map.1 h.globals (s, v) (Dict.mem_of_find? hf)) hshadow _ h.vars)
      ⟨.refl h.atRest.order, .of_put h.atRest.order hs source'⟩
  have hmemory : (c.read step).2 =
      { c with memory := Finish.memory (step.answer c.env c.access c.memory) } := by
    rw [read_eq_run, run_memory]
  refine ⟨?_, fun source' => Prod.ext ?_ ?_⟩
  · rw [hmemory]
    exact (hfollows source).memory.unread.here
  · rw [read_eq_run, read_eq_run, run_result, run_result, access_withSource h.atRest hs source']
    exact (hfollows source').result_eq.symm
  · rw [hmemory, read_eq_run, run_memory, access_withSource h.atRest hs source']
    exact congrArg (fun m => ({ c with memory := m } : Context))
      (hfollows source').memory.unread.eq_put

end Context
end MailMerge
