/-
# The effects of a job

What a job does to files is one of three things: it runs a hook, writes a file, or deletes
one.  Each stage of a job finds out what to do next and does it, and the first failure,
be it in finding out or in doing, ends all (`Performs`).  What is performed is therefore
in the order of the stages, and what a failure is about tells how far the job has come.
-/

import MailMerge.Proofs.Job.Reading
import MailMerge.Proofs.OutputFile

namespace MailMerge

/-- The phases of a job. -/
inductive Phase where
  | decision | preHook | text | write | postHook | deletion
  deriving DecidableEq, Repr

/-- Where a phase stands in the order of phases. -/
def Phase.rank : Phase → Nat
  | decision => 0
  | preHook => 1
  | text => 2
  | write => 3
  | postHook => 4
  | deletion => 5

/-- The phase of a hook. -/
def HookKind.phase : HookKind → Phase
  | pre => .preHook
  | post => .postHook

/-- The phase that a part of a job is rendered in. -/
def JobPart.phase : JobPart → Phase
  | hook kind => kind.phase
  | templatePath => .text
  | template _ => .text
  | _ => .decision

/-- The phase that a failure of a job belongs to. -/
def Failure.phase? : Failure → Option Phase
  | render part _ => some part.phase
  | input _ _ => some .text
  | output _ (.undeletable _) => some .deletion
  | output _ _ => some .write
  | hook kind _ _ => some kind.phase
  | _ => none

theorem Failure.IsOf.phase?_eq {part : JobPart} {e : Failure} (h : e.IsOf part) :
    e.phase? = some part.phase := by
  obtain ⟨cause, rfl⟩ := h
  rfl

/-- A hook that fails is to blame for it. -/
theorem Hook.run_error {shell : Shell} {kind : HookKind} {command folder output : String}
    {f : Failure} {w w' : World} (h : run shell kind command folder output w = (.error f, w')) :
    ∃ fault, f = .hook kind output fault := by
  unfold run at h
  rw [Action.report_bind, Action.files_bind, Action.bind_apply, Action.ofExcept_apply] at h
  cases hstart : startPlace w.files command folder with
  | error reason =>
    rw [hstart] at h
    exact ⟨_, (Except.error.inj (Prod.mk.inj h).1).symm⟩
  | ok place =>
    rw [hstart] at h
    dsimp only [Except.mapError] at h
    rw [Action.setFiles_bind] at h
    split_ifs at h
    · exact ⟨_, (Except.error.inj (Prod.mk.inj h).1).symm⟩
    · cases h

/-- A thing that a job does to files. -/
inductive Effect where
  | hook (kind : HookKind) (command folder output : String)
  | write (path text : String) (force : Bool)
  | delete (path : String)
  deriving DecidableEq

namespace Effect

/-- The phase of an effect. -/
def phase : Effect → Phase
  | hook kind _ _ _ => kind.phase
  | write _ _ _ => .write
  | delete _ => .deletion

/-- Whether an effect is a hook. -/
def isHook : Effect → Bool
  | hook _ _ _ _ => true
  | _ => false

/-- Performs an effect. -/
def perform (shell : Shell) : Effect → Action Unit
  | hook kind command folder output => Hook.run shell kind command folder output
  | write path text force => OutputFile.write path text force
  | delete path => OutputFile.delete path

/-- The files and events behind effects in a row. -/
def after (shell : Shell) (w : World) (effects : List Effect) : World :=
  effects.foldl (fun w e => (e.perform shell w).2) w

variable {shell : Shell} {w w' : World}

/-- A failure of an effect belongs to its phase. -/
theorem phase?_of_error {e : Effect} {f : Failure} (h : e.perform shell w = (.error f, w')) :
    f.phase? = some e.phase := by
  cases e with
  | hook kind command folder output =>
    obtain ⟨fault, rfl⟩ := Hook.run_error h
    rfl
  | write path text force =>
    obtain ⟨⟨fault, rfl, hfault⟩, -⟩ := OutputFile.write_error h
    cases fault with
    | undeletable e => exact absurd rfl (hfault e)
    | _ => rfl
  | delete path =>
    obtain ⟨cause, rfl⟩ := OutputFile.delete_error h
    rfl

end Effect

/-- A stage of a job: the phase in which it finds out what to do, the phase in which it does it,
and what it finds out from files. -/
structure Stage where
  asks : Phase
  acts : Phase
  next : FileTree → Except Failure (Option Effect)

/-- A stage keeps to its phases. -/
structure Stage.Orderly (s : Stage) : Prop where
  blame : ∀ t, FailsWith (fun f => f.phase? = some s.asks) (s.next t)
  effect : ∀ {t e}, s.next t = .ok (some e) → e.phase = s.acts
  forward : s.asks.rank ≤ s.acts.rank

/-- Stages in a row perform effects and end in a result: each asks what to do and does it, until
one fails. -/
inductive Performs (shell : Shell) :
    List Stage → World → List Effect → Except Failure Unit → World → Prop
  | done (w : World) : Performs shell [] w [] (.ok ()) w
  | refused {s : Stage} {stages : List Stage} {w : World} {f : Failure} :
    s.next w.files = .error f → Performs shell (s :: stages) w [] (.error f) w
  | idle {s : Stage} {stages : List Stage} {effects : List Effect} {r : Except Failure Unit}
    {w w' : World} : s.next w.files = .ok none → Performs shell stages w effects r w' →
    Performs shell (s :: stages) w effects r w'
  | failed {s : Stage} {stages : List Stage} {e : Effect} {f : Failure} {w w' : World} :
    s.next w.files = .ok (some e) → e.perform shell w = (.error f, w') →
    Performs shell (s :: stages) w [e] (.error f) w'
  | acted {s : Stage} {stages : List Stage} {e : Effect} {effects : List Effect}
    {r : Except Failure Unit} {w w₁ w' : World} :
    s.next w.files = .ok (some e) → e.perform shell w = (.ok (), w₁) →
    Performs shell stages w₁ effects r w' → Performs shell (s :: stages) w (e :: effects) r w'

/-- The effects that stages in a row perform, and how that ends. -/
def performAll (shell : Shell) : List Stage → World → List Effect × Except Failure Unit
  | [], _ => ([], .ok ())
  | s :: stages, w =>
    match s.next w.files with
    | .error f => ([], .error f)
    | .ok none => performAll shell stages w
    | .ok (some e) =>
      match e.perform shell w with
      | (.error f, _) => ([e], .error f)
      | (.ok (), w) =>
        let (effects, r) := performAll shell stages w
        (e :: effects, r)

namespace Performs

variable {shell : Shell} {stages : List Stage} {effects : List Effect} {r : Except Failure Unit}
  {w w' : World}

/-- Nothing but the effects changes the world. -/
theorem eq_after (h : Performs shell stages w effects r w') :
    w' = Effect.after shell w effects := by
  induction h with
  | done w => rfl
  | refused => rfl
  | idle _ _ ih => exact ih
  | failed _ he => rw [Effect.after, List.foldl_cons, List.foldl_nil, he]
  | acted _ he _ ih => rwa [Effect.after, List.foldl_cons, he]

/-- Effects come in the order of the stages, at most one from each. -/
theorem sublist (h : Performs shell stages w effects r w') (hs : ∀ s ∈ stages, s.Orderly) :
    (effects.map Effect.phase).Sublist (stages.map Stage.acts) := by
  induction h with
  | done w => exact .slnil
  | refused => exact List.nil_sublist _
  | idle _ _ ih =>
    exact (ih fun s hm => hs s (List.mem_cons_of_mem _ hm)).cons _
  | failed hnext =>
    rw [List.map_cons, List.map_nil, (hs _ List.mem_cons_self).effect hnext, List.map_cons]
    exact (List.nil_sublist _).cons_cons _
  | acted hnext _ _ ih =>
    rw [List.map_cons, (hs _ List.mem_cons_self).effect hnext, List.map_cons]
    exact (ih fun s hm => hs s (List.mem_cons_of_mem _ hm)).cons_cons _

/-- Each effect is what a stage found out where it was performed. -/
theorem asked (h : Performs shell stages w effects r w') {before rest : List Effect} {e : Effect}
    (heffects : effects = before ++ e :: rest) :
    ∃ s ∈ stages, s.next (Effect.after shell w before).files = .ok (some e) := by
  induction h generalizing before with
  | done w => simp at heffects
  | refused => simp at heffects
  | idle _ _ ih =>
    obtain ⟨s, hs, hnext⟩ := ih heffects
    exact ⟨s, List.mem_cons_of_mem _ hs, hnext⟩
  | failed hnext =>
    cases before with
    | nil =>
      obtain ⟨rfl, rfl⟩ := List.cons.inj heffects
      exact ⟨_, List.mem_cons_self, hnext⟩
    | cons b before => simp at heffects
  | acted hnext hperform _ ih =>
    cases before with
    | nil =>
      obtain ⟨rfl, rfl⟩ := List.cons.inj heffects
      exact ⟨_, List.mem_cons_self, hnext⟩
    | cons b before =>
      obtain ⟨rfl, hrest⟩ := List.cons.inj heffects
      obtain ⟨s, hs, hnext'⟩ := ih hrest
      refine ⟨s, List.mem_cons_of_mem _ hs, ?_⟩
      rwa [Effect.after, List.foldl_cons, hperform]

/-- **The first effect that fails is the last one.** -/
theorem stops (h : Performs shell stages w effects r w') {before rest : List Effect} {e : Effect}
    {f : Failure} (heffects : effects = before ++ e :: rest)
    (he : (e.perform shell (Effect.after shell w before)).1 = .error f) :
    rest = [] ∧ r = .error f := by
  induction h generalizing before with
  | done w => simp at heffects
  | refused => simp at heffects
  | idle _ _ ih => exact ih heffects he
  | failed hnext hperform =>
    cases before with
    | nil =>
      obtain ⟨rfl, rfl⟩ := List.cons.inj heffects
      rw [Effect.after, List.foldl_nil, hperform] at he
      exact ⟨rfl, he⟩
    | cons b before => simp at heffects
  | acted hnext hperform _ ih =>
    cases before with
    | nil =>
      obtain ⟨rfl, rfl⟩ := List.cons.inj heffects
      rw [Effect.after, List.foldl_nil, hperform] at he
      cases he
    | cons b before =>
      obtain ⟨rfl, hrest⟩ := List.cons.inj heffects
      rw [Effect.after, List.foldl_cons, hperform] at he
      exact ih hrest he

/-- **A failure tells how far the stages have come:** no effect belongs to a later phase. -/
theorem blame (h : Performs shell stages w effects r w') (hs : ∀ s ∈ stages, s.Orderly)
    (horder : stages.Pairwise fun s s' => s.acts.rank < s'.asks.rank) {f : Failure}
    (hf : r = .error f) : ∃ phase, f.phase? = some phase ∧
      (∀ e ∈ effects, e.phase.rank ≤ phase.rank) ∧ ∃ s ∈ stages, s.asks.rank ≤ phase.rank := by
  induction h with
  | done w => cases hf
  | @refused s _ _ _ hnext =>
    obtain rfl := Except.error.inj hf
    exact ⟨s.asks, (hs s List.mem_cons_self).blame _ _ hnext, by simp, s, List.mem_cons_self,
      le_rfl⟩
  | idle _ _ ih =>
    obtain ⟨phase, hphase, heffects, s, hm, hle⟩ :=
      ih (fun s hm => hs s (List.mem_cons_of_mem _ hm)) (List.pairwise_cons.1 horder).2 hf
    exact ⟨phase, hphase, heffects, s, List.mem_cons_of_mem _ hm, hle⟩
  | @failed s _ e _ _ _ hnext hperform =>
    obtain rfl := Except.error.inj hf
    have ho := hs s List.mem_cons_self
    refine ⟨e.phase, Effect.phase?_of_error hperform, by simp, s, List.mem_cons_self, ?_⟩
    rw [ho.effect hnext]
    exact ho.forward
  | @acted s _ e _ _ _ _ _ hnext _ _ ih =>
    obtain ⟨hbefore, horder⟩ := List.pairwise_cons.1 horder
    obtain ⟨phase, hphase, heffects, s', hm, hle⟩ :=
      ih (fun s hm => hs s (List.mem_cons_of_mem _ hm)) horder hf
    refine ⟨phase, hphase, List.forall_mem_cons.2 ⟨?_, heffects⟩, s',
      List.mem_cons_of_mem _ hm, hle⟩
    rw [(hs s List.mem_cons_self).effect hnext]
    exact ((hbefore s' hm).trans_le hle).le

/-- A failure is that of a stage that found out nothing, or of an effect. -/
theorem origin (h : Performs shell stages w effects r w') {f : Failure} (hf : r = .error f) :
    (∃ s ∈ stages, s.next w'.files = .error f) ∨ ∃ e ∈ effects, f.phase? = some e.phase := by
  induction h with
  | done w => cases hf
  | refused hnext =>
    obtain rfl := Except.error.inj hf
    exact .inl ⟨_, List.mem_cons_self, hnext⟩
  | idle _ _ ih =>
    exact (ih hf).imp_left fun ⟨s, hs, hnext⟩ => ⟨s, List.mem_cons_of_mem _ hs, hnext⟩
  | failed _ hperform =>
    obtain rfl := Except.error.inj hf
    exact .inr ⟨_, List.mem_cons_self, Effect.phase?_of_error hperform⟩
  | acted _ _ _ ih =>
    exact (ih hf).imp (fun ⟨s, hs, hnext⟩ => ⟨s, List.mem_cons_of_mem _ hs, hnext⟩)
      fun ⟨e, he, hphase⟩ => ⟨e, List.mem_cons_of_mem _ he, hphase⟩

end Performs

/-- The stages perform what `performAll` says. -/
theorem performs_performAll (shell : Shell) (stages : List Stage) (w : World) :
    Performs shell stages w (performAll shell stages w).1 (performAll shell stages w).2
      (Effect.after shell w (performAll shell stages w).1) := by
  induction stages generalizing w with
  | nil => exact .done w
  | cons s stages ih =>
    rw [performAll]
    cases hnext : s.next w.files with
    | error f => exact .refused hnext
    | ok o =>
      cases o with
      | none => exact .idle hnext (ih w)
      | some e =>
        dsimp only
        rcases hperform : e.perform shell w with ⟨f | u, w₁⟩
        · refine .failed hnext ?_
          rw [Effect.after, List.foldl_cons, List.foldl_nil, hperform]
        · refine .acted hnext hperform ?_
          rw [Effect.after, List.foldl_cons, hperform]
          exact ih w₁

end MailMerge
