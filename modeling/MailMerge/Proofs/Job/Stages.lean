/-
# A job in stages

A job that is not skipped decides on a plan and then goes through four stages: the first
hook, the rendering and writing, the second hook, the deletion.
-/

import MailMerge.Proofs.Job.Effects

namespace MailMerge
namespace Job

variable {shell : Shell} {job : Job}

/-! ### The stages -/

section

variable (job) (p : Plan)

/-- The stage of a hook. -/
def hookStage (kind : HookKind) : Stage where
  asks := kind.phase
  acts := kind.phase
  next _ := (job.command kind).map (Option.map fun command => .hook kind command p.folder p.output)

/-- The stage that renders the template and writes the output. -/
def writeStage : Stage where
  asks := .text
  acts := .write
  next t := (job.text p.folder t).map fun text => some (.write p.output text p.force)

/-- The stage that deletes an output that is not to stay. -/
def deleteStage : Stage where
  asks := .deletion
  acts := .deletion
  next _ := .ok (if p.delete then some (.delete p.output) else none)

/-- The stages of a job with a plan. -/
def stages : List Stage :=
  [job.hookStage p .pre, job.writeStage p, job.hookStage p .post, deleteStage p]

end

/-! ### The stages as the job goes through them -/

/-- Finds out what to do, and does it. -/
def act (shell : Shell) (choice : JobAction (Option Effect)) : JobAction Unit := do
  match ← choice with
  | some e => acting (e.perform shell)
  | none => pure ()

/-- How the stages of a plan find out what to do. -/
def choices (p : Plan) : List (JobAction (Option Effect)) :=
  let hook := fun kind => (Option.map fun command => Effect.hook kind command p.folder p.output) <$>
    resolveCommand kind kind.key
  [hook .pre, (fun text => some (.write p.output text p.force)) <$> renderTemplate p.folder,
    hook .post, pure (if p.delete then some (.delete p.output) else none)]

theorem act_map {α : Type} (shell : Shell) (u : α → Option Effect) (x : JobAction α) :
    act shell (u <$> x) = x >>= fun a => act shell (pure (u a)) := by
  simp only [act, bind_map_left, pure_bind]

theorem runHook_eq (shell : Shell) (kind : HookKind) (folder output : String) :
    runHook shell kind kind.key folder output = act shell
      ((Option.map fun command => Effect.hook kind command folder output) <$>
        resolveCommand kind kind.key) := by
  rw [runHook, act_map]
  refine bind_congr fun o => ?_
  cases o <;> rfl

/-- A job decides on a plan, and then takes stage after stage. -/
theorem process_eq (shell : Shell) : process shell = (do
    let p ← plan
    (choices p).forM (act shell)
    return p.output) := by
  have hpre := runHook_eq shell .pre
  have hpost := runHook_eq shell .post
  dsimp only [HookKind.key] at hpre hpost
  unfold process plan choices
  simp only [bind_assoc, pure_bind, List.forM, HookKind.key, ← hpre, ← hpost,
    act_map shell (fun text => some (Effect.write _ text _))]
  refine bind_congr fun folder => bind_congr fun name => bind_congr fun force =>
    bind_congr fun delete => bind_congr fun _ => bind_congr fun text => bind_congr fun _ =>
      bind_congr fun _ => ?_
  cases delete <;> rfl

/-- A stage performs what it finds out. -/
theorem act_apply (shell : Shell) {c₀ c : Context} {q : FileTree → Except Failure (Option Effect)}
    {x : JobAction (Option Effect)} (hx : Reads c₀ q x) (w : World) (hc : c₀.ReadFrom c) :
    ∃ c', c₀.ReadFrom c' ∧ act shell x ⟨w, c⟩ = match q w.files with
      | .error f => (.error f, ⟨w, c'⟩)
      | .ok none => (.ok (), ⟨w, c'⟩)
      | .ok (some e) => ((e.perform shell w).1, ⟨(e.perform shell w).2, c'⟩) := by
  obtain ⟨c', hask, hc'⟩ := hx ⟨w, c⟩ hc
  refine ⟨c', hc', ?_⟩
  rw [act, Action.bind_apply, hask]
  rcases q w.files with f | o
  · rfl
  · cases o <;> rfl

/-- **Stages in a row run as they perform.** -/
theorem forM_act_of_performs {c₀ c : Context} {stages : List Stage} {w w' : World}
    {effects : List Effect} {r : Except Failure Unit} (h : Performs shell stages w effects r w')
    {choices : List (JobAction (Option Effect))}
    (hreads : List.Forall₂ (fun x s => Reads c₀ s.next x) choices stages) (hc : c₀.ReadFrom c) :
    ∃ c', choices.forM (act shell) ⟨w, c⟩ = (r, ⟨w', c'⟩) := by
  induction h generalizing choices c with
  | done w =>
    cases hreads
    exact ⟨c, rfl⟩
  | refused hnext =>
    obtain _ | ⟨hx, -⟩ := hreads
    obtain ⟨c', -, hact⟩ := act_apply shell hx _ hc
    rw [hnext] at hact
    exact ⟨c', Action.bind_error hact⟩
  | idle hnext _ ih =>
    obtain _ | ⟨hx, hrest⟩ := hreads
    obtain ⟨c', hc', hact⟩ := act_apply shell hx _ hc
    rw [hnext] at hact
    obtain ⟨c'', hend⟩ := ih hrest hc'
    exact ⟨c'', (Action.bind_ok hact).trans hend⟩
  | failed hnext hperform =>
    obtain _ | ⟨hx, -⟩ := hreads
    obtain ⟨c', -, hact⟩ := act_apply shell hx _ hc
    rw [hnext] at hact
    dsimp only at hact
    rw [hperform] at hact
    exact ⟨c', Action.bind_error hact⟩
  | acted hnext hperform _ ih =>
    obtain _ | ⟨hx, hrest⟩ := hreads
    obtain ⟨c', hc', hact⟩ := act_apply shell hx _ hc
    rw [hnext] at hact
    dsimp only at hact
    rw [hperform] at hact
    obtain ⟨c'', hend⟩ := ih hrest hc'
    exact ⟨c'', (Action.bind_ok hact).trans hend⟩

theorem reads_choices (h₀ : job.context.AtRest) (p : Plan) :
    List.Forall₂ (fun x s => Reads job.context s.next x) (choices p) (job.stages p) :=
  .cons ((reads_command h₀ .pre).map _) <| .cons ((reads_renderTemplate h₀ p.folder).map _) <|
    .cons ((reads_command h₀ .post).map _) <| .cons (.pure _) .nil

/-- The files and the log when the stages begin: the decision on skipping has been reported. -/
def begun (job : Job) (w : World) : World :=
  match job.skips with
  | .error _ => w
  | .ok true => { w with events := w.events ++ [.rowSkipped (job.row + 1) job.input] }
  | .ok false => { w with events := w.events ++ [.rowStarted (job.row + 1) job.input] }

/-- The effects that a job performs, in order. -/
def effects (shell : Shell) (job : Job) (w : World) : List Effect :=
  match job.skips, job.plan? with
  | .ok false, .ok p => (performAll shell (job.stages p) (job.begun w)).1
  | _, _ => []

/-- How a job goes: it is not decided whether to skip the row, the row is skipped, there is no
plan, or the stages of the plan perform effects. -/
inductive Goes (shell : Shell) (job : Job) (w : World) :
    List Effect → Except Failure Outcome → World → Prop
  | undecided {f : Failure} : job.skips = .error f → Goes shell job w [] (.error f) w
  | skipped : job.skips = .ok true → Goes shell job w [] (.ok .skipped) (job.begun w)
  | planless {f : Failure} : job.skips = .ok false → job.plan? = .error f →
    Goes shell job w [] (.error f) (job.begun w)
  | staged {p : Plan} {effects : List Effect} {r : Except Failure Unit} {w' : World} :
    job.skips = .ok false → job.plan? = .ok p →
    Performs shell (job.stages p) (job.begun w) effects r w' →
    Goes shell job w effects (r.map fun _ => .done p.output) w'

theorem begun_files (job : Job) (w : World) : (job.begun w).files = w.files := by
  unfold begun
  split <;> rfl

/-- **A job goes through its stages** with the effects it is said to have. -/
theorem goes_run (shell : Shell) (h₀ : job.context.AtRest) (w : World) :
    Goes shell job w (job.effects shell w) (job.run shell w).1 (job.run shell w).2.world := by
  obtain ⟨c, hskips, hc⟩ := reads_skips h₀ ⟨w, job.context⟩ (.refl h₀)
  have hrun : job.run shell w = steps shell job.input job.row ⟨w, job.context⟩ := rfl
  unfold steps at hrun
  cases hs : job.skips with
  | error f =>
    rw [hs] at hskips
    rw [Action.bind_error hskips] at hrun
    rw [hrun, effects, hs]
    exact .undecided hs
  | ok skips =>
    rw [hs] at hskips
    rw [Action.bind_ok hskips] at hrun
    cases skips with
    | true =>
      have hend : job.run shell w = (.ok .skipped, ⟨job.begun w, c⟩) := by
        rw [hrun, begun, hs]
        rfl
      rw [hend, effects, hs]
      exact .skipped hs
    | false =>
      have hbegin : job.run shell w = (Outcome.done <$> process shell) ⟨job.begun w, c⟩ := by
        rw [hrun, begun, hs, map_eq_pure_bind]
        rfl
      rw [process_eq, Action.map_apply] at hbegin
      obtain ⟨c₁, hplan, hc₁⟩ := reads_plan h₀ ⟨job.begun w, c⟩ hc
      cases hp : job.plan? with
      | error f =>
        rw [hp] at hplan
        rw [Action.bind_error hplan] at hbegin
        rw [hbegin, effects, hs, hp]
        exact .planless hs hp
      | ok p =>
        rw [hp] at hplan
        rw [Action.bind_ok hplan] at hbegin
        have hperforms := performs_performAll shell (job.stages p) (job.begun w)
        obtain ⟨c₂, hact⟩ := forM_act_of_performs hperforms (reads_choices h₀ p) hc₁
        have heffects :
            job.effects shell w = (performAll shell (job.stages p) (job.begun w)).1 := by
          rw [effects, hs, hp]
        have hend : job.run shell w =
            ((performAll shell (job.stages p) (job.begun w)).2.map fun _ => .done p.output,
              ⟨Effect.after shell (job.begun w) (job.effects shell w), c₂⟩) := by
          rw [hbegin, Action.bind_apply, hact, heffects]
          cases (performAll shell (job.stages p) (job.begun w)).2 <;> rfl
        rw [hend, heffects]
        exact .staged hs hp hperforms

end Job
end MailMerge
