/-
# What a job reads

A job reads its variables through one context, and every read may change the memory of
that context.  Since a read answers as in the new context whatever was read before, all
that a job reads has one answer from the start (`Job.Reads`): it depends on the job, and
for the template on the files, but not on when it is asked for.
-/

import MailMerge.Job
import MailMerge.Proofs.Context.Order
import MailMerge.Proofs.InputFile

namespace MailMerge

/-- All failures of a result have a property. -/
def FailsWith {α : Type} (p : Failure → Prop) (r : Except Failure α) : Prop :=
  ∀ e, r = .error e → p e

namespace FailsWith

variable {α β : Type} {p : Failure → Prop}

theorem ok (a : α) : FailsWith p (.ok a) := fun _ h => by cases h

theorem error {e : Failure} (h : p e) : FailsWith p (.error e : Except Failure α) :=
  fun _ he => Except.error.inj he ▸ h

theorem mapError {ε : Type} (r : Except ε α) {wrap : ε → Failure} (h : ∀ e, p (wrap e)) :
    FailsWith p (r.mapError wrap) := by
  cases r with
  | error e => exact error (h e)
  | ok a => exact ok a

theorem map {r : Except Failure α} (h : FailsWith p r) (u : α → β) : FailsWith p (r.map u) := by
  cases r with
  | error e => exact error (h e rfl)
  | ok a => exact ok (u a)

theorem bind {r : Except Failure α} {f : α → Except Failure β} (hr : FailsWith p r)
    (hf : ∀ a, FailsWith p (f a)) : FailsWith p (r >>= f) := by
  cases r with
  | error e => exact error (hr e rfl)
  | ok a => exact hf a

theorem imp {q : Failure → Prop} {r : Except Failure α} (h : FailsWith p r) (hpq : ∀ e, p e → q e) :
    FailsWith q r := fun e he => hpq e (h e he)

end FailsWith

/-- The variable that a hook's command stands in. -/
def HookKind.key : HookKind → String
  | pre => "__pre_hook"
  | post => "__post_hook"

/-- A failure to render a part of a job. -/
def Failure.IsOf (part : JobPart) (e : Failure) : Prop := ∃ cause, e = .render part cause

namespace Job

open Context (ReadFrom AtRest)

section

variable {α β : Type} {c₀ : Context}

/-- An action that reads a context and files: in every scene whose context reads have made of
`c₀` it gives what `answer` says of the files, and changes nothing but the memory. -/
def Reads (c₀ : Context) (answer : FileTree → Except Failure α) (x : JobAction α) : Prop :=
  ∀ s : Scene, ReadFrom c₀ s.context →
    ∃ c, x s = (answer s.world.files, ⟨s.world, c⟩) ∧ ReadFrom c₀ c

namespace Reads

theorem pure (a : α) : Reads c₀ (fun _ => .ok a) (Pure.pure a) := fun s hs => ⟨s.context, rfl, hs⟩

theorem throw (e : Failure) : Reads c₀ (fun _ => .error e) (throw e : JobAction α) :=
  fun s hs => ⟨s.context, rfl, hs⟩

theorem bind {r : FileTree → Except Failure α} {q : α → FileTree → Except Failure β}
    {x : JobAction α} {f : α → JobAction β} (hx : Reads c₀ r x) (hf : ∀ a, Reads c₀ (q a) (f a)) :
    Reads c₀ (fun t => r t >>= fun a => q a t) (x >>= f) := by
  intro s hs
  obtain ⟨c, hxs, hc⟩ := hx s hs
  cases hr : r s.world.files with
  | error e =>
    refine ⟨c, ?_, hc⟩
    dsimp only
    rw [Action.bind_error (hxs.trans (by rw [hr])), hr]
    rfl
  | ok a =>
    obtain ⟨c', hfs, hc'⟩ := hf a ⟨s.world, c⟩ hc
    refine ⟨c', ?_, hc'⟩
    dsimp only
    rw [Action.bind_ok (hxs.trans (by rw [hr])), hfs, hr]
    rfl

theorem map {r : FileTree → Except Failure α} {x : JobAction α} (hx : Reads c₀ r x) (u : α → β) :
    Reads c₀ (fun t => (r t).map u) (u <$> x) := by
  intro s hs
  obtain ⟨c, hxs, hc⟩ := hx s hs
  exact ⟨c, by rw [Action.map_apply, hxs], hc⟩

/-- **A read of the context answers as in the new context.** -/
theorem reading (h₀ : c₀.AtRest) (part : JobPart) {f : Access → Read α}
    (hf : Parallel (.all (Entry.heightOf c₀.vars)) Eq f f) :
    Reads c₀ (fun _ => (c₀.run f).1.mapError (.render part)) (Job.reading part f) := by
  intro s hs
  obtain ⟨hgives, hread⟩ := hs.run h₀ hf
  have hsame : (s.context.run f).1 = (c₀.run f).1 :=
    hgives.unique ((ReadFrom.refl h₀).run h₀ hf).1
  refine ⟨_, ?_, hread⟩
  rw [← hsame]
  unfold Job.reading
  rcases s.context.run f with ⟨e | a, c⟩ <;> rfl

theorem readText (path : String) :
    Reads c₀ (fun t => InputFile.textAt t path) (acting (InputFile.readText path)) := by
  intro s hs
  refine ⟨s.context, ?_, hs⟩
  rw [acting, Action.runOn, InputFile.readText_apply]

end Reads

/-- What an action that reads the context alone answers in the new context. -/
def ask (c : Context) (x : JobAction α) : Except Failure α := (x ⟨{ files := {} }, c⟩).1

/-- An action that reads the context alone. -/
def Asks (c₀ : Context) (x : JobAction α) : Prop := Reads c₀ (fun _ => ask c₀ x) x

theorem Reads.ask_eq {r : Except Failure α} {x : JobAction α} (h : Reads c₀ (fun _ => r) x)
    (h₀ : c₀.AtRest) : ask c₀ x = r := by
  obtain ⟨c, hx, -⟩ := h ⟨{ files := {} }, c₀⟩ (.refl h₀)
  exact congrArg Prod.fst hx

theorem Reads.asks {r : Except Failure α} {x : JobAction α} (h : Reads c₀ (fun _ => r) x)
    (h₀ : c₀.AtRest) : Asks c₀ x := by
  rw [Asks, h.ask_eq h₀]
  exact h

end

/-! ### The variables of a job -/

/-- What the value of a hook's variable says: no command, or its text unless that is blank. -/
def commandOf (c : Context) (kind : HookKind) : Value → Except Failure (Option String)
  | .null => .ok none
  | v => do
    let command ← ask c (reading (.hook kind) v.output)
    return if Sources.isBlankText command then none else some command

section

variable {c₀ : Context} (h₀ : c₀.AtRest)
include h₀

theorem ask_reading {α : Type} {part : JobPart} {f : Access → Read α}
    (hf : Parallel (.all (Entry.heightOf c₀.vars)) Eq f f) :
    ask c₀ (reading part f) = (c₀.run f).1.mapError (.render part) :=
  (Reads.reading h₀ part hf).ask_eq h₀

omit h₀ in
/-- Reading a defined variable runs in step with itself. -/
theorem parallel_resolve (name : String) :
    Parallel (.all (Entry.heightOf c₀.vars)) Eq
      (fun a => do ((← a.name name).getD (.undefined name)).defined)
      (fun a => do ((← a.name name).getD (.undefined name)).defined) :=
  (Parallel.name name).bind fun _ _ ho =>
    (Parallel.defined (Parallel.related_getD ho (.undefined name))).imp fun _ _ h =>
      h.eq_of_exact (Bridge.all_exact _)

omit h₀ in
/-- Writing out a value runs in step with itself. -/
theorem parallel_output (v : Value) :
    Parallel (.all (Entry.heightOf c₀.vars)) Eq (fun a => v.output a) (fun a => v.output a) :=
  Parallel.output Value.Related.refl_all

theorem asks_resolve (part : JobPart) (name : String) : Asks c₀ (resolve part name) :=
  (Reads.reading h₀ part (parallel_resolve name)).asks h₀

theorem failsWith_resolve (part : JobPart) (name : String) :
    FailsWith (Failure.IsOf part) (ask c₀ (resolve part name)) := by
  rw [resolve, ask_reading h₀ (parallel_resolve name)]
  exact .mapError _ fun cause => ⟨cause, rfl⟩

theorem asks_output (part : JobPart) (v : Value) : Asks c₀ (reading part v.output) :=
  (Reads.reading h₀ part (parallel_output v)).asks h₀

theorem failsWith_output (part : JobPart) (v : Value) :
    FailsWith (Failure.IsOf part) (ask c₀ (reading part v.output)) := by
  rw [ask_reading h₀ (parallel_output v)]
  exact .mapError _ fun cause => ⟨cause, rfl⟩

theorem reads_resolveText (part : JobPart) (name : String) :
    Reads c₀ (fun _ => do
      let v ← ask c₀ (resolve part name)
      ask c₀ (reading part v.output)) (resolveText part name) :=
  (asks_resolve h₀ part name).bind fun v => asks_output h₀ part v

theorem failsWith_resolveText (part : JobPart) (name : String) :
    FailsWith (Failure.IsOf part) (ask c₀ (resolveText part name)) := by
  rw [(reads_resolveText h₀ part name).ask_eq h₀]
  exact (failsWith_resolve h₀ part name).bind fun v => failsWith_output h₀ part v

theorem reads_resolveFlag (part : JobPart) (name : String) :
    Reads c₀ (fun _ => (ask c₀ (resolve part name)).map Value.truthy) (resolveFlag part name) :=
  (asks_resolve h₀ part name).map Value.truthy

theorem failsWith_resolveFlag (part : JobPart) (name : String) :
    FailsWith (Failure.IsOf part) (ask c₀ (resolveFlag part name)) := by
  rw [(reads_resolveFlag h₀ part name).ask_eq h₀]
  exact (failsWith_resolve h₀ part name).map _

theorem reads_resolveCommand (kind : HookKind) (name : String) :
    Reads c₀ (fun _ => do
      let v ← ask c₀ (resolve (.hook kind) name)
      commandOf c₀ kind v) (resolveCommand kind name) := by
  refine (asks_resolve h₀ (.hook kind) name).bind fun v => ?_
  cases v with
  | null => exact .pure none
  | _ => exact (asks_output h₀ (.hook kind) _).bind fun command => .pure _

theorem failsWith_resolveCommand (kind : HookKind) (name : String) :
    FailsWith (Failure.IsOf (.hook kind)) (ask c₀ (resolveCommand kind name)) := by
  rw [(reads_resolveCommand h₀ kind name).ask_eq h₀]
  refine (failsWith_resolve h₀ (.hook kind) name).bind fun v => ?_
  cases v with
  | null => exact .ok none
  | _ => exact (failsWith_output h₀ (.hook kind) _).bind fun command => .ok _

theorem reads_shouldSkip : Reads c₀ (fun _ => do
    let v ← ask c₀ (resolve .skipRule "__skip")
    match skipAnswer? v with
    | some answer => .ok answer
    | none => .error (.render .skipRule (.invalid (.notBoolean v.display)))) shouldSkip := by
  refine (asks_resolve h₀ .skipRule "__skip").bind fun v => ?_
  cases skipAnswer? v with
  | some answer => exact .pure answer
  | none => exact .throw _

theorem reads_renderSource (part : JobPart) (source : String) :
    Reads c₀ (fun _ => (c₀.render source).1.mapError (.render part)) (do
      let env := (← get).context.env
      reading part fun a => Evaluation.renderSource env a source) := by
  intro s hs
  change ∃ c, reading part (fun a => Evaluation.renderSource s.context.env a source) s = _ ∧ _
  rw [hs.env]
  exact Reads.reading h₀ part
    (Parallel.renderSource c₀.env source (Bridge.all_exact _) fun _ _ => trivial) s hs

end

/-! ### What a job finds out -/

/-- What is decided before a job does anything. -/
structure Plan where
  folder : String
  output : String
  force : Bool
  delete : Bool

/-- Reads the plan of a job. -/
def plan : JobAction Plan := do
  let folder ← resolveText .workingDirectory "__cwd"
  let output := Path.join folder (← resolveText .outputPath "__output")
  let force ← resolveFlag .forceFlag "__force"
  let delete ← resolveFlag .deleteFlag "__delete"
  return { folder := folder, output := output, force := force, delete := delete }

variable (job : Job)

/-- Whether the row is skipped. -/
def skips : Except Failure Bool := ask job.context shouldSkip

/-- The plan of the job. -/
def plan? : Except Failure Plan := do
  let folder ← ask job.context (resolveText .workingDirectory "__cwd")
  let output := Path.join folder (← ask job.context (resolveText .outputPath "__output"))
  let force ← ask job.context (resolveFlag .forceFlag "__force")
  let delete ← ask job.context (resolveFlag .deleteFlag "__delete")
  return { folder := folder, output := output, force := force, delete := delete }

/-- The command of a hook, if there is one. -/
def command (kind : HookKind) : Except Failure (Option String) :=
  ask job.context (resolveCommand kind kind.key)

/-- The path of the template, as seen from the working directory. -/
def templatePath : Except Failure String :=
  ask job.context (resolveText .templatePath "__template")

/-- The rendered template, of whatever stands in its file. -/
def text (folder : String) (t : FileTree) : Except Failure String := do
  let path := Path.join folder (← job.templatePath)
  let source ← InputFile.textAt t path
  (job.context.render source).1.mapError (.render (.template path))

variable {job} (h₀ : job.context.AtRest)
include h₀

theorem reads_skips : Reads job.context (fun _ => job.skips) shouldSkip :=
  (reads_shouldSkip h₀).asks h₀

theorem failsWith_skips : FailsWith (Failure.IsOf .skipRule) job.skips := by
  rw [skips, (reads_shouldSkip h₀).ask_eq h₀]
  refine (failsWith_resolve h₀ .skipRule "__skip").bind fun v => ?_
  cases skipAnswer? v with
  | some answer => exact .ok answer
  | none => exact .error ⟨_, rfl⟩

theorem reads_plan : Reads job.context (fun _ => job.plan?) plan := by
  have htext := fun part name => (reads_resolveText h₀ part name).asks h₀
  have hflag := fun part name => (reads_resolveFlag h₀ part name).asks h₀
  exact (htext _ _).bind fun folder => (htext _ _).bind fun output =>
    (hflag _ _).bind fun force => (hflag _ _).bind fun delete => .pure _

omit h₀ in
/-- The output of a plan lies in the working directory, unless its path is absolute. -/
theorem exists_output {p : Plan} (h : job.plan? = .ok p) :
    ask job.context (resolveText .workingDirectory "__cwd") = .ok p.folder ∧
      ∃ name, ask job.context (resolveText .outputPath "__output") = .ok name ∧
        p.output = Path.join p.folder name := by
  obtain ⟨folder, hfolder, h⟩ := exists_of_bind_ok h
  obtain ⟨name, hname, h⟩ := exists_of_bind_ok h
  obtain ⟨force, -, h⟩ := exists_of_bind_ok h
  obtain ⟨delete, -, h⟩ := exists_of_bind_ok h
  obtain rfl := Except.ok.inj h
  exact ⟨hfolder, name, hname, rfl⟩

theorem reads_command (kind : HookKind) :
    Reads job.context (fun _ => job.command kind) (resolveCommand kind kind.key) :=
  (reads_resolveCommand h₀ kind kind.key).asks h₀

theorem reads_renderTemplate (folder : String) :
    Reads job.context (job.text folder) (Job.renderTemplate folder) := by
  have hpath : Reads job.context (fun _ => job.templatePath)
      (resolveText .templatePath "__template") := (reads_resolveText h₀ _ _).asks h₀
  exact Reads.bind hpath fun name => (Reads.readText _).bind fun source =>
    reads_renderSource h₀ _ source

end Job
end MailMerge
