/-
# What a job leaves behind

A job is staged (`Job.Staged`): its effects come in the order of their phases and end with
the first that fails.  Up to the write it changes no regular file itself, so before that
only a hook can have changed one; and where the second hook starts, the output holds the
rendered template.  Without hooks that makes a job all or nothing.
-/

import MailMerge.Proofs.Job.Metadata
import MailMerge.Proofs.Job.Stages

namespace MailMerge
namespace Job

variable {shell : Shell} {job : Job} {p : Plan} {stages : List Stage} {effects : List Effect}
  {r : Except Failure Unit} {w w' : World}

/-! ### What stages find out -/

theorem command_of_next {kind : HookKind} {t : FileTree} {e : Effect}
    (h : (job.hookStage p kind).next t = .ok (some e)) :
    ∃ command, job.command kind = .ok (some command) ∧
      e = .hook kind command p.folder p.output := by
  obtain ⟨o, ho, h⟩ := exists_of_map_ok h
  obtain ⟨command, rfl, rfl⟩ := Option.map_eq_some_iff.1 h
  exact ⟨command, ho, rfl⟩

theorem text_of_next {t : FileTree} {o : Option Effect} (h : (job.writeStage p).next t = .ok o) :
    ∃ text, job.text p.folder t = .ok text ∧ o = some (.write p.output text p.force) := by
  obtain ⟨text, htext, rfl⟩ := exists_of_map_ok h
  exact ⟨text, htext, rfl⟩

theorem delete_of_next {t : FileTree} {e : Effect} (h : (deleteStage p).next t = .ok (some e)) :
    e = .delete p.output := by
  unfold deleteStage at h
  split_ifs at h
  · exact (Option.some.inj (Except.ok.inj h)).symm
  · cases h

/-- What a plan calls for where files are `t`: this effect, if any of its kind. -/
def CallsFor (job : Job) (p : Plan) (t : FileTree) : Effect → Prop
  | .hook kind command folder output =>
    job.command kind = .ok (some command) ∧ folder = p.folder ∧ output = p.output
  | .write path text force =>
    job.text p.folder t = .ok text ∧ path = p.output ∧ force = p.force
  | .delete path => path = p.output

theorem callsFor_of_next {s : Stage} (hs : s ∈ job.stages p) {t : FileTree} {e : Effect}
    (h : s.next t = .ok (some e)) : job.CallsFor p t e := by
  have hhook : ∀ {kind}, (job.hookStage p kind).next t = .ok (some e) → job.CallsFor p t e := by
    intro kind h
    obtain ⟨command, hcommand, rfl⟩ := command_of_next h
    exact ⟨hcommand, rfl, rfl⟩
  simp only [Job.stages, List.mem_cons, List.not_mem_nil, or_false] at hs
  rcases hs with rfl | rfl | rfl | rfl
  · exact hhook h
  · obtain ⟨text, htext, he⟩ := text_of_next h
    obtain rfl := Option.some.inj he
    exact ⟨htext, rfl, rfl⟩
  · exact hhook h
  · exact delete_of_next h ▸ rfl

/-- Each effect is what the plan calls for where it is performed. -/
theorem callsFor_of_performs (h : Performs shell (job.stages p) w effects r w')
    {before rest : List Effect} {e : Effect} (heffects : effects = before ++ e :: rest) :
    job.CallsFor p (Effect.after shell w before).files e := by
  obtain ⟨s, hs, hnext⟩ := h.asked heffects
  exact callsFor_of_next hs hnext

/-! ### What fails in which phase -/

section

variable (h₀ : job.context.AtRest)
include h₀

theorem failsWith_plan : FailsWith (fun f => f.phase? = some .decision) job.plan? := by
  have htext : ∀ {part name}, part.phase = .decision →
      FailsWith (fun f => f.phase? = some .decision) (ask job.context (resolveText part name)) :=
    fun hpart => (failsWith_resolveText h₀ _ _).imp fun _ he => hpart ▸ he.phase?_eq
  have hflag : ∀ {part name}, part.phase = .decision →
      FailsWith (fun f => f.phase? = some .decision) (ask job.context (resolveFlag part name)) :=
    fun hpart => (failsWith_resolveFlag h₀ _ _).imp fun _ he => hpart ▸ he.phase?_eq
  exact (htext rfl).bind fun _ => (htext rfl).bind fun _ => (hflag rfl).bind fun _ =>
    (hflag rfl).bind fun _ => .ok _

/-- A template fails for its path, or for the file at that path. -/
theorem text_error {folder : String} {t : FileTree} {f : Failure}
    (h : job.text folder t = .error f) : f.IsOf .templatePath ∨
      ∃ name, job.templatePath = .ok name ∧
        ((∃ fault, f = .input (Path.join folder name) fault) ∨
          f.IsOf (.template (Path.join folder name))) := by
  obtain hpath | ⟨name, hname, h⟩ := error_of_bind_error h
  · exact .inl (failsWith_resolveText h₀ .templatePath _ _ hpath)
  obtain hfile | ⟨source, -, hrender⟩ := error_of_bind_error h
  · exact .inr ⟨name, hname, .inl (InputFile.textAt_error hfile)⟩
  · obtain ⟨cause, -, rfl⟩ := exists_of_mapError_error hrender
    exact .inr ⟨name, hname, .inr ⟨cause, rfl⟩⟩

theorem failsWith_text (folder : String) (t : FileTree) :
    FailsWith (fun f => f.phase? = some .text) (job.text folder t) := by
  intro f hf
  obtain hpath | ⟨name, -, ⟨fault, rfl⟩ | hrender⟩ := text_error h₀ hf
  · exact hpath.phase?_eq
  · rfl
  · exact hrender.phase?_eq

theorem orderly_hookStage (kind : HookKind) : (job.hookStage p kind).Orderly where
  blame _ := ((failsWith_resolveCommand h₀ kind _).map _).imp fun _ he => he.phase?_eq
  effect := by
    intro t e h
    obtain ⟨command, -, rfl⟩ := command_of_next h
    rfl
  forward := le_rfl

theorem orderly_writeStage : (job.writeStage p).Orderly where
  blame t := (failsWith_text h₀ p.folder t).map _
  effect := by
    intro t e h
    obtain ⟨text, -, he⟩ := text_of_next h
    obtain rfl := Option.some.inj he
    rfl
  forward := Nat.le_succ 2

omit h₀ in
theorem orderly_deleteStage : (deleteStage p).Orderly where
  blame _ := .ok _
  effect h := delete_of_next h ▸ rfl
  forward := le_rfl

theorem orderly_stages : ∀ s ∈ job.stages p, s.Orderly := by
  simp only [Job.stages, List.forall_mem_cons]
  exact ⟨orderly_hookStage h₀ .pre, orderly_writeStage h₀, orderly_hookStage h₀ .post,
    orderly_deleteStage, by simp⟩

/-- The stages behind the write belong to the second hook and to what comes after it. -/
theorem orderly_late : ∀ s ∈ [job.hookStage p .post, deleteStage p],
    s.Orderly ∧ Phase.postHook.rank ≤ s.asks.rank := by
  simp only [List.forall_mem_cons]
  exact ⟨⟨orderly_hookStage h₀ .post, le_rfl⟩, ⟨orderly_deleteStage, Nat.le_succ 4⟩, by simp⟩

end

/-- The stages follow one another. -/
theorem pairwise_stages :
    (job.stages p).Pairwise fun s s' => s.acts.rank < s'.asks.rank := by
  simp [Job.stages, hookStage, writeStage, deleteStage, HookKind.phase, Phase.rank]

theorem asks_stages : (job.stages p).map Stage.asks = [.preHook, .text, .postHook, .deletion] := rfl

theorem acts_stages :
    (job.stages p).map Stage.acts = [.preHook, .write, .postHook, .deletion] := rfl

/-- Only the text is found out in its phase. -/
theorem text_of_refused {s : Stage} (hs : s ∈ job.stages p) (hasks : s.asks = .text) {t : FileTree}
    {f : Failure} (h : s.next t = .error f) : job.text p.folder t = .error f := by
  simp only [Job.stages, List.mem_cons, List.not_mem_nil, or_false] at hs
  rcases hs with rfl | rfl | rfl | rfl
  · cases hasks
  · exact error_of_map_error h
  · cases hasks
  · cases hasks

/-! ### How stages perform -/

/-- A hook's stage ends with the hook or without it, or goes on behind it. -/
theorem performs_hookStage {kind : HookKind}
    (h : Performs shell (job.hookStage p kind :: stages) w effects r w') :
    ∃ first rest w₁, effects = first ++ rest ∧
      (∀ e ∈ first, ∃ command, e = .hook kind command p.folder p.output) ∧
      w₁ = Effect.after shell w first ∧
      ((∃ f, r = .error f ∧ rest = [] ∧ w' = w₁) ∨ Performs shell stages w₁ rest r w') := by
  have hhook : ∀ {t e}, (job.hookStage p kind).next t = .ok (some e) →
      ∃ command, e = .hook kind command p.folder p.output := fun h => by
    obtain ⟨command, -, he⟩ := command_of_next h
    exact ⟨command, he⟩
  cases h with
  | refused => exact ⟨[], [], w, rfl, by simp, rfl, .inl ⟨_, rfl, rfl, rfl⟩⟩
  | idle _ hrest => exact ⟨[], effects, w, rfl, by simp, rfl, .inr hrest⟩
  | @failed _ _ e f _ _ hnext hperform =>
    refine ⟨[e], [], w', rfl, by simpa using hhook hnext, ?_, .inl ⟨f, rfl, rfl, rfl⟩⟩
    rw [Effect.after, List.foldl_cons, hperform]
    rfl
  | @acted _ _ e rest _ _ w₁ _ hnext hperform hrest =>
    refine ⟨[e], rest, w₁, rfl, by simpa using hhook hnext, ?_, .inr hrest⟩
    rw [Effect.after, List.foldl_cons, hperform]
    rfl

/-- The stage of the write ends with files as they were, or goes on behind a write. -/
theorem performs_writeStage (h : Performs shell (job.writeStage p :: stages) w effects r w') :
    ((∃ f, r = .error f) ∧ (∀ e ∈ effects, ∃ text, e = .write p.output text p.force) ∧
        w.files.Grows w'.files) ∨
      ∃ text rest w₁, effects = .write p.output text p.force :: rest ∧
        job.text p.folder w.files = .ok text ∧
        OutputFile.write p.output text p.force w = (.ok (), w₁) ∧
        Performs shell stages w₁ rest r w' := by
  cases h with
  | refused => exact .inl ⟨⟨_, rfl⟩, by simp, .refl _⟩
  | idle hnext =>
    obtain ⟨text, -, h⟩ := text_of_next hnext
    cases h
  | failed hnext hperform =>
    obtain ⟨text, -, h⟩ := text_of_next hnext
    obtain rfl := Option.some.inj h
    exact .inl ⟨⟨_, rfl⟩, by simp, (OutputFile.write_error hperform).2⟩
  | @acted _ _ e rest _ _ w₁ _ hnext hperform hrest =>
    obtain ⟨text, htext, h⟩ := text_of_next hnext
    obtain rfl := Option.some.inj h
    exact .inr ⟨text, rest, w₁, rfl, htext, hperform, hrest⟩

/-- A stage with nothing to do is passed over. -/
theorem performs_of_idle {s : Stage} (h : Performs shell (s :: stages) w effects r w')
    (hs : s.next w.files = .ok none) : Performs shell stages w effects r w' := by
  cases h with
  | refused hnext => simp [hs] at hnext
  | idle _ hrest => exact hrest
  | failed hnext => simp [hs] at hnext
  | acted hnext => simp [hs] at hnext

/-- The effects of a stage list that starts late have no early phase. -/
theorem performs_rank_le {n : Nat} (h : Performs shell stages w effects r w')
    (hs : ∀ s ∈ stages, s.Orderly) (hn : ∀ s ∈ stages, n ≤ s.acts.rank) :
    ∀ e ∈ effects, n ≤ e.phase.rank := by
  intro e he
  obtain ⟨s, hm, hs⟩ := List.mem_map.1 ((h.sublist hs).subset (List.mem_map_of_mem he))
  exact hs ▸ hn s hm

/-! ### What the stages of a plan leave -/

theorem after_append (first rest : List Effect) :
    Effect.after shell w (first ++ rest) = Effect.after shell (Effect.after shell w first) rest :=
  List.foldl_append

theorem filter_isHook {first : List Effect} {kind : HookKind} {folder output : String}
    (h : ∀ e ∈ first, ∃ command, e = .hook kind command folder output) :
    first.filter Effect.isHook = first := by
  refine List.filter_eq_self.2 fun e he => ?_
  obtain ⟨command, rfl⟩ := h e he
  rfl

/-- **Up to the write only hooks change files.** -/
theorem contentAt?_of_early (h₀ : job.context.AtRest)
    (h : Performs shell (job.stages p) w effects r w') {f : Failure} {phase : Phase}
    (hr : r = .error f) (hf : f.phase? = some phase) (hphase : phase.rank ≤ Phase.write.rank)
    (q : Location) : w'.files.contentAt? q =
      (Effect.after shell w (effects.filter Effect.isHook)).files.contentAt? q := by
  obtain ⟨first, rest, w₁, rfl, hfirst, rfl, ⟨_, -, rfl, rfl⟩ | hrest⟩ := performs_hookStage h
  · rw [List.append_nil, filter_isHook hfirst]
  rw [List.filter_append, filter_isHook hfirst]
  rcases performs_writeStage hrest with ⟨-, hwrites, hgrows⟩ | ⟨text, rest, w₂, rfl, -, -, hlate⟩
  · have hnone : rest.filter Effect.isHook = [] := by
      refine List.filter_eq_nil_iff.2 fun e he => ?_
      obtain ⟨text, rfl⟩ := hwrites e he
      simp [Effect.isHook]
    rw [hnone, List.append_nil]
    exact hgrows.contentAt?_eq q
  · -- what follows the write fails in a later phase
    obtain ⟨late, hlate', -, s, hs, hle⟩ := hlate.blame (fun s hs => (orderly_late h₀ s hs).1)
      (pairwise_stages.sublist (List.drop_sublist 2 (job.stages p))) hr
    obtain rfl : late = phase := Option.some.inj (hlate'.symm.trans hf)
    exact absurd ((orderly_late h₀ s hs).2.trans (hle.trans hphase)) (by decide)

/-- A member that is not in the first part of a list is in the second. -/
theorem exists_of_append_eq {α : Type} (first : List α) {tail before rest : List α} {e : α}
    (h : first ++ tail = before ++ e :: rest) (he : e ∉ first) :
    ∃ between, before = first ++ between ∧ tail = between ++ e :: rest := by
  rcases List.append_eq_append_iff.1 h with ⟨between, hb, ht⟩ | ⟨between, hf, hr⟩
  · exact ⟨between, hb, ht⟩
  · cases between with
    | nil => exact ⟨[], by simpa using hf.symm, by simpa using hr.symm⟩
    | cons d between =>
      obtain ⟨rfl, -⟩ := List.cons.inj hr
      exact absurd (hf ▸ by simp) he

/-- **Where the second hook starts, the output holds the text.** -/
theorem read_of_postHook (h₀ : job.context.AtRest)
    (h : Performs shell (job.stages p) w effects r w') {before rest : List Effect}
    {command folder output : String}
    (heffects : effects = before ++ .hook .post command folder output :: rest) :
    folder = p.folder ∧ output = p.output ∧ ∃ text,
      job.text p.folder (Effect.after shell w (before.filter Effect.isHook)).files = .ok text ∧
      (Effect.after shell w before).files.read output = .ok text.toUTF8 := by
  obtain ⟨-, rfl, rfl⟩ := callsFor_of_performs h heffects
  obtain ⟨first, tail, w₁, rfl, hfirst, rfl, ⟨_, -, rfl, -⟩ | hrest⟩ := performs_hookStage h
  · have hmem : Effect.hook .post command p.folder p.output ∈ first := by
      rw [List.append_nil] at heffects
      simp [heffects]
    obtain ⟨_, he⟩ := hfirst _ hmem
    cases he
  obtain ⟨between, rfl, rfl⟩ := exists_of_append_eq first heffects fun hmem => by
    obtain ⟨_, he⟩ := hfirst _ hmem
    cases he
  rcases performs_writeStage hrest with ⟨-, hwrites, -⟩ | ⟨text, late, w₂, hlate, htext, hw₂, hlast⟩
  · obtain ⟨_, he⟩ := hwrites (.hook .post command p.folder p.output) (by simp)
    cases he
  obtain ⟨last, rfl, rfl⟩ := exists_of_append_eq [_] hlate.symm (by simp)
  -- no effect lies between the write and the hook, since it would be in an earlier phase
  obtain rfl : last = [] := by
    have hsub := hlast.sublist fun s hs => (orderly_late h₀ s hs).1
    have hpair : ([Phase.postHook, Phase.deletion]).Pairwise fun a b => a.rank < b.rank := by decide
    rcases last with _ | ⟨d, last⟩
    · rfl
    · have hbefore := List.rel_of_pairwise_cons (hpair.sublist hsub) (List.mem_map.2
        ⟨.hook .post command p.folder p.output, List.mem_append_right _ List.mem_cons_self, rfl⟩)
      have hd := performs_rank_le hlast (fun s hs => (orderly_late h₀ s hs).1)
        (fun s hs => (orderly_late h₀ s hs).2.trans (orderly_late h₀ s hs).1.forward) d (by simp)
      exact absurd (hd.trans_lt hbefore) (lt_irrefl _)
  obtain ⟨_, _, -, -, -, -, hwrites⟩ := OutputFile.write_ok hw₂
  refine ⟨rfl, rfl, text, ?_, ?_⟩
  · rw [List.append_nil, List.filter_append, filter_isHook hfirst,
      show [Effect.write p.output text p.force].filter Effect.isHook = [] from rfl, List.append_nil]
    exact htext
  · rw [List.append_nil, after_append, show Effect.after shell (Effect.after shell w first)
      [.write p.output text p.force] = w₂ from congrArg Prod.snd hw₂]
    exact hwrites.read_eq

/-! ### Jobs without hooks -/

/-- The job has no command to run. -/
def Hookless (job : Job) : Prop := ∀ kind, job.command kind = .ok none

/-- **Without hooks the stages write the output, or nothing:** they fail before the write is done
and leave the files as they were, or they write and, if it is not to stay, delete the output. -/
theorem Hookless.performs (hn : job.Hookless)
    (h : Performs shell (job.stages p) w effects r w') :
    ((∃ f, r = .error f) ∧ w.files.Grows w'.files) ∨
      r = .ok () ∧ ∃ text w₁, job.text p.folder w.files = .ok text ∧
        OutputFile.write p.output text p.force w = (.ok (), w₁) ∧
        w' = if p.delete then (OutputFile.delete p.output w₁).2 else w₁ := by
  have hidle : ∀ kind t, (job.hookStage p kind).next t = .ok none := fun kind t => by
    rw [hookStage, hn kind]
    rfl
  rcases performs_writeStage (performs_of_idle h (hidle _ _)) with
    ⟨hf, -, hgrows⟩ | ⟨text, rest, w₁, -, htext, hw₁, hlater⟩
  · exact .inl ⟨hf, hgrows⟩
  have hdelete := performs_of_idle hlater (hidle _ _)
  obtain ⟨_, place, -, -, -, -, hwrites⟩ := OutputFile.write_ok hw₁
  have hdeleted := OutputFile.delete_of_writes hwrites
  refine .inr ?_
  by_cases hd : p.delete = true
  · have hnext : (deleteStage p).next w₁.files = .ok (some (.delete p.output)) := by
      simp [deleteStage, hd]
    cases hdelete with
    | refused hask => simp [hnext] at hask
    | idle hask => simp [hnext] at hask
    | failed hask hperform =>
      obtain rfl := Option.some.inj (Except.ok.inj (hnext.symm.trans hask))
      cases hdeleted.symm.trans hperform
    | acted hask hperform hend =>
      obtain rfl := Option.some.inj (Except.ok.inj (hnext.symm.trans hask))
      cases hend
      exact ⟨rfl, text, w₁, htext, hw₁, by rw [if_pos hd]; exact (congrArg Prod.snd hperform).symm⟩
  · have hnext : (deleteStage p).next w₁.files = .ok none := by
      simp [deleteStage, hd]
    cases performs_of_idle hdelete hnext
    exact ⟨rfl, text, w', htext, hw₁, by rw [if_neg hd]⟩

section

variable {env : Environment} {config : Config} {cells : Dict Value}

/-- A hook that is not configured has no command, unless its name is used for something else. -/
theorem command_ofRow_eq_none (input : String) (row : Nat) (hv : (Value.map config.vars).InOrder)
    (hc : (Value.map cells).InOrder) {kind : HookKind} (hnone : hookOf config kind = none)
    (hreserved : Reserved env config cells kind.key) :
    (Job.ofRow env config input row cells).command kind = .ok none := by
  have h₀ := atRest_ofRow env input row hv hc
  have hbinds : (Job.ofRow env config input row cells).context.Binds kind.key (.literal .null) := by
    have hhook := hreserved.binds input row (find?_hook kind)
    rwa [hnone] at hhook
  rw [command, (reads_resolveCommand h₀ kind kind.key).ask_eq h₀,
    ask_resolve_literal h₀ _ hbinds (by decide)]
  rfl

/-- A configuration without hooks makes jobs without hooks. -/
theorem hookless_ofRow (input : String) (row : Nat) (hv : (Value.map config.vars).InOrder)
    (hc : (Value.map cells).InOrder) (hnone : ∀ kind, hookOf config kind = none)
    (hreserved : ∀ kind : HookKind, Reserved env config cells kind.key) :
    (Job.ofRow env config input row cells).Hookless :=
  fun kind => command_ofRow_eq_none input row hv hc (hnone kind) (hreserved kind)

end

/-! ### The whole job -/

/-- What a job does and leaves: `effects` are what it performs, from the files and the log of `w`
to those of `w'`. -/
structure Staged (job : Job) (shell : Shell) (w : World) (effects : List Effect)
    (result : Except Failure Outcome) (w' : World) : Prop where
  /-- The files and the log are changed by the effects alone. -/
  world : w' = Effect.after shell (job.begun w) effects
  /-- The effects come in the order of their phases, at most one of each. -/
  order : (effects.map Effect.phase).Pairwise fun a b => a.rank < b.rank
  /-- The first effect that fails ends the job. -/
  stops : ∀ before e rest f, effects = before ++ e :: rest →
    (e.perform shell (Effect.after shell (job.begun w) before)).1 = .error f →
      rest = [] ∧ result = .error f
  /-- Where something fails, no effect of a later phase has been performed. -/
  blame : ∀ f, result = .error f → ∃ phase, f.phase? = some phase ∧
    ∀ e ∈ effects, e.phase.rank ≤ phase.rank
  /-- A row that is skipped, or that is not decided on, has no effect. -/
  decision : (result = .ok .skipped ∨ ∃ f, result = .error f ∧ f.phase? = some .decision) →
    effects = [] ∧ w'.files = w.files
  /-- Up to the write, only a hook changes regular files. -/
  early : ∀ f phase, result = .error f → f.phase? = some phase → phase.rank ≤ Phase.write.rank →
    ∀ q, w'.files.contentAt? q =
      (Effect.after shell (job.begun w) (effects.filter Effect.isHook)).files.contentAt? q
  /-- Where the second hook starts, the output holds the rendered template. -/
  rendered : ∀ before command folder output rest,
    effects = before ++ .hook .post command folder output :: rest →
      ∃ p text, job.plan? = .ok p ∧ folder = p.folder ∧ output = p.output ∧
        job.text p.folder
          (Effect.after shell (job.begun w) (before.filter Effect.isHook)).files = .ok text ∧
        (Effect.after shell (job.begun w) before).files.read output = .ok text.toUTF8
  /-- Without hooks, a job that is not done leaves every regular file as it was. -/
  nothing : job.Hookless → (∀ path, result ≠ .ok (.done path)) →
    ∀ q, w'.files.contentAt? q = w.files.contentAt? q
  /-- Without hooks, a job that is done leaves every other regular file as it was, and its output
  holds the rendered template, or nothing stands there if it is to be deleted. -/
  everything : job.Hookless → ∀ path, result = .ok (.done path) →
    ∃ p place text, job.plan? = .ok p ∧ path = p.output ∧ job.text p.folder w.files = .ok text ∧
      w'.files.locate path = .ok place ∧
      w'.files.item? place = (if p.delete then none else some (.file text.toUTF8)) ∧
      ∀ q, q ≠ place → w'.files.contentAt? q = w.files.contentAt? q

/-- A job without effects is staged. -/
theorem staged_nil {result : Except Failure Outcome}
    (hresult : result = .ok .skipped ∨ ∃ f, result = .error f ∧ f.phase? = some .decision) :
    job.Staged shell w [] result (job.begun w) where
  world := rfl
  order := .nil
  stops before e rest f heffects := by simp at heffects
  blame f hf := by
    obtain rfl | ⟨f', rfl, hphase⟩ := hresult
    · cases hf
    · obtain rfl := Except.error.inj hf
      exact ⟨.decision, hphase, by simp⟩
  decision _ := ⟨rfl, begun_files job w⟩
  early _ _ _ _ _ _ := rfl
  rendered before command folder output rest heffects := by simp at heffects
  nothing _ _ q := by rw [begun_files]
  everything _ path hpath := by
    obtain rfl | ⟨f, rfl, -⟩ := hresult <;> cases hpath

/-- A job that goes through its stages is staged. -/
theorem staged_of_performs (h₀ : job.context.AtRest) (hp : job.plan? = .ok p)
    (h : Performs shell (job.stages p) (job.begun w) effects r w') :
    job.Staged shell w effects (r.map fun _ => .done p.output) w' := by
  have hblame : ∀ {f}, (r.map fun _ => Outcome.done p.output) = .error f →
      ∃ phase, f.phase? = some phase ∧ (∀ e ∈ effects, e.phase.rank ≤ phase.rank) ∧
        Phase.preHook.rank ≤ phase.rank := by
    intro f hf
    obtain ⟨phase, hphase, heffects, s, hs, hle⟩ :=
      h.blame (orderly_stages h₀) pairwise_stages (error_of_map_error hf)
    have hasks := asks_stages ▸ List.mem_map_of_mem (f := Stage.asks) hs
    refine ⟨phase, hphase, heffects, le_trans ?_ hle⟩
    revert hasks
    generalize s.asks = asks
    revert asks
    decide
  exact {
    world := h.eq_after
    order := by
      refine List.Pairwise.sublist (h.sublist (orderly_stages h₀)) ?_
      rw [acts_stages]
      decide
    stops := fun before e rest f heffects he => by
      obtain ⟨rfl, rfl⟩ := h.stops heffects he
      exact ⟨rfl, rfl⟩
    blame := fun f hf => by
      obtain ⟨phase, hphase, heffects, -⟩ := hblame hf
      exact ⟨phase, hphase, heffects⟩
    decision := by
      rintro (hf | ⟨f, hf, hphase⟩)
      · cases r <;> cases hf
      · obtain ⟨phase, hphase', -, hle⟩ := hblame hf
        obtain rfl := Option.some.inj (hphase.symm.trans hphase')
        exact absurd hle (by decide)
    early := fun f phase hf hphase hle =>
      contentAt?_of_early h₀ h (error_of_map_error hf) hphase hle
    rendered := fun before command folder output rest heffects => by
      obtain ⟨hfolder, houtput, text, htext, hread⟩ := read_of_postHook h₀ h heffects
      exact ⟨p, text, hp, hfolder, houtput, htext, hread⟩
    nothing := fun hn hpath => by
      rcases hn.performs h with ⟨-, hgrows⟩ | ⟨rfl, -⟩
      · exact fun q => begun_files job w ▸ hgrows.contentAt?_eq q
      · exact absurd rfl (hpath p.output)
    everything := fun hn path hpath => by
      rcases hn.performs h with ⟨⟨f, rfl⟩, -⟩ | ⟨rfl, text, w₁, htext, hw₁, rfl⟩
      · cases hpath
      obtain rfl : path = p.output := (Outcome.done.inj (Except.ok.inj hpath)).symm
      rw [begun_files] at htext
      obtain ⟨_, place, -, -, -, -, hwrites⟩ := OutputFile.write_ok hw₁
      rw [begun_files] at hwrites
      refine ⟨p, place, text, hp, rfl, htext, ?_⟩
      by_cases hd : p.delete = true
      · rw [if_pos hd, if_pos hd, OutputFile.delete_of_writes hwrites]
        exact ⟨hwrites.locate_clear, hwrites.item?_clear_self, fun q => hwrites.contentAt?_clear⟩
      · rw [if_neg hd, if_neg hd]
        exact ⟨hwrites.located, hwrites.item, hwrites.elsewhere⟩ }

/-- A job is staged, however it goes. -/
theorem staged_of_goes {result : Except Failure Outcome} (h : Goes shell job w effects result w')
    (h₀ : job.context.AtRest) : job.Staged shell w effects result w' := by
  cases h with
  | @undecided f hs =>
    have hbegun : job.begun w = w := by
      rw [begun, hs]
    have hstaged : job.Staged shell w [] (.error f) (job.begun w) := staged_nil
      (.inr ⟨f, rfl, (failsWith_skips h₀ f hs).phase?_eq⟩)
    rwa [hbegun] at hstaged
  | skipped => exact staged_nil (.inl rfl)
  | planless _ hp => exact staged_nil (.inr ⟨_, rfl, failsWith_plan h₀ _ hp⟩)
  | staged _ hp h => exact staged_of_performs h₀ hp h

/-- **A job is staged and all or nothing,** whatever its row, configuration and environment, the
files it finds and the hooks it runs. -/
theorem staged_ofRow (shell : Shell) (env : Environment) (config : Config) (input : String)
    (row : Nat) (cells : Dict Value) (hv : (Value.map config.vars).InOrder)
    (hc : (Value.map cells).InOrder) (w : World) :
    let job := Job.ofRow env config input row cells
    job.Staged shell w (job.effects shell w) (job.run shell w).1 (job.run shell w).2.world ∧
      ((∀ kind, hookOf config kind = none) →
        (∀ kind : HookKind, Reserved env config cells kind.key) → job.Hookless) :=
  have h₀ := atRest_ofRow env input row hv hc
  ⟨staged_of_goes (goes_run shell h₀ w) h₀, hookless_ofRow input row hv hc⟩

/-- An output that is there already is not replaced, and nothing else is changed either.  And a
row with two hooks: the first makes the template, the second finds the output and fails. -/
theorem staged_ofRow_occupied :
    let shell : Shell := fun command t =>
      if command = "draft" then
        ⟨some 0, "", { t with items := (["letter"], .file "Dear {{ name }}".toUTF8) :: t.items }⟩
      else ⟨some 1, "no mail", t⟩
    let config := Config.ofPaths "/letter" "/{{ name }}.txt"
    let plain := Job.ofRow {} config "list.csv" 0 [("name", .str "Ann")]
    let hooked := Job.ofRow {} { config with preHook := some "draft", postHook := some "send" }
      "list.csv" 0 [("name", .str "Ann")]
    let occupied : World := { files := { items :=
      [(["letter"], .file "Dear {{ name }}".toUTF8), (["Ann.txt"], .file "old".toUTF8)] } }
    let empty : World := { files := { items := [] } }
    let written : List Effect :=
      [.hook .pre "draft" "/" "/Ann.txt", .write "/Ann.txt" "Dear Ann" false]
    ((plain.run shell occupied).1 = .error (.output "/Ann.txt" .exists) ∧
      ∀ q, (plain.run shell occupied).2.world.files.contentAt? q =
        occupied.files.contentAt? q) ∧
    hooked.effects shell empty = written ++ [.hook .post "send" "/" "/Ann.txt"] ∧
      (hooked.run shell empty).1 = .error (.hook .post "/Ann.txt" (.exited 1 "no mail")) ∧
      ((hooked.effects shell empty).map Effect.phase).Pairwise (fun a b => a.rank < b.rank) ∧
      ∃ p text, hooked.plan? = .ok p ∧
        hooked.text p.folder (Effect.after shell (hooked.begun empty)
          (written.filter Effect.isHook)).files = .ok text ∧
        (Effect.after shell (hooked.begun empty) written).files.read "/Ann.txt" =
          .ok text.toUTF8 := by
  intro shell config plain hooked occupied empty written
  have hresult : (plain.run shell occupied).1 = .error (.output "/Ann.txt" .exists) := by
    decide +kernel
  obtain ⟨hplain, hhookless⟩ := staged_ofRow shell {} config "list.csv" 0 [("name", .str "Ann")]
    (by decide) (by decide) occupied
  have hnothing := hplain.nothing
    (hhookless (fun kind => by cases kind <;> rfl)
      fun kind => by cases kind <;> exact ⟨by decide, by decide, by decide⟩)
    fun path hpath => by cases hresult.symm.trans hpath
  have heffects : hooked.effects shell empty = written ++ [.hook .post "send" "/" "/Ann.txt"] := by
    decide +kernel
  have hfailed : (hooked.run shell empty).1 =
      .error (.hook .post "/Ann.txt" (.exited 1 "no mail")) := by decide +kernel
  have hhooked := (staged_ofRow shell {}
    { config with preHook := some "draft", postHook := some "send" } "list.csv" 0
    [("name", .str "Ann")] (by decide) (by decide) empty).1
  obtain ⟨p, text, hp, -, -, htext, hread⟩ :=
    hhooked.rendered written "send" "/" "/Ann.txt" [] heffects
  exact ⟨⟨hresult, by simpa only [plain] using hnothing⟩, heffects, hfailed, hhooked.order,
    p, text, hp, htext, hread⟩

end Job
end MailMerge
