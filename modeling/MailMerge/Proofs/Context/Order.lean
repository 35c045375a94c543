/-
# The order of reads

A context answers a read as if it had never been read before.  The memory that earlier
reads leave is sound with respect to the variables at the start and has no marks, so a
read in it ends as the same read afresh, and so does the read in the context as it was
at the start.
-/

import MailMerge.Proofs.Reading.Faithful
import MailMerge.Proofs.Variables.Origin

namespace MailMerge

/-- Whether a result is an error can be decided, whatever a success gives. -/
instance {α : Type} (r : Except RenderError α) (e : RenderError) : Decidable (r = .error e) :=
  match r with
  | .ok _ => isFalse fun h => by cases h
  | .error d => decidable_of_iff (d = e) ⟨congrArg _, Except.error.inj⟩

/-- A read of a context. -/
inductive ReadStep where
  | get (name : String)
  | eval (e : Expr)
  | render (source : String)
  | renderTemplate (template : Template)

/-- What a read gives. -/
inductive Answer where
  | value (v : Value)
  | text (s : String)

/-- Whether a read gives a text can be decided. -/
instance (r : Except RenderError Answer) (text : String) : Decidable (r = .ok (.text text)) :=
  match r with
  | .ok (.text s) => decidable_of_iff (s = text) (by simp)
  | .ok (.value _) => isFalse nofun
  | .error _ => isFalse nofun

namespace ReadStep

/-- The computation of a read. -/
def answer (env : Environment) (step : ReadStep) (a : Access) : Read Answer :=
  match step with
  | get s => .value <$> do return (← a.name s).getD (.undefined s)
  | eval e => .value <$> Evaluation.eval env a [[]] e
  | render source => .text <$> Evaluation.renderSource env a source
  | renderTemplate template => .text <$> Evaluation.renderTemplate env a template

/-- **A read runs in step with itself** where related values are equal. -/
theorem parallel {B : Bridge} (hB : B.Exact) (env : Environment)
    (hfault : ∀ source e, env.parse source = .error e → B.fault e) (step : ReadStep) :
    Parallel B Eq (fun a => step.answer env a) (fun a => step.answer env a) := by
  have hvalue : ∀ {v w : Value}, Value.Related B B.left v w → Answer.value v = Answer.value w :=
    fun h => congrArg Answer.value (h.eq_of_exact hB)
  cases step with
  | get s =>
    exact ((Parallel.name s).bind fun o o' ho =>
      .pure (Parallel.related_getD ho (.undefined s))).map fun _ _ => hvalue
  | eval e => exact (Parallel.eval (.cons .nil .nil) (.inl hB)).map fun _ _ => hvalue
  | render source =>
    exact (Parallel.renderSource env source hB (hfault source)).map fun _ _ => congrArg _
  | renderTemplate template =>
    exact (Parallel.renderTemplate env template (.inl hB)).map fun _ _ => congrArg _

end ReadStep

namespace Context

theorem run_result {α : Type} (c : Context) (f : Access → Read α) :
    (c.run f).1 = Finish.result (f c.access c.memory) := by
  rw [run]
  split <;> simp_all [Finish.result]

theorem run_memory {α : Type} (c : Context) (f : Access → Read α) :
    (c.run f).2 = { c with memory := Finish.memory (f c.access c.memory) } := by
  rw [run]
  split <;> simp_all [Finish.memory]

/-- Performs a read: what it gives, and the context behind it. -/
def read (c : Context) : ReadStep → Except RenderError Answer × Context
  | .get s => ((c.get s).1.map .value, (c.get s).2)
  | .eval e => ((c.eval e).1.map .value, (c.eval e).2)
  | .render source => ((c.render source).1.map .text, (c.render source).2)
  | .renderTemplate template =>
    ((c.renderTemplate template).1.map .text, (c.renderTemplate template).2)

theorem run_map {α β : Type} (c : Context) (u : α → β) (f : Access → Read α) :
    c.run (fun a => u <$> f a) = ((c.run f).1.map u, (c.run f).2) := by
  refine Prod.ext ?_ ?_
  · rw [run_result, run_result, Finish.result_map]
  · rw [run_memory, run_memory, Finish.memory_map]

theorem read_eq_run (c : Context) (step : ReadStep) : c.read step = c.run (step.answer c.env) := by
  cases step <;> exact (run_map c _ _).symm

/-- The context behind reads in a row. -/
def readAll (c : Context) (steps : List ReadStep) : Context :=
  steps.foldl (fun c step => (c.read step).2) c

/-- No entry is marked. -/
def Unmarked (c : Context) : Prop := c.vars.All fun face => ∀ s, face ≠ .rendering s

/-- The state that operations find and leave: the keys ascend and no entry is marked. -/
structure AtRest (c : Context) : Prop where
  order : c.vars.InOrder
  unmarked : c.Unmarked

/-- A new context is at rest. -/
theorem AtRest.ofValues (env : Environment) (parent : Dict Value) {values : Dict Value}
    (hv : (Value.map values).InOrder) : (Context.ofValues env parent values).AtRest :=
  ⟨Vars.inOrder_ofDict hv, Vars.all_ofDict .unmarked trivial⟩

/-- Access to the variables of a context as they are. -/
def afresh (c : Context) : Access :=
  Reading.afresh c.env c.parent (Entry.heightOf c.vars) (Entry.waitingIn c.vars) c.vars

/-- A context that reads have made of `c₀`. -/
structure ReadFrom (c₀ c : Context) : Prop where
  env : c.env = c₀.env
  parent : c.parent = c₀.parent
  sound : Sound c₀.env c₀.parent (Entry.heightOf c₀.vars) c₀.vars c.memory
  progress : Progress c₀.memory c.memory

namespace ReadFrom

variable {c₀ c : Context}

theorem refl (h₀ : c₀.AtRest) : ReadFrom c₀ c₀ := ⟨rfl, rfl, .refl h₀.order, .refl h₀.order⟩

/-- **A run ends as it does afresh,** over the variables at the start. -/
theorem run {α : Type} {f : Access → Read α} (h : ReadFrom c₀ c) (h₀ : c₀.AtRest)
    (hf : Parallel (.all (Entry.heightOf c₀.vars)) Eq f f) :
    Read.Gives (f c₀.afresh) (c.run f).1 ∧ ReadFrom c₀ (c.run f).2 := by
  have hunmarked : ∀ spot s, c₀.vars.face? spot ≠ some (.rendering s) :=
    fun spot s hs => h₀.unmarked spot _ hs s rfl
  have hclear : ∀ m, Clear m c₀.vars := fun m q v s _ => hunmarked q s
  have hsame : SameMarks c.memory c₀.vars := fun q => by
    simp only [h.progress.rendering_iff]
    rfl
  have haccess : c.access = Reading.access c₀.env c₀.parent (Entry.heightOf c₀.vars)
      (Entry.waitingIn c.vars) := by
    rw [access, h.env, h.parent]
    exact congrArg (Reading.access _ _ · _) h.progress.height
  have hcarries := carries_access hf h.sound (le_refl (Entry.waitingIn c.vars))
  have hprogress := (Reading.together_access c₀.env c₀.parent hf
    h.sound.order (le_refl (Entry.waitingIn c.vars))).progress
  rw [Context.run, haccess]
  revert hcarries hprogress
  rcases f (Reading.access c₀.env c₀.parent (Entry.heightOf c₀.vars) (Entry.waitingIn c.vars))
    c.memory with ⟨x, m⟩ | ⟨e, m⟩ <;> intro hcarries hprogress
  · obtain ⟨_, rfl, hgives⟩ := hcarries.2 c₀.vars _ (.refl h₀.order) (hclear m) le_rfl
    exact ⟨hgives, h.env, h.parent, hcarries.1, h.progress.trans hprogress⟩
  · exact ⟨hcarries.2 c₀.vars _ (.refl h₀.order) hsame le_rfl, h.env, h.parent, hcarries.1,
      h.progress.trans hprogress⟩

theorem read (h : ReadFrom c₀ c) (h₀ : c₀.AtRest) (step : ReadStep) :
    (c.read step).1 = (c₀.read step).1 ∧ ReadFrom c₀ (c.read step).2 := by
  have hf := step.parallel (Bridge.all_exact (Entry.heightOf c₀.vars)) c₀.env
    fun _ _ _ => trivial
  rw [read_eq_run, read_eq_run, h.env]
  obtain ⟨hgives, hread⟩ := h.run h₀ hf
  exact ⟨hgives.unique ((refl h₀).run h₀ hf).1, hread⟩

theorem readAll (h : ReadFrom c₀ c) (h₀ : c₀.AtRest) (steps : List ReadStep) :
    ReadFrom c₀ (c.readAll steps) := by
  induction steps generalizing c with
  | nil => exact h
  | cons step steps ih => exact ih (h.read h₀ step).2

end ReadFrom

/-- A context at rest gives what its variables give afresh. -/
theorem AtRest.gives_run {α : Type} {c : Context} {f : Access → Read α} (h : c.AtRest)
    (hf : Parallel (.all (Entry.heightOf c.vars)) Eq f f) :
    Read.Gives (f c.afresh) (c.run f).1 := ((ReadFrom.refl h).run h hf).1

/-- A computation that runs in step with itself in a context. -/
def Steady (c : Context) {α : Type} (f : Access → Read α) : Prop :=
  Parallel (.all (Entry.heightOf c.vars)) Eq f f

theorem Steady.bind {α β : Type} {c : Context} {f : Access → Read α} {g : Access → α → Read β}
    (hf : c.Steady f) (hg : ∀ x, c.Steady fun a => g a x) : c.Steady fun a => f a >>= g a :=
  Parallel.bind hf fun x _ hxy => hxy ▸ hg x

/-- In a context at rest, computations in a row give what each gives on its own. -/
theorem AtRest.run_bind {α β : Type} {c : Context} {f : Access → Read α}
    {g : Access → α → Read β} (h : c.AtRest) (hf : c.Steady f)
    (hg : ∀ x, c.Steady fun a => g a x) :
    (c.run fun a => f a >>= g a).1 = ((c.run f).1 >>= fun x => (c.run fun a => g a x).1) :=
  (h.gives_run (hf.bind hg)).unique ((h.gives_run hf).bind fun x => h.gives_run (hg x))

/-- **Reads do not depend on earlier reads:** after any of them, succeeding or failing, a read
gives what it gives in the new context. -/
theorem read_readAll (env : Environment) (parent values : Dict Value)
    (hv : (Value.map values).InOrder) (steps : List ReadStep) (step : ReadStep) :
    (((ofValues env parent values).readAll steps).read step).1 =
      ((ofValues env parent values).read step).1 := by
  have hrest := AtRest.ofValues env parent hv
  exact (((ReadFrom.refl hrest).readAll hrest steps).read hrest step).1

/-- Two variables that refer to each other, read from both ends. -/
theorem read_readAll_cycle :
    (((ofValues {} [] [("a", .str "{{ b }}"), ("b", .str "{{ a }}")]).readAll
      [.get "a", .render "{{ b }}{{ a }}"]).read (.get "b")).1 =
        .error (.inVariable "b" (.inVariable "a" (.cyclic "b"))) :=
  (read_readAll {} [] _ (by decide) _ _).trans (by decide +kernel)

end Context
end MailMerge
