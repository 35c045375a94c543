/-
# Reads in the middle of a render

Wherever a template has come to, the memory is true to the variables of the context at the start
(`Context.Midway`), so what is asked for there has the value that the context would give it
(`Context.AtRest.run_of_midway`), and errors are the same as well where no entry is marked
(`Context.AtRest.run_of_midway_error`).  This includes the templates of variables, which are
rendered under marks wherever they are asked for first (`Context.Renders`).
-/

import MailMerge.Proofs.Context.Order
import MailMerge.Proofs.Evaluation.Points

namespace MailMerge
namespace Context

/-- Access to the names and variables of the context for up to `depth` renders one inside the
other. -/
def accessAt (c : Context) (depth : Nat) : Access :=
  Reading.access c.env c.parent (Entry.heightOf c.vars) depth

/-- A memory in the middle of a run that began in the memory `m₀`. -/
structure Midway (c : Context) (m₀ m : Memory) : Prop where
  sound : Sound c.env c.parent (Entry.heightOf c.vars) c.vars m
  progress : Progress m₀ m

/-- With access to a depth, the context begins to render in a memory: that of a template is its
own, and that of a variable's template, at whatever place the render around it has come to by
then, is the one with the variable marked. -/
inductive Renders (c : Context) : Nat → Memory → Prop
  | own : c.Renders (Entry.waitingIn c.vars) c.memory
  | inside {depth : Nat} {m m' : Memory} {α : Type} {f : Access → Read α} {x : α} {spot : Spot}
    {source : String} :
    c.Renders (depth + 1) m → c.Steady f → f (c.accessAt (depth + 1)) m = .ok x m' →
    m'.vars.face? spot = some (.template source) →
    c.Renders depth (Reading.put spot.1 spot.2 (.rendering source) m')

variable {c : Context} {depth : Nat} {m₀ m m' : Memory}

theorem Midway.refl (h : Sound c.env c.parent (Entry.heightOf c.vars) c.vars m) :
    c.Midway m m := ⟨h, .refl h.order⟩

/-- **A run that began true to the variables stays so.** -/
theorem upholds_midway (hd : Entry.waitingIn m₀.vars ≤ depth) :
    (c.accessAt depth).Upholds (Entry.heightOf c.vars) (c.Midway m₀) := by
  intro α β P f g hf m x m' hm hrun
  have hd' : Entry.waitingIn m.vars ≤ depth := hm.progress.waiting.trans hd
  have hcarries := carries_access hf hm.sound hd'
  have hprogress := (Reading.together_access c.env c.parent hf hm.sound.order hd').progress
  rw [show f (Reading.access _ _ _ _) m = _ from hrun] at hcarries hprogress
  exact ⟨trivial, hcarries.1, hm.progress.trans hprogress⟩

/-- Renders begin in memories that are true to the variables, with depth enough. -/
theorem Renders.sound (h : c.Renders depth m) (hc : c.AtRest) :
    Sound c.env c.parent (Entry.heightOf c.vars) c.vars m ∧ Entry.waitingIn m.vars ≤ depth := by
  induction h with
  | own => exact ⟨.refl hc.order, le_rfl⟩
  | @inside depth m m' α f x spot source _ hf hrun hs ih =>
    obtain ⟨hsound, hd⟩ := ih
    have hm' := (upholds_midway hd).behind hf (.refl hsound) hrun
    have hmark := Reading.replaces_mark hm'.sound.order hs
    have hwaiting := Reading.waitingIn_mark hm'.sound.order hs
    have hle := hm'.progress.waiting
    have hb : c.vars.face? spot = some (.template source) :=
      (hm'.sound.face_eq (by simp [hs]) (by simp [hs])).trans hs
    exact ⟨hm'.sound.replace hb hmark hs (by simp) (.inr (.inl rfl)), by omega⟩

section Answers

variable {α : Type} {f : Access → Read α}

/-- **What is asked for in the middle of a run, and has a value there, has the value that the
context would give it.** -/
theorem AtRest.run_of_midway (hc : c.AtRest) (hm : c.Midway m₀ m)
    (hd : Entry.waitingIn m₀.vars ≤ depth) (hf : c.Steady f) {x : α}
    (hrun : f (c.accessAt depth) m = .ok x m') : (c.run f).1 = .ok x := by
  have hcarries := carries_access hf hm.sound (hm.progress.waiting.trans hd)
  rw [show f (Reading.access _ _ _ _) m = _ from hrun] at hcarries
  obtain ⟨_, rfl, hgives⟩ := hcarries.2 c.vars _ (.refl hc.order)
    (fun q v s _ hs => hc.unmarked q _ hs s rfl) le_rfl
  exact (hc.gives_run hf).unique hgives

/-- Where nothing is marked, an error is the one that the context would give. -/
theorem AtRest.run_of_midway_error (hc : c.AtRest) (hm : c.Midway m₀ m)
    (hmarks : SameMarks m₀ c.vars) (hd : Entry.waitingIn m₀.vars ≤ depth) (hf : c.Steady f)
    {e : RenderError} (hrun : f (c.accessAt depth) m = .error e m') :
    (c.run f).1 = .error e := by
  have hcarries := carries_access hf hm.sound (hm.progress.waiting.trans hd)
  rw [show f (Reading.access _ _ _ _) m = _ from hrun] at hcarries
  exact (hc.gives_run hf).unique
    (hcarries.2 c.vars _ (.refl hc.order) (hm.progress.sameMarks hmarks) le_rfl)

end Answers

/-! ### Names -/

theorem steady_name (c : Context) (scopes : Scopes) (s : String) :
    c.Steady fun a => Evaluation.name a scopes s :=
  (Parallel.inScope scopes.related_all s).imp fun _ _ h => h.eq_of_exact (Bridge.all_exact _)

/-- A name that no scope binds is one of the context. -/
theorem get_eq_name {scopes : Scopes} {s : String} (h : scopes.find? s = none) :
    c.get s = c.run fun a => Evaluation.name a scopes s := by
  unfold get Evaluation.name
  rw [h]

variable {needed : Bool} {template : List Node} {scopes₀ scopes : Scopes} {e : Expr} {s : String}
  {m₁ m₂ : Memory}

theorem Renders.midway (h : c.Renders depth m) (hc : c.AtRest)
    (he : Evaluation.Evaluates c.env (c.accessAt depth) needed template scopes₀ m e scopes m₁)
    (hs : Evaluation.ComesTo c.env (c.accessAt depth) scopes e m₁ (.name s) m₂) :
    c.Midway m m₂ := by
  obtain ⟨hsound, hd⟩ := h.sound hc
  exact hs.upheld (upholds_midway hd) (he.upheld (upholds_midway hd) (.refl hsound))

/-- **A name that no scope binds has the value that the context gives it,** wherever it is read
first: in a template or in the template of a variable, whatever is bound there. -/
theorem AtRest.get_of_renders (hc : c.AtRest) (h : c.Renders depth m)
    (he : Evaluation.Evaluates c.env (c.accessAt depth) needed template scopes₀ m e scopes m₁)
    (hs : Evaluation.ComesTo c.env (c.accessAt depth) scopes e m₁ (.name s) m₂)
    (hfree : scopes.find? s = none) {v : Value}
    (hv : Finish.result (Evaluation.eval c.env (c.accessAt depth) scopes (.name s) m₂) = .ok v) :
    (c.get s).1 = .ok v := by
  rcases hrun : Evaluation.eval c.env (c.accessAt depth) scopes (.name s) m₂ with
    ⟨w, m₃⟩ | ⟨d, m₃⟩ <;> rw [hrun] at hv
  · obtain rfl := Except.ok.inj hv
    rw [get_eq_name hfree]
    exact hc.run_of_midway (h.midway hc he hs) (h.sound hc).2 (steady_name c scopes s) hrun
  · cases hv

/-- In a template, errors are the same as well. -/
theorem AtRest.get_eq_result (hc : c.AtRest)
    (he : Evaluation.Evaluates c.env c.access needed template scopes₀ c.memory e scopes m₁)
    (hs : Evaluation.ComesTo c.env c.access scopes e m₁ (.name s) m₂)
    (hfree : scopes.find? s = none) :
    (c.get s).1 = Finish.result (Evaluation.eval c.env c.access scopes (.name s) m₂) := by
  have hm := Renders.own.midway hc he hs
  have hf := steady_name c scopes s
  rw [get_eq_name hfree]
  rcases hrun : Evaluation.eval c.env c.access scopes (.name s) m₂ with ⟨v, m₃⟩ | ⟨d, m₃⟩
  · exact hc.run_of_midway hm le_rfl hf hrun
  · exact hc.run_of_midway_error hm (fun _ => Iff.rfl) le_rfl hf hrun

end Context
end MailMerge
