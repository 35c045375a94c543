/-
# A template that is not read

Take two memories that differ in the source of one waiting template only.  A run that
succeeds in the first and leaves that template waiting has not read it, since what it reads
it resolves; so it does the same in the second, and the memories differ behind it as they did
before (`Reading.unread_access`).  The proof is by induction on depth, and for each depth by
induction on the judgement of parallel computations.
-/

import MailMerge.Proofs.Reading.Depth

namespace MailMerge

/-- Two memories that differ in the source of one waiting template only. -/
structure Unread (spot : Spot) (source source' : String) (m m' : Memory) : Prop where
  order : m.vars.InOrder
  order' : m'.vars.InOrder
  here : m.vars.face? spot = some (.template source)
  here' : m'.vars.face? spot = some (.template source')
  elsewhere : ∀ q, q ≠ spot → m'.vars.face? q = m.vars.face? q
  uses : m'.uses = m.uses
  settled : m'.settled = m.settled

namespace Unread

variable {spot q : Spot} {source source' : String} {m m' : Memory}

/-- Another source in the place of the one that waits. -/
theorem of_put (ho : m.vars.InOrder) (h : m.vars.face? spot = some (.template source))
    (source' : String) :
    Unread spot source source' m (Reading.put spot.1 spot.2 (.template source') m) := by
  have hput := Vars.replaces_source ho h source'
  exact ⟨ho, hput.order, h, hput.here, hput.elsewhere, rfl, rfl⟩

theorem count (h : Unread spot source source' m m') :
    Unread spot source source' { m with uses := m.uses + 1 } { m' with uses := m'.uses + 1 } :=
  ⟨h.order, h.order', h.here, h.here', h.elsewhere, congrArg (· + 1) h.uses, h.settled⟩

/-- The same spots are taken. -/
theorem isSome (h : Unread spot source source' m m') (q : Spot) :
    (m'.vars.face? q).isSome = (m.vars.face? q).isSome := by
  by_cases hq : q = spot
  · subst hq
    rw [h.here, h.here']
    rfl
  · rw [h.elsewhere q hq]

/-- A leaf is put in the place of the same leaf of both memories. -/
theorem put (h : Unread spot source source' m m') (hq : q ≠ spot) {old : Face} {new : Entry}
    (hold : m.vars.face? q = some old) (hleaf : old.isLeaf = true)
    (hnew : new.face.isLeaf = true) (new' : List Spot) :
    Unread spot source source'
      (Reading.put q.1 q.2 new { m with settled := new' ++ m.settled })
      (Reading.put q.1 q.2 new { m' with settled := new' ++ m'.settled }) := by
  have hput := Vars.replaces_put h.order hold hleaf hnew
  have hput' := Vars.replaces_put h.order' ((h.elsewhere q hq).trans hold) hleaf hnew
  refine ⟨hput.order, hput'.order, (hput.elsewhere _ hq.symm).trans h.here,
    (hput'.elsewhere _ hq.symm).trans h.here', fun r hr => ?_, h.uses, ?_⟩
  · by_cases hrq : r = q
    · subst hrq
      exact hput'.here.trans hput.here.symm
    · exact ((hput'.elsewhere r hrq).trans (h.elsewhere r hr)).trans (hput.elsewhere r hrq).symm
  · exact congrArg (new' ++ ·) h.settled

/-- Behind the same runs, too, the one memory is the other with the other source. -/
theorem eq_put (h : Unread spot source source' m m') :
    m' = Reading.put spot.1 spot.2 (.template source') m := by
  have hput := of_put h.order h.here source'
  have hvars := h.order'.eq_of_face? hput.order' fun q => by
    by_cases hq : q = spot
    · subst hq
      exact h.here'.trans hput.here'.symm
    · exact (h.elsewhere q hq).trans (hput.elsewhere q hq).symm
  calc m' = ⟨m'.vars, m'.uses, m'.settled⟩ := rfl
    _ = _ := by
      rw [hvars, h.uses, h.settled]
      rfl

end Unread

namespace Reading

variable {env : Environment} {parent : Dict Value} {height depth : Nat} {spot : Spot}
  {source source' : String} {m m' m₁ : Memory}

/-- A run in the second memory that does what one does in the first. -/
def Repeats (spot : Spot) (source source' : String) {α β : Type} (P : α → β → Prop)
    (r : Finish α) (r' : Finish β) : Prop :=
  ∀ x m₁, r = .ok x m₁ → m₁.vars.face? spot = some (.template source) →
    ∃ y m₁', r' = .ok y m₁' ∧ P x y ∧ Unread spot source source' m₁ m₁'

namespace Repeats

variable {α β γ δ : Type} {P : α → β → Prop} {Q : γ → δ → Prop} {r : Finish α} {r' : Finish β}

theorem ok {x : α} {y : β} (hP : P x y) (h : Unread spot source source' m m') :
    Repeats spot source source' P (.ok x m) (.ok y m') := by
  rintro _ _ ⟨⟩ -
  exact ⟨y, m', rfl, hP, h⟩

/-- A run that fails, or one behind which the template does not wait, has nothing to repeat. -/
theorem of_absurd (h : ∀ x m₁, r = .ok x m₁ → m₁.vars.face? spot ≠ some (.template source)) :
    Repeats spot source source' P r r' :=
  fun x m₁ hr hstill => absurd hstill (h x m₁ hr)

theorem error {e : RenderError} : Repeats spot source source' P (.error e m) r' :=
  of_absurd nofun

theorem imp {P' : α → β → Prop} (h : Repeats spot source source' P r r')
    (hP : ∀ x y, P x y → P' x y) : Repeats spot source source' P' r r' := by
  intro x m₁ hr hstill
  obtain ⟨y, m₁', hr', hxy, h₁⟩ := h x m₁ hr hstill
  exact ⟨y, m₁', hr', hP x y hxy, h₁⟩

/-- One run after the other.  What waits behind the second has waited before it, since a run
only makes progress. -/
theorem bind {f : Read α} {f₂ f' : Read β} {g : α → Read γ} {g' : β → Read δ}
    (hf : Repeats spot source source' P (f m) (f' m'))
    (hfollows : Follows P (fun _ => True) (Together m) (f m) (f₂ m))
    (hprogress : ∀ x y m₁, P x y → Progress m m₁ → Progress m₁ (Finish.memory (g x m₁)))
    (hg : ∀ x y m₁ m₁', P x y → Progress m m₁ → Unread spot source source' m₁ m₁' →
      Repeats spot source source' Q (g x m₁) (g' y m₁')) :
    Repeats spot source source' Q ((f >>= g) m) ((f' >>= g') m') := by
  intro z m₂ hrun hstill
  change EStateM.bind f g m = _ at hrun
  change ∃ w m₂', EStateM.bind f' g' m' = _ ∧ _
  unfold EStateM.bind at hrun ⊢
  revert hf hfollows hrun
  rcases f m with ⟨x, m₁⟩ | ⟨e, m₁⟩ <;> rcases f₂ m with ⟨y₂, m₂⟩ | ⟨e₂, m₂⟩ <;>
    intro hf hfollows hrun
  · obtain ⟨hxy₂, -, hp⟩ := hfollows
    have hp₂ := hprogress x y₂ m₁ hxy₂ hp
    rw [show g x m₁ = _ from hrun] at hp₂
    obtain ⟨y, m₁', hrun', hxy, h₁⟩ := hf x m₁ rfl (hp₂.template hstill)
    rw [hrun']
    exact hg x y m₁ m₁' hxy hp h₁ z _ hrun hstill
  · exact hfollows.elim
  · exact hfollows.elim
  · cases hrun

theorem map {u : α → γ} {v : β → δ} {f : Read α} {f' : Read β}
    (h : Repeats spot source source' P (f m) (f' m')) (huv : ∀ x y, P x y → Q (u x) (v y)) :
    Repeats spot source source' Q ((u <$> f) m) ((v <$> f') m') := by
  intro z m₁ hrun hstill
  change EStateM.map u f m = _ at hrun
  change ∃ w m₁', EStateM.map v f' m' = _ ∧ _
  unfold EStateM.map at hrun ⊢
  revert h hrun
  rcases f m with ⟨x, m₂⟩ | ⟨e, m₂⟩ <;> intro h hrun
  · obtain ⟨rfl, rfl⟩ := EStateM.Result.ok.inj hrun
    obtain ⟨y, m₁', hrun', hxy, h₁⟩ := h x m₂ rfl hstill
    rw [hrun']
    exact ⟨v y, m₁', rfl, huv x y hxy, h₁⟩
  · cases hrun

end Repeats

/-- A template elsewhere settles alike if its render does. -/
theorem repeats_settle {render : String → Read String} {q : Spot} {s : String}
    (h : Unread spot source source' m m') (hq : q ≠ spot)
    (hs : m.vars.face? q = some (.template s))
    (hrender : Repeats spot source source' Eq (render s (put q.1 q.2 (.rendering s) m))
      (render s (put q.1 q.2 (.rendering s) m')))
    (hp : Progress (put q.1 q.2 (.rendering s) m)
      (Finish.memory (render s (put q.1 q.2 (.rendering s) m)))) :
    Repeats spot source source' Eq (settle render q.1 q.2 s m) (settle render q.1 q.2 s m') := by
  intro v m₂ hrun hstill
  unfold settle at hrun ⊢
  revert hrun hrender hp
  rcases render s (put q.1 q.2 (.rendering s) m) with ⟨text, m₁⟩ | ⟨e, m₁⟩ <;>
    intro hrender hp hrun
  · obtain ⟨rfl, rfl⟩ := EStateM.Result.ok.inj hrun
    have hhere : m₁.vars.face? q = some (.rendering s) :=
      hp.rendering_iff.2 (replaces_mark h.order hs).here
    have hdone := replaces_unmark hp h.order hs (.resolved (.coerce s text)) rfl
    obtain ⟨_, m₁', hrun', rfl, h₁⟩ := hrender text m₁ rfl
      ((hdone.elsewhere _ hq.symm).symm.trans hstill)
    rw [hrun']
    exact ⟨_, _, rfl, rfl, h₁.put hq hhere rfl rfl [q]⟩
  · cases hrun

/-- **An entry is read alike in both memories,** or it is the template itself, which waits no
longer when it has been read. -/
theorem repeats_entry {render : String → Read String} (h : Unread spot source source' m m')
    (q : Spot)
    (hrender : ∀ s, m.vars.face? q = some (.template s) →
      (q ≠ spot → Repeats spot source source' Eq (render s (put q.1 q.2 (.rendering s) m))
        (render s (put q.1 q.2 (.rendering s) m'))) ∧
      Progress (put q.1 q.2 (.rendering s) m)
        (Finish.memory (render s (put q.1 q.2 (.rendering s) m)))) :
    Repeats spot source source' Eq (entry render q.1 q.2 m) (entry render q.1 q.2 m') := by
  rw [entry_eq, entry_eq]
  by_cases hq : q = spot
  · subst hq
    simp only [h.here]
    exact .of_absurd fun v m₁ hrun => by
      simp [face_of_settle h.order h.here (hrender source h.here).2 hrun]
  · rw [h.elsewhere (q.1, q.2) hq]
    rcases hf : m.vars.face? (q.1, q.2) with _ | face
    · exact .ok rfl h
    · cases face with
      | template s => exact repeats_settle h hq hf ((hrender s hf).1 hq) (hrender s hf).2
      | rendering s => exact .error
      | _ => exact .ok rfl h

/-- A name is resolved alike if the variable is read alike. -/
theorem repeats_name {render : String → Read String} {key : String}
    (h : Unread spot source source' m m')
    (hentry : Repeats spot source source' Eq (entry render [] key m) (entry render [] key m')) :
    Repeats spot source source' Eq (name env parent render key m)
      (name env parent render key m') := by
  have hhas : Dict.has m'.vars key = Dict.has m.vars key := by
    rw [Vars.has_eq_isSome_face?, Vars.has_eq_isSome_face?, h.isSome]
  unfold name
  rw [hhas]
  split
  · exact .ok rfl h
  split
  · exact .ok rfl h
  split
  · exact hentry.map fun _ _ => congrArg some
  · exact .ok rfl h

/-- Runs are repeated if reads of single entries are. -/
theorem repeats_of_entry {depth : Nat} {α β : Type} {P : α → β → Prop} {f : Access → Read α}
    {g : Access → Read β} (hfg : Parallel (.all height) P f g)
    (hentry : ∀ {m m'} (q : Spot), Unread spot source source' m m' →
      Entry.waitingIn m.vars ≤ depth → Repeats spot source source' Eq
        (entry (renderAt env parent height depth) q.1 q.2 m)
        (entry (renderAt env parent height depth) q.1 q.2 m'))
    (h : Unread spot source source' m m') (hd : Entry.waitingIn m.vars ≤ depth) :
    Repeats spot source source' P (f (access env parent height depth) m)
      (g (access env parent height depth) m') := by
  induction hfg generalizing m m' with
  | pure hP => exact .ok hP h
  | throw _ => exact .error
  | bind hf hg ihf ihg =>
    exact (ihf h hd).bind (together_access env parent hf h.order hd)
      (fun x y m₁ hxy hp =>
        (together_access env parent (hg x y hxy) hp.order (hp.waiting.trans hd)).progress)
      fun x y m₁ m₁' hxy hp h₁ => ihg x y hxy h₁ (hp.waiting.trans hd)
  | name s =>
    rw [access_eq]
    exact (repeats_name h (hentry ([], s) h hd)).imp fun o _ he => by
      subst he
      cases o <;> constructor
      exact .refl_all
  | @entry n place _ key _ =>
    rw [access_eq]
    exact (hentry (place, key) h hd).imp fun _ _ he => he ▸ .refl_all
  | opened _ hf => exact hf.elim
  | count => exact .ok trivial h.count
  | height _ ih =>
    beta_reduce
    rw [access_height]
    exact ih h hd

/-- **What is not read does not matter:** a run that succeeds and leaves the template waiting
succeeds alike with another template in its place. -/
theorem unread_access {α β : Type} {P : α → β → Prop} {f : Access → Read α}
    {g : Access → Read β} (hfg : Parallel (.all height) P f g) {depth : Nat}
    (h : Unread spot source source' m m') (hd : Entry.waitingIn m.vars ≤ depth) :
    Repeats spot source source' P (f (access env parent height depth) m)
      (g (access env parent height depth) m') := by
  induction depth generalizing α β P f g m m' with
  | zero =>
    have := Vars.waitingIn_pos h.here
    omega
  | succ depth ih =>
    refine repeats_of_entry hfg (fun {m m'} q h hd => repeats_entry h q fun s hs => ?_) h hd
    have hmark := replaces_mark h.order hs
    have hwaiting := waitingIn_mark h.order hs
    have hrender := Parallel.renderSource env s (Bridge.all_exact height) fun _ _ => trivial
    have hd' : Entry.waitingIn (put q.1 q.2 (.rendering s) m).vars ≤ depth := by omega
    exact ⟨fun hq => ih hrender (h.put hq hs rfl rfl []) hd',
      (together_access env parent hrender hmark.order hd').progress⟩

end Reading
end MailMerge
