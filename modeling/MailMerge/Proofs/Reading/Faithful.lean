/-
# A memory tells the truth

A memory is sound with respect to variables `base` if each entry of it is as in `base`,
or waits in `base` and is marked, or waits in `base` and holds the value that rendering
it afresh gives.  Afresh under which marks?  A render that succeeds has met no mark, and
all it has met is resolved by then; so it succeeds alike under all marks that avoid the
resolved entries (`Settles`).

`Carries` says that a run in a sound memory ends in a sound one, and with the result of
the same computation afresh: a value under all marks that avoid what is resolved at the
end, an error under the marks of the memory.  The proof is by induction on depth, and
for each depth by induction on the judgement of parallel computations.
-/

import MailMerge.Proofs.Reading.Afresh

namespace MailMerge

open Vars (Marking)

/-- No entry that the memory has resolved is marked, but perhaps the one at `spot`. -/
def ClearBut (spot : Spot) (m : Memory) (vars : Vars) : Prop :=
  ∀ q v s, q ≠ spot → m.vars.face? q = some (.resolved v) → vars.face? q ≠ some (.rendering s)

/-- No entry that the memory has resolved is marked. -/
def Clear (m : Memory) (vars : Vars) : Prop :=
  ∀ q v s, m.vars.face? q = some (.resolved v) → vars.face? q ≠ some (.rendering s)

/-- The same entries are marked. -/
def SameMarks (m : Memory) (vars : Vars) : Prop :=
  ∀ spot, (∃ s, m.vars.face? spot = some (.rendering s)) ↔
    ∃ s, vars.face? spot = some (.rendering s)

section

variable (env : Environment) (parent : Dict Value) (height : Nat) (base : Vars)

/-- Rendering the source of an entry afresh gives a text, under all marks that avoid what the
memory has resolved elsewhere. -/
def Settles (m : Memory) (spot : Spot) (source text : String) : Prop :=
  ∀ vars depth, Marking base vars → ClearBut spot m vars → Entry.waitingIn vars ≤ depth →
    Read.Gives (Evaluation.renderSource env (Reading.afresh env parent height depth vars) source)
      (.ok text)

/-- A memory whose entries are true to the variables `base`. -/
structure Sound (m : Memory) : Prop where
  order : m.vars.InOrder
  face : ∀ spot, m.vars.face? spot = base.face? spot ∨
    ∃ s, base.face? spot = some (.template s) ∧
      (m.vars.face? spot = some (.rendering s) ∨
        ∃ text, m.vars.face? spot = some (.resolved (.coerce s text)) ∧
          Settles env parent height base m spot s text)

/-- A run ends in a sound memory and as the computation `g` does afresh. -/
def Carries {α β : Type} (P : α → β → Prop) (m : Memory) (g : Access → Read β) :
    Finish α → Prop
  | .ok x m' => Sound env parent height base m' ∧
    ∀ vars depth, Marking base vars → Clear m' vars → Entry.waitingIn vars ≤ depth →
      ∃ y, P x y ∧ Read.Gives (g (Reading.afresh env parent height depth vars)) (.ok y)
  | .error e m' => Sound env parent height base m' ∧
    ∀ vars depth, Marking base vars → SameMarks m vars → Entry.waitingIn vars ≤ depth →
      Read.Gives (g (Reading.afresh env parent height depth vars)) (.error e)

end

variable {env : Environment} {parent : Dict Value} {height : Nat} {base vars : Vars}
  {m m' : Memory} {spot : Spot}

theorem Progress.clear (h : Progress m m') (hc : Clear m' vars) : Clear m vars :=
  fun q v s hv => hc q v s (h.resolved hv)

theorem Progress.sameMarks (h : Progress m m') (hs : SameMarks m vars) : SameMarks m' vars :=
  fun q => by simp only [h.rendering_iff, hs q]

theorem Carries.congr {α β : Type} {P : α → β → Prop} {g g' : Access → Read β} {r : Finish α}
    (h : Carries env parent height base P m g r)
    (hg : ∀ vars depth, g (Reading.afresh env parent height depth vars) =
      g' (Reading.afresh env parent height depth vars)) :
    Carries env parent height base P m g' r := by
  cases r <;> exact ⟨h.1, fun vars depth => hg vars depth ▸ h.2 vars depth⟩

theorem Settles.mono {source text : String}
    (h : Settles env parent height base m spot source text)
    (hm : ∀ q v, m.vars.face? q = some (.resolved v) → m'.vars.face? q = some (.resolved v)) :
    Settles env parent height base m' spot source text :=
  fun vars depth hv hc hd => h vars depth hv (fun q v s hq hr => hc q v s hq (hm q v hr)) hd

namespace Sound

theorem refl (h : m.vars.InOrder) : Sound env parent height m.vars m := ⟨h, fun _ => .inl rfl⟩

/-- Marks in the memory are avoided by what the memory has resolved. -/
theorem clear (h : SameMarks m vars) : Clear m vars := by
  intro q v s hv hs
  obtain ⟨t, ht⟩ := (h q).2 ⟨s, hs⟩
  simp [hv] at ht

/-- What is neither marked nor resolved in a sound memory is as it was. -/
theorem face_eq (h : Sound env parent height base m)
    (hr : ∀ s, m.vars.face? spot ≠ some (.rendering s))
    (hv : ∀ v, m.vars.face? spot ≠ some (.resolved v)) :
    base.face? spot = m.vars.face? spot := by
  rcases h.face spot with he | ⟨s, -, he | ⟨t, he, -⟩⟩
  · exact he.symm
  · exact absurd he (hr s)
  · exact absurd he (hv _)

/-- A leaf in the place of a leaf leaves the memory sound, if it is true and the resolved
entries stay. -/
theorem replace {old new : Face} {spots : List Spot} {vars : Vars} {s : String}
    (h : Sound env parent height base m) (hb : base.face? spot = some (.template s))
    (hput : m.vars.Replaces vars spot old new) (hold : m.vars.face? spot = some old)
    (hleaf : ∀ v, old ≠ .resolved v)
    (hnew : new = .template s ∨ new = .rendering s ∨ ∃ text, new = .resolved (.coerce s text) ∧
      Settles env parent height base { m with vars := vars, settled := spots } spot s text) :
    Sound env parent height base { m with vars := vars, settled := spots } := by
  have hmono : ∀ q v, m.vars.face? q = some (.resolved v) →
      vars.face? q = some (.resolved v) := by
    intro q v hv
    have hq : q ≠ spot := by
      rintro rfl
      exact hleaf v (Option.some.inj (hold.symm.trans hv))
    rw [hput.elsewhere q hq, hv]
  refine ⟨hput.order, fun q => ?_⟩
  by_cases hq : q = spot
  · subst hq
    rcases hnew with rfl | rfl | ⟨text, rfl, ht⟩
    · exact .inl (hput.here.trans hb.symm)
    · exact .inr ⟨s, hb, .inl hput.here⟩
    · exact .inr ⟨s, hb, .inr ⟨text, hput.here, ht⟩⟩
  · rcases h.face q with he | ⟨t, ht, he | ⟨text, he, hs⟩⟩
    · exact .inl ((hput.elsewhere q hq).trans he)
    · exact .inr ⟨t, ht, .inl ((hput.elsewhere q hq).trans he)⟩
    · exact .inr ⟨t, ht, .inr ⟨text, (hput.elsewhere q hq).trans he, hs.mono hmono⟩⟩

end Sound

/-! ### Reads of one entry -/

/-- A template that is not marked gives afresh what rendering it under its mark gives. -/
theorem gives_of_template {depth : Nat} {source : String} {r : Except RenderError String}
    {r' : Except RenderError Value} (ho : vars.InOrder)
    (hs : vars.face? spot = some (.template source)) (hd : Entry.waitingIn vars ≤ depth)
    (hr : ∀ {x : Read String}, Read.Gives x r → Read.Gives (Reading.valueOf spot.2 source x) r')
    (h : ∀ depth, Entry.waitingIn (vars.put spot.1 spot.2 (.rendering source)) ≤ depth →
      Read.Gives (Evaluation.renderSource env (Reading.afresh env parent height depth
        (vars.put spot.1 spot.2 (.rendering source))) source) r) :
    Read.Gives ((Reading.afresh env parent height depth vars).entry spot.1 spot.2) r' := by
  have hpos := Vars.waitingIn_pos hs
  have hput : Entry.waitingIn (vars.put spot.1 spot.2 (.rendering source)) + 1 =
    Entry.waitingIn vars := (Vars.replaces_mark ho hs).waiting
  obtain ⟨depth, rfl⟩ : ∃ d, depth = d + 1 := ⟨depth - 1, by omega⟩
  have hface : vars.face? (spot.1, spot.2) = some (.template source) := hs
  rw [Reading.afresh_eq]
  simp only [Reading.entryAfresh, hface]
  exact hr (h depth (by omega))

/-- An entry that the memory has resolved gives the same afresh where it is not marked. -/
theorem gives_of_resolved {v : Value} {depth : Nat} (hm : Sound env parent height base m)
    (hf : m.vars.face? spot = some (.resolved v)) (hv : Marking base vars) (hc : Clear m vars)
    (hd : Entry.waitingIn vars ≤ depth) :
    Read.Gives ((Reading.afresh env parent height depth vars).entry spot.1 spot.2) (.ok v) := by
  rcases hm.face spot with he | ⟨s, hs, he | ⟨text, he, hsettles⟩⟩
  · have hb : base.face? spot = some (.resolved v) := he.symm.trans hf
    have hface : vars.face? spot = some (.resolved v) := (hv.face_eq (by simp [hb])).trans hb
    exact Reading.gives_entry (congrArg (Face.value? spot) hface)
  · simp [hf] at he
  · obtain rfl := Face.resolved.inj (Option.some.inj (hf.symm.trans he))
    have hface := hv.template hs fun t => hc spot _ t hf
    have hput := Vars.replaces_mark hv.order hface
    refine gives_of_template hv.order hface hd Reading.gives_valueOf_ok fun depth hd =>
      hsettles _ depth (hv.mark hs hface) (fun q w t hq hw => ?_) hd
    rw [hput.elsewhere q hq]
    exact hc q w t hw

section Template

variable {source : String}

/-- A mark in the memory is a mark in the variables. -/
theorem SameMarks.mark (h : SameMarks m vars) (hm : m.vars.InOrder) (ho : vars.InOrder)
    (hf : m.vars.face? spot = some (.template source))
    (hf' : vars.face? spot = some (.template source)) :
    SameMarks (Reading.put spot.1 spot.2 (.rendering source) m)
      (vars.put spot.1 spot.2 (.rendering source)) := by
  have hput := Vars.replaces_mark hm hf
  have hput' := Vars.replaces_mark ho hf'
  intro q
  rw [Reading.put]
  by_cases hq : q = spot
  · subst hq
    simp only [hput.here, hput'.here]
  · rw [hput.elsewhere q hq, hput'.elsewhere q hq]
    exact h q

/-- After a render that succeeded, its text is what it gives afresh. -/
theorem carries_resolve {n : Nat} {text : String} (hm : Sound env parent height base m)
    (hf : m.vars.face? spot = some (.template source))
    (hp : Progress (Reading.put spot.1 spot.2 (.rendering source) m) m')
    (h : Carries env parent height base Eq (Reading.put spot.1 spot.2 (.rendering source) m)
      (fun a => Evaluation.renderSource env a source) (.ok text m')) :
    Carries env parent height base (Value.Related (.all height) n) m
      (fun a => a.entry spot.1 spot.2)
      (.ok (.coerce source text) (Reading.put spot.1 spot.2 (.resolved (.coerce source text))
        { m' with settled := spot :: m'.settled })) := by
  obtain ⟨hm', hgives⟩ := h
  have hb : base.face? spot = some (.template source) :=
    (hm.face_eq (by simp [hf]) (by simp [hf])).trans hf
  have hmark := Reading.replaces_mark hm.order hf
  have hdone := Reading.replaces_unmark hp hm.order hf (.resolved (.coerce source text)) rfl
  have hhere : m'.vars.face? spot = some (.rendering source) := hp.rendering_iff.2 hmark.here
  -- what the render has resolved is still resolved, and is not the entry itself
  have hresolved : ∀ q v, m'.vars.face? q = some (.resolved v) → q ≠ spot ∧
      (m'.vars.put spot.1 spot.2 (.resolved (.coerce source text))).face? q =
        some (.resolved v) := by
    intro q v hq
    have hne : q ≠ spot := by
      rintro rfl
      simp [hhere] at hq
    exact ⟨hne, (hdone.elsewhere q hne).trans hq⟩
  have hsettles : Settles env parent height base
      (Reading.put spot.1 spot.2 (.resolved (.coerce source text))
        { m' with settled := spot :: m'.settled }) spot source text := by
    intro vars depth hv hc hd
    obtain ⟨y, rfl, hy⟩ := hgives vars depth hv (fun q v s hq => by
      obtain ⟨hne, hq⟩ := hresolved q v hq
      exact hc q v s hne hq) hd
    exact hy
  refine ⟨hm'.replace hb hdone hhere (by simp) (.inr (.inr ⟨text, rfl, hsettles⟩)), ?_⟩
  intro vars depth hv hc hd
  refine ⟨_, .refl_all, gives_of_resolved
    (hm'.replace hb hdone hhere (by simp) (.inr (.inr ⟨text, rfl, hsettles⟩)))
    hdone.here hv hc hd⟩

/-- After a render that failed, its error is the one it has afresh. -/
theorem carries_restore {n : Nat} {e : RenderError} (hm : Sound env parent height base m)
    (hf : m.vars.face? spot = some (.template source))
    (hp : Progress (Reading.put spot.1 spot.2 (.rendering source) m) m')
    (h : Carries env parent height base Eq (Reading.put spot.1 spot.2 (.rendering source) m)
      (fun a => Evaluation.renderSource env a source) (.error e m')) :
    Carries env parent height base (Value.Related (.all height) n) m
      (fun a => a.entry spot.1 spot.2)
      (.error (.inVariable spot.2 e) (Reading.put spot.1 spot.2 (.template source) m')) := by
  obtain ⟨hm', hgives⟩ := h
  have hb : base.face? spot = some (.template source) :=
    (hm.face_eq (by simp [hf]) (by simp [hf])).trans hf
  have hmark := Reading.replaces_mark hm.order hf
  have hdone := Reading.replaces_unmark hp hm.order hf (.template source) rfl
  have hhere : m'.vars.face? spot = some (.rendering source) := hp.rendering_iff.2 hmark.here
  refine ⟨hm'.replace hb hdone hhere (by simp) (.inl rfl), fun vars depth hv hsame hd => ?_⟩
  have hface : vars.face? spot = some (.template source) := by
    refine hv.template hb fun t ht => ?_
    obtain ⟨u, hu⟩ := (hsame spot).2 ⟨t, ht⟩
    simp [hf] at hu
  exact gives_of_template hv.order hface hd Reading.gives_valueOf_error fun depth hd =>
    hgives _ depth (hv.mark hb hface) (hsame.mark hm.order hv.order hf hface) hd

end Template

/-- What has a value without rendering has it afresh. -/
theorem carries_value {n : Nat} {v : Value} (hm : Sound env parent height base m)
    (hv : Face.value? spot (m.vars.face? spot) = some v) :
    Carries env parent height base (Value.Related (.all height) n) m
      (fun a => a.entry spot.1 spot.2) (.ok v m) := by
  refine ⟨hm, fun vars depth hmark hc hd => ⟨v, .refl_all, ?_⟩⟩
  by_cases hr : ∃ w, m.vars.face? spot = some (.resolved w)
  · obtain ⟨w, hw⟩ := hr
    rw [hw] at hv
    obtain rfl := Option.some.inj hv
    exact gives_of_resolved hm hw hmark hc hd
  · have hb : base.face? spot = m.vars.face? spot :=
      hm.face_eq (fun s hs => by simp [hs, Face.value?] at hv) fun w hw => hr ⟨w, hw⟩
    have hface : vars.face? spot = base.face? spot :=
      hmark.face_eq fun s hs => by simp [← hb, hs, Face.value?] at hv
    exact Reading.gives_entry (by rw [hface, hb, hv])

/-- **Reads of one entry tell the truth** if the renders of templates do. -/
theorem carries_entry {n : Nat} {render : String → Read String}
    (hm : Sound env parent height base m)
    (hrender : ∀ source, m.vars.face? spot = some (.template source) →
      Carries env parent height base Eq (Reading.put spot.1 spot.2 (.rendering source) m)
        (fun a => Evaluation.renderSource env a source)
        (render source (Reading.put spot.1 spot.2 (.rendering source) m)) ∧
      Progress (Reading.put spot.1 spot.2 (.rendering source) m)
        (Finish.memory (render source (Reading.put spot.1 spot.2 (.rendering source) m)))) :
    Carries env parent height base (Value.Related (.all height) n) m
      (fun a => a.entry spot.1 spot.2) (Reading.entry render spot.1 spot.2 m) := by
  rw [Reading.entry_eq]
  rcases hf : m.vars.face? (spot.1, spot.2) with _ | face
  · exact carries_value hm (congrArg (Face.value? spot) hf)
  cases face with
  | literal v => exact carries_value hm (congrArg (Face.value? spot) hf)
  | mapping keys => exact carries_value hm (congrArg (Face.value? spot) hf)
  | resolved v => exact carries_value hm (congrArg (Face.value? spot) hf)
  | rendering s =>
    refine ⟨hm, fun vars depth hv hsame _ => ?_⟩
    obtain ⟨t, hface⟩ := (hsame (spot.1, spot.2)).1 ⟨s, hf⟩
    rw [Reading.afresh_eq]
    simp only [Reading.entryAfresh, hface]
    exact Read.gives_throw _
  | template source =>
    obtain ⟨hcarries, hp⟩ := hrender source hf
    dsimp only
    unfold Reading.settle
    revert hcarries hp
    rcases render source (Reading.put spot.1 spot.2 (.rendering source) m) with
      ⟨text, m'⟩ | ⟨e, m'⟩ <;> intro hcarries hp
    · exact carries_resolve hm hf hp hcarries
    · exact carries_restore hm hf hp hcarries

/-! ### Whole runs -/

/-- A name resolves alike if reads of the variables tell the truth. -/
theorem carries_name {key : String} {render : String → Read String}
    (hm : Sound env parent height base m)
    (hentry : Carries env parent height base (Value.Related (.all height) height) m
      (fun a => a.entry [] key) (Reading.entry render [] key m)) :
    Carries env parent height base (Option.Rel (Value.Related (.all height) height)) m
      (fun a => a.name key) (Reading.name env parent render key m) := by
  have hhas : ∀ {vars}, Marking base vars → Dict.has vars key = Dict.has m.vars key := by
    intro vars hv
    rw [Vars.has_eq_isSome_face?, Vars.has_eq_isSome_face?]
    rcases hm.face ([], key) with he | ⟨s, hs, he | ⟨t, he, -⟩⟩ <;>
      rcases hv.face ([], key) with he' | ⟨s', hs', he'⟩ <;> simp_all
  have hfound : ∀ v, (∀ vars depth, Marking base vars →
      (Reading.afresh env parent height depth vars).name key = pure (some v)) →
      Carries env parent height base (Option.Rel (Value.Related (.all height) height)) m
        (fun a => a.name key) (.ok (some v) m) := fun v hv =>
    ⟨hm, fun vars depth hmark _ _ => ⟨some v, .some .refl_all, fun m => by
      beta_reduce
      rw [hv vars depth hmark]
      rfl⟩⟩
  unfold Reading.name
  rcases hp : Dict.find? parent key with _ | v
  · rcases hg : Dict.find? env.globals key with _ | v
    · dsimp only
      split
      · rename_i hin
        have hname : ∀ {vars depth r}, Marking base vars →
            Read.Gives ((Reading.afresh env parent height depth vars).entry [] key) r →
            Read.Gives ((Reading.afresh env parent height depth vars).name key) (r.map some) := by
          intro vars depth r hv hr
          rw [Reading.afresh_eq] at hr ⊢
          simp only [Reading.nameAfresh, hp, hg, hhas hv, hin, if_true]
          exact hr.map some
        change Carries env parent height base _ m _
          (EStateM.map some (Reading.entry render [] key) m)
        unfold EStateM.map
        revert hentry
        rcases Reading.entry render [] key m with ⟨v, m'⟩ | ⟨e, m'⟩ <;> intro hentry
        · refine ⟨hentry.1, fun vars depth hv hc hd => ?_⟩
          obtain ⟨y, hy, hr⟩ := hentry.2 vars depth hv hc hd
          exact ⟨some y, .some hy, hname hv hr⟩
        · exact ⟨hentry.1, fun vars depth hv hs hd => hname hv (hentry.2 vars depth hv hs hd)⟩
      · rename_i hout
        refine ⟨hm, fun vars depth hv _ _ => ⟨none, .none, ?_⟩⟩
        rw [Reading.afresh_eq]
        simp only [Reading.nameAfresh, hp, hg, hhas hv, hout]
        exact Read.gives_pure _
    · refine hfound v fun vars depth _ => ?_
      rw [Reading.afresh_eq]
      simp only [Reading.nameAfresh, hp, hg]
  · refine hfound v fun vars depth _ => ?_
    rw [Reading.afresh_eq]
    simp only [Reading.nameAfresh, hp]

theorem carries_bind {α β γ δ : Type} {P : α → β → Prop} {Q : γ → δ → Prop} {f : Read α}
    {f₂ : Read β} {f' : Access → Read β} {g : α → Read γ} {g₂ : β → Read δ}
    {g' : β → Access → Read δ} (hf : Carries env parent height base P m f' (f m))
    (hfollows : Follows P (fun _ => True) (Together m) (f m) (f₂ m))
    (hg : ∀ x y m', P x y → Sound env parent height base m' → Progress m m' →
      Carries env parent height base Q m' (g' y) (g x m'))
    (hgfollows : ∀ x y m', P x y → Progress m m' →
      Follows Q (fun _ => True) (Together m') (g x m') (g₂ y m')) :
    Carries env parent height base Q m (fun a => f' a >>= fun y => g' y a) ((f >>= g) m) := by
  change Carries env parent height base Q m _ (EStateM.bind f g m)
  unfold EStateM.bind
  revert hf hfollows
  rcases f m with ⟨x, m₁⟩ | ⟨e, m₁⟩ <;> rcases f₂ m with ⟨y₂, m₂⟩ | ⟨e₂, m₂⟩ <;>
    intro hf hfollows
  · obtain ⟨hxy, rfl, hp⟩ := hfollows
    obtain ⟨hm₁, hgives⟩ := hf
    have hrun := hg x y₂ m₁ hxy hm₁ hp
    have hprogress := (hgfollows x y₂ m₁ hxy hp).progress
    dsimp only
    rcases hr : g x m₁ with ⟨z, m₂⟩ | ⟨e, m₂⟩
    · rw [hr] at hrun hprogress
      refine ⟨hrun.1, fun vars depth hv hc hd => ?_⟩
      -- afresh the first part may end in another related value: carry on from that one
      obtain ⟨y, hy, hfy⟩ := hgives vars depth hv (hprogress.clear hc) hd
      have hrun := hg x y m₁ hy hm₁ hp
      rw [hr] at hrun
      obtain ⟨w, hw, hgw⟩ := hrun.2 vars depth hv hc hd
      exact ⟨w, hw, hfy.bind_ok hgw⟩
    · rw [hr] at hrun hprogress
      refine ⟨hrun.1, fun vars depth hv hs hd => ?_⟩
      have hs₁ := hp.sameMarks hs
      obtain ⟨y, hy, hfy⟩ := hgives vars depth hv (Sound.clear hs₁) hd
      have hrun := hg x y m₁ hy hm₁ hp
      rw [hr] at hrun
      exact hfy.bind_ok (hrun.2 vars depth hv hs₁ hd)
  · exact hfollows.elim
  · exact hfollows.elim
  · exact ⟨hf.1, fun vars depth hv hs hd => (hf.2 vars depth hv hs hd).bind_error⟩

/-- Runs tell the truth if reads of single entries do. -/
theorem carries_of_entry {depth : Nat} {α β : Type} {P : α → β → Prop} {f : Access → Read α}
    {g : Access → Read β} (h : Parallel (.all height) P f g)
    (hentry : ∀ {n : Nat} {m} (spot : Spot), Sound env parent height base m →
      Entry.waitingIn m.vars ≤ depth →
      Carries env parent height base (Value.Related (.all height) n) m
        (fun a => a.entry spot.1 spot.2)
        (Reading.entry (Reading.renderAt env parent height depth) spot.1 spot.2 m))
    (hm : Sound env parent height base m) (hd : Entry.waitingIn m.vars ≤ depth) :
    Carries env parent height base P m g (f (Reading.access env parent height depth) m) := by
  induction h generalizing m with
  | pure hP => exact ⟨hm, fun _ _ _ _ _ => ⟨_, hP, Read.gives_pure _⟩⟩
  | throw _ => exact ⟨hm, fun _ _ _ _ _ => Read.gives_throw _⟩
  | bind hf hg ihf ihg =>
    exact carries_bind (ihf hm hd) (Reading.together_access env parent hf hm.order hd)
      (fun x y m' hxy hm' hp => ihg x y hxy hm' (hp.waiting.trans hd))
      fun x y m' hxy hp =>
        Reading.together_access env parent (hg x y hxy) hp.order (hp.waiting.trans hd)
  | name s =>
    rw [Reading.access_eq]
    exact carries_name hm (hentry ([], s) hm hd)
  | @entry n place _ key _ =>
    rw [Reading.access_eq]
    exact hentry (place, key) hm hd
  | opened _ h => exact h.elim
  | count =>
    refine ⟨⟨hm.order, hm.face⟩, fun _ _ _ _ _ => ⟨_, trivial, fun _ => rfl⟩⟩
  | height _ ih =>
    beta_reduce
    rw [Reading.access_height]
    exact (ih hm hd).congr fun vars depth => by rw [Reading.afresh_height]; rfl

/-- **A run tells the truth:** it ends in a sound memory, and as it does afresh. -/
theorem carries_access {α β : Type} {P : α → β → Prop} {f : Access → Read α}
    {g : Access → Read β} (h : Parallel (.all height) P f g) {depth : Nat}
    (hm : Sound env parent height base m) (hd : Entry.waitingIn m.vars ≤ depth) :
    Carries env parent height base P m g (f (Reading.access env parent height depth) m) := by
  induction depth generalizing α β P f g m with
  | zero =>
    refine carries_of_entry h (fun {n m} spot hm hd => carries_entry hm fun source hs => ?_) hm hd
    have := Vars.waitingIn_pos hs
    omega
  | succ depth ih =>
    refine carries_of_entry h (fun {n m} spot hm hd => carries_entry hm fun source hs => ?_) hm hd
    have hput := Vars.replaces_mark hm.order hs
    have hwaiting := Reading.waitingIn_mark hm.order hs
    have hb : base.face? spot = some (.template source) :=
      (hm.face_eq (by simp [hs]) (by simp [hs])).trans hs
    have hmarked : Sound env parent height base (Reading.put spot.1 spot.2 (.rendering source) m) :=
      hm.replace hb hput hs (by simp) (.inr (.inl rfl))
    have hrender := Parallel.renderSource env source
      (Bridge.all_exact height) fun _ _ => trivial
    have hd' : Entry.waitingIn (Reading.put spot.1 spot.2 (.rendering source) m).vars ≤ depth := by
      omega
    exact ⟨ih hrender hmarked hd',
      (Reading.together_access env parent hrender hmarked.order hd').progress⟩

end MailMerge
