/-
# What reading does to the memory

While an entry renders it is marked; afterwards the mark is gone, whatever happened
meanwhile.  Seen from outside, a read therefore moves entries in one direction only,
from waiting to resolved, and writes down which: that is `Progress`, a preorder.  The
step lemma for one entry (`Reading.settle_together`) takes the progress of a render
under the mark to the progress of the read around it.
-/

import MailMerge.Proofs.Reading.Run
import MailMerge.Proofs.Variables.Origin

namespace MailMerge

/-- From one memory to a later one: some waiting entries are resolved, to what a text stands
for, and written down, each once; nothing else is different. -/
structure Progress (m m' : Memory) : Prop where
  order : m'.vars.InOrder
  face : ∀ spot, m'.vars.face? spot = m.vars.face? spot ∨
    ∃ s text, m.vars.face? spot = some (.template s) ∧
      m'.vars.face? spot = some (.resolved (.coerce s text))
  height : Entry.heightOf m'.vars = Entry.heightOf m.vars
  waiting : Entry.waitingIn m'.vars ≤ Entry.waitingIn m.vars
  settled : ∃ new : List Spot, m'.settled = new ++ m.settled ∧ new.Nodup ∧ ∀ spot, spot ∈ new ↔
    ∃ s v, m.vars.face? spot = some (.template s) ∧ m'.vars.face? spot = some (.resolved v)

namespace Progress

variable {m m' m'' : Memory} {spot : Spot}

theorem refl (h : m.vars.InOrder) : Progress m m where
  order := h
  face _ := .inl rfl
  height := rfl
  waiting := le_rfl
  settled := by
    refine ⟨[], rfl, .nil, fun spot => ⟨fun h => absurd h List.not_mem_nil, ?_⟩⟩
    rintro ⟨s, v, hs, hv⟩
    simp [hs] at hv

/-- What no template waits behind stays. -/
theorem face_eq (h : Progress m m') (hn : ∀ s, m.vars.face? spot ≠ some (.template s)) :
    m'.vars.face? spot = m.vars.face? spot :=
  (h.face spot).resolve_right fun ⟨s, _, hs, _⟩ => hn s hs

theorem resolved (h : Progress m m') {v : Value} (hv : m.vars.face? spot = some (.resolved v)) :
    m'.vars.face? spot = some (.resolved v) := by
  rw [h.face_eq (by simp [hv]), hv]

theorem rendering_iff (h : Progress m m') {s : String} :
    m'.vars.face? spot = some (.rendering s) ↔ m.vars.face? spot = some (.rendering s) := by
  rcases h.face spot with he | ⟨t, v, ht, hv⟩
  · rw [he]
  · simp [ht, hv]

/-- A template that waits later has waited before. -/
theorem template (h : Progress m m') {s : String}
    (hs : m'.vars.face? spot = some (.template s)) : m.vars.face? spot = some (.template s) := by
  rcases h.face spot with he | ⟨t, v, -, hv⟩
  · rw [← he, hs]
  · simp [hs] at hv

theorem trans (h : Progress m m') (h' : Progress m' m'') : Progress m m'' where
  order := h'.order
  face spot := by
    rcases h'.face spot with he' | ⟨s, v, hs, hv⟩
    · rw [he']
      exact h.face spot
    · exact .inr ⟨s, v, h.template hs, hv⟩
  height := h'.height.trans h.height
  waiting := h'.waiting.trans h.waiting
  settled := by
    obtain ⟨new, hnew, hnodup, hmem⟩ := h.settled
    obtain ⟨new', hnew', hnodup', hmem'⟩ := h'.settled
    refine ⟨new' ++ new, by rw [hnew', hnew, List.append_assoc], ?_, fun spot => ?_⟩
    · refine List.nodup_append.2 ⟨hnodup', hnodup, ?_⟩
      rintro spot hs' _ hs rfl
      obtain ⟨s, -, hs', -⟩ := (hmem' spot).1 hs'
      obtain ⟨-, v, -, hv⟩ := (hmem spot).1 hs
      simp [hs'] at hv
    · rw [List.mem_append, hmem, hmem']
      constructor
      · rintro (⟨s, v, hs, hv⟩ | ⟨s, v, hs, hv⟩)
        · exact ⟨s, v, h.template hs, hv⟩
        · exact ⟨s, v, hs, h'.resolved hv⟩
      · rintro ⟨s, v, hs, hv⟩
        rcases h.face spot with he | ⟨t, w, ht, hw⟩
        · exact .inl ⟨s, v, he.trans hs, hv⟩
        · exact .inr ⟨t, _, ht, hw⟩

/-- Counting uses changes no entry. -/
theorem count (h : Progress m m') : Progress m { m' with uses := m'.uses + 1 } :=
  ⟨h.order, h.face, h.height, h.waiting, h.settled⟩

/-- What holds of the values that entries show, and of what texts stand for, holds later. -/
theorem shows {q : Value → Prop} (h : Progress m m')
    (hq : ∀ s text, q (.coerce s text)) (hv : m.vars.Shows q) : m'.vars.Shows q := by
  intro spot face hf
  rcases h.face spot with he | ⟨s, text, -, he⟩
  · exact hv spot face (he ▸ hf)
  · obtain rfl := Option.some.inj (he.symm.trans hf)
    exact hq s text

end Progress

/-- Two runs in the same memory, which has made progress since `m₀`. -/
def Together (m₀ m m' : Memory) : Prop := m = m' ∧ Progress m₀ m

theorem Follows.progress {α β : Type} {P : α → β → Prop} {E : RenderError → Prop} {m : Memory}
    {r : Finish α} {r' : Finish β} (h : Follows P E (Together m) r r') :
    Progress m (Finish.memory r) := h.memory.2

/-- Runs that follow one another exactly are the same. -/
theorem Follows.eq {α : Type} {E : RenderError → Prop} {m : Memory} {r r' : Finish α}
    (h : Follows Eq E (Together m) r r') : r = r' := by
  rcases r with ⟨x, m₁⟩ | ⟨e, m₁⟩ <;> rcases r' with ⟨y, m₂⟩ | ⟨e', m₂⟩
  · rw [h.1, h.2.1]
  · exact h.elim
  · exact h.elim
  · rw [h.1, h.2.2.1]

/-- What goes together from a later memory on goes together from an earlier one on. -/
theorem Follows.since {α β : Type} {P : α → β → Prop} {E E' : RenderError → Prop}
    {m₀ m : Memory} {r : Finish α} {r' : Finish β} (h : Follows P E (Together m) r r')
    (hm : Progress m₀ m) (hE : ∀ e, E e → E' e) : Follows P E' (Together m₀) r r' :=
  h.imp (fun _ _ h => h) hE fun _ _ h => ⟨h.1, hm.trans h.2⟩

namespace Reading

variable {render render' : String → Read String} {place : List String} {key source : String}
  {m m' : Memory}

/-- **Reading goes by the face of the entry.** -/
theorem entry_eq (render : String → Read String) (place : List String) (key : String)
    (m : Memory) :
    entry render place key m = match m.vars.face? (place, key) with
      | none => .ok (.undefined key) m
      | some (.literal v) => .ok v m
      | some (.resolved v) => .ok v m
      | some (.mapping keys) => .ok (.lazy (place ++ [key]) keys) m
      | some (.rendering _) => .error (.cyclic key) m
      | some (.template source) => settle render place key source m := by
  unfold entry Vars.face?
  rcases m.vars.lookup? place key with _ | e
  · rfl
  · cases e <;> rfl

/-- What has a value without rendering is read as that. -/
theorem entry_of_value? {v : Value} (h : Face.value? (place, key) (m.vars.face? (place, key)) =
    some v) (render : String → Read String) : entry render place key m = .ok v m := by
  rw [entry_eq]
  revert h
  rcases m.vars.face? (place, key) with _ | face
  · rintro ⟨⟩
    rfl
  · cases face <;> rintro ⟨⟩ <;> rfl

/-- Marking an entry. -/
theorem replaces_mark (ho : m.vars.InOrder)
    (h : m.vars.face? (place, key) = some (.template source)) :
    Vars.Replaces m.vars (put place key (.rendering source) m).vars (place, key)
      (.template source) (.rendering source) :=
  Vars.replaces_mark ho h

/-- Under a mark one entry less waits. -/
theorem waitingIn_mark (ho : m.vars.InOrder)
    (h : m.vars.face? (place, key) = some (.template source)) :
    Entry.waitingIn (put place key (.rendering source) m).vars + 1 = Entry.waitingIn m.vars :=
  (replaces_mark ho h).waiting

/-- From a mark on, through progress, to what takes its place in the end. -/
theorem replaces_unmark (hp : Progress (put place key (.rendering source) m) m')
    (ho : m.vars.InOrder) (h : m.vars.face? (place, key) = some (.template source))
    (new : Entry) (hnew : new.face.isLeaf = true) :
    Vars.Replaces m'.vars (m'.vars.put place key new) (place, key) (.rendering source) new.face :=
  Vars.replaces_put hp.order (hp.rendering_iff.2 (replaces_mark ho h).here) rfl hnew

/-- The progress of a read around the progress of its render: the entry is resolved and
written down, or it is left as it was. -/
theorem progress_around (hp : Progress (put place key (.rendering source) m) m')
    (ho : m.vars.InOrder) (h : m.vars.face? (place, key) = some (.template source))
    {new : Entry} {spots : List Spot}
    (hnew : (∃ text, new = .resolved (.coerce source text) ∧ spots = [(place, key)]) ∨
      new = .template source ∧ spots = []) :
    Progress m (put place key new { m' with settled := spots ++ m'.settled }) := by
  have hmark := replaces_mark ho h
  have hleaf : new.face.isLeaf = true := by
    rcases hnew with ⟨v, rfl, -⟩ | ⟨rfl, -⟩ <;> rfl
  have hdone := replaces_unmark hp ho h new hleaf
  have helse : ∀ q, q ≠ (place, key) → (m'.vars.put place key new).face? q = m'.vars.face? q :=
    hdone.elsewhere
  refine ⟨hdone.order, fun q => ?_, ?_, ?_, ?_⟩
  · by_cases hq : q = (place, key)
    · subst hq
      rcases hnew with ⟨v, rfl, -⟩ | ⟨rfl, -⟩
      · exact .inr ⟨source, v, h, hdone.here⟩
      · exact .inl (hdone.here.trans h.symm)
    · have := hp.face q
      rw [hmark.elsewhere q hq] at this
      simpa only [put, helse q hq] using this
  · exact (hdone.height.trans hp.height).trans hmark.height
  · have hnew : new.face.waiting ≤ 1 := by
      rcases hnew with ⟨v, rfl, -⟩ | ⟨rfl, -⟩ <;> simp [Entry.face, Face.waiting]
    have hmarked := waitingIn_mark ho h
    have hput : Entry.waitingIn (m'.vars.put place key new) =
      Entry.waitingIn m'.vars + new.face.waiting := hdone.waiting
    have := hp.waiting
    simp only [put] at hmarked hput this ⊢
    omega
  · obtain ⟨more, hmore, hnodup, hmem⟩ := hp.settled
    have hnot : (place, key) ∉ more := fun hin => by
      obtain ⟨s, -, hs, -⟩ := (hmem _).1 hin
      simp [hmark.here] at hs
    have hhere : (put place key new { m' with settled := spots ++ m'.settled }).vars.face?
        (place, key) = some new.face := hdone.here
    refine ⟨spots ++ more, by simp [put, hmore], ?_, fun q => ?_⟩
    · rcases hnew with ⟨v, -, rfl⟩ | ⟨-, rfl⟩
      · exact List.nodup_cons.2 ⟨hnot, hnodup⟩
      · exact hnodup
    · by_cases hq : q = (place, key)
      · subst hq
        rw [hhere]
        rcases hnew with ⟨v, rfl, rfl⟩ | ⟨rfl, rfl⟩
        · simp [h, Entry.face]
        · simp [hnot, Entry.face]
      · have hspots : q ∉ spots := by
          rcases hnew with ⟨v, -, rfl⟩ | ⟨-, rfl⟩ <;> simp [hq]
        have hm := hmem q
        rw [hmark.elsewhere q hq] at hm
        simpa only [List.mem_append, hspots, false_or, put, helse q hq] using hm

/-- An entry whose template renders holds its value behind the render. -/
theorem face_of_settle {v : Value} (ho : m.vars.InOrder)
    (h : m.vars.face? (place, key) = some (.template source))
    (hp : Progress (put place key (.rendering source) m)
      (Finish.memory (render source (put place key (.rendering source) m))))
    (hrun : settle render place key source m = .ok v m') :
    m'.vars.face? (place, key) = some (.resolved v) := by
  unfold settle at hrun
  revert hp hrun
  rcases render source (put place key (.rendering source) m) with ⟨text, m₁⟩ | ⟨e, m₁⟩ <;>
    intro hp hrun
  · obtain ⟨rfl, rfl⟩ := EStateM.Result.ok.inj hrun
    exact (replaces_unmark hp ho h (.resolved (.coerce source text)) rfl).here
  · cases hrun

/-- **The step of a read:** where renders under the mark go together, so do reads. -/
theorem settle_together {B : Bridge} {n : Nat} {E E' : RenderError → Prop} (ho : m.vars.InOrder)
    (h : m.vars.face? (place, key) = some (.template source))
    (hv : ∀ text, Value.Related B n (.coerce source text) (.coerce source text))
    (hE : ∀ e, E e → E' (.inVariable key e))
    (hrender : Follows Eq E (Together (put place key (.rendering source) m))
      (render source (put place key (.rendering source) m))
      (render' source (put place key (.rendering source) m))) :
    Follows (Value.Related B n) E' (Together m) (settle render place key source m)
      (settle render' place key source m) := by
  unfold settle
  revert hrender
  rcases render source (put place key (.rendering source) m) with ⟨text, m₁⟩ | ⟨e, m₁⟩ <;>
    rcases render' source (put place key (.rendering source) m) with ⟨text', m₁'⟩ | ⟨e', m₁'⟩ <;>
    intro hrender
  · obtain ⟨rfl, rfl, hp⟩ := hrender
    exact ⟨hv text, rfl, progress_around hp ho h (.inl ⟨_, rfl, rfl⟩)⟩
  · exact hrender.elim
  · exact hrender.elim
  · obtain ⟨rfl, he, rfl, hp⟩ := hrender
    exact ⟨rfl, hE e he, rfl, progress_around hp ho h (.inr ⟨rfl, rfl⟩)⟩

/-- Reads of one entry go together if what its face shows may be had on both sides. -/
theorem entry_together {B : Bridge} {n : Nat} {E : RenderError → Prop} (ho : m.vars.InOrder)
    (hv : ∀ v, m.vars.face? (place, key) = some (.literal v) ∨
      m.vars.face? (place, key) = some (.resolved v) → Value.Related B n v v)
    (hkeys : ∀ keys, m.vars.face? (place, key) = some (.mapping keys) →
      Value.Related B n (.lazy (place ++ [key]) keys) (.lazy (place ++ [key]) keys))
    (hcyclic : ∀ s, m.vars.face? (place, key) = some (.rendering s) → E (.cyclic key))
    (hsettle : ∀ s, m.vars.face? (place, key) = some (.template s) →
      Follows (Value.Related B n) E (Together m) (settle render place key s m)
        (settle render' place key s m)) :
    Follows (Value.Related B n) E (Together m) (entry render place key m)
      (entry render' place key m) := by
  have hm : Together m m m := ⟨rfl, .refl ho⟩
  rw [entry_eq, entry_eq]
  rcases hf : m.vars.face? (place, key) with _ | face
  · exact ⟨.undefined key, hm⟩
  · cases face with
    | literal v => exact ⟨hv v (.inl hf), hm⟩
    | resolved v => exact ⟨hv v (.inr hf), hm⟩
    | mapping keys => exact ⟨hkeys keys hf, hm⟩
    | rendering s => exact ⟨rfl, hcyclic s hf, hm⟩
    | template s => exact hsettle s hf

/-- Names are resolved together if reads of the variables go together. -/
theorem name_together {B : Bridge} {n : Nat} {E : RenderError → Prop} {env : Environment}
    {parent : Dict Value} (ho : m.vars.InOrder)
    (hparent : ∀ v, Dict.find? parent key = some v → Value.Related B n v v)
    (hglobal : ∀ v, Dict.find? env.globals key = some v → Value.Related B n v v)
    (hentry : Follows (Value.Related B n) E (Together m) (entry render [] key m)
      (entry render' [] key m)) :
    Follows (Option.Rel (Value.Related B n)) E (Together m) (name env parent render key m)
      (name env parent render' key m) := by
  have hm : Together m m m := ⟨rfl, .refl ho⟩
  unfold name
  rcases hp : Dict.find? parent key with _ | v
  · rcases hg : Dict.find? env.globals key with _ | v
    · dsimp only
      split
      · exact hentry.bind fun x y m m' hxy hm => ⟨.some hxy, hm⟩
      · exact ⟨.none, hm⟩
    · exact ⟨.some (hglobal v hg), hm⟩
  · exact ⟨.some (hparent v hp), hm⟩

end Reading
end MailMerge
