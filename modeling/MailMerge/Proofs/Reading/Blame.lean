/-
# Whom an error blames

Over variables whose values are at hand, an error names each variable on the way to it
once at most, since each of them was waiting when its render began and is marked while
it lasts.  A cycle is closed by a marked entry, so the name it is reported for is on the
way too.  The two limits of reading, on renders and on lazy mappings one inside the
other, are never met.
-/

import MailMerge.Proofs.Reading.Depth
import MailMerge.Proofs.Value.Coerce
import MailMerge.Proofs.Variables.Origin

namespace MailMerge

namespace RenderError

/-- The names of the variables an error was met in, the outermost first. -/
def path : RenderError → List String
  | inVariable name source => name :: source.path
  | _ => []

theorem path_of_isOwn {e : RenderError} (h : e.isOwn = true) : e.path = [] := by
  cases e <;> first | rfl | cases h

end RenderError

theorem Environment.isOwn_of_parse {env : Environment} {source : String} {e : RenderError}
    (h : env.parse source = .error e) : e.isOwn = true := by
  unfold Environment.parse at h
  rcases hs : Template.ofSource env.delimiters env.whitespace (env.body source) with f | t <;>
    rw [hs] at h <;> cases h
  rfl

namespace Vars

/-- There is a mapping with these keys at a place, and it is no higher than `n`. -/
def Fits (vars : Vars) (n : Nat) (place keys : List String) : Prop :=
  ∃ inner, vars.at? place = some inner ∧ Dict.keys inner = keys ∧ Entry.heightOf inner < n

theorem Fits.succ {vars : Vars} {n : Nat} {place keys : List String} (h : vars.Fits n place keys) :
    vars.Fits (n + 1) place keys := by
  obtain ⟨inner, hin, hkeys, hn⟩ := h
  exact ⟨inner, hin, hkeys, Nat.lt_succ_of_lt hn⟩

theorem not_fits_zero {vars : Vars} {place keys : List String} : ¬ vars.Fits 0 place keys := by
  rintro ⟨_, -, -, hn⟩
  exact Nat.not_lt_zero _ hn

/-- A mapping in a mapping is lower. -/
theorem fits_of_face? {vars inner : Vars} {n : Nat} {place keys : List String} {key : String}
    (hin : vars.at? place = some inner) (hn : Entry.heightOf inner ≤ n)
    (hf : vars.face? (place, key) = some (.mapping keys)) :
    vars.Fits n (place ++ [key]) keys := by
  obtain ⟨e, he, hface⟩ := Option.map_eq_some_iff.1 hf
  cases e with
  | nested deep =>
    have hkeys : Dict.keys deep = keys := Face.mapping.inj hface
    have hdeep : Dict.find? inner key = some (.nested deep) := by
      have hbind := lookup?_eq_bind vars place key
      rw [hin] at hbind
      exact hbind.symm.trans he
    have hlow : Entry.heightOf deep + 1 ≤ Entry.heightOf inner := Entry.height_le_heightOf hdeep
    exact ⟨deep, at?_append he, hkeys, by omega⟩
  | _ => cases hface

end Vars

/-- The bridge of values whose handles are on mappings among the variables. -/
def Bridge.ground (vars : Vars) : Bridge :=
  .level vars.Fits (fun e => e.isOwn = true) (Entry.heightOf vars) Vars.Fits.succ
    (fun h => absurd h Vars.not_fits_zero) id

theorem Bridge.ground_exact (vars : Vars) : (Bridge.ground vars).Exact := fun _ _ _ _ h => h

/-- What is true of an error met in a memory: it is wrapped no more often than entries wait, no
limit is the cause, the name of a cycle is on the way or marked already, and a breakdown is
justified. -/
structure Blames (m : Memory) (e : RenderError) : Prop where
  length : e.path.length ≤ Entry.waitingIn m.vars
  limit : e.rootCause ≠ .invalid .tooDeep
  cycle : ∀ name, e.rootCause = .cyclic name →
    name ∈ e.path ∨ ∃ place s, m.vars.face? (place, name) = some (.rendering s)
  crash : e.Justified

namespace Blames

variable {m m' : Memory} {e : RenderError}

theorem of_isOwn (h : e.isOwn = true) : Blames m e := by
  refine ⟨by simp [RenderError.path_of_isOwn h], ?_, ?_, e.justified_of_isOwn h⟩
  · rw [RenderError.rootCause_of_isOwn h]
    rintro rfl
    cases h
  · intro name hname
    rw [RenderError.rootCause_of_isOwn h] at hname
    rw [hname] at h
    cases h

/-- An entry that is marked is rightly blamed for a cycle. -/
theorem cyclic {place : List String} {key s : String}
    (h : m.vars.face? (place, key) = some (.rendering s)) : Blames m (.cyclic key) :=
  ⟨Nat.zero_le _, by simp [RenderError.rootCause], fun name hname =>
    .inr ⟨place, s, (RenderError.cyclic.inj hname) ▸ h⟩, nofun⟩

/-- What is true later was true before. -/
theorem since (hp : Progress m m') (h : Blames m' e) : Blames m e :=
  ⟨h.length.trans hp.waiting, h.limit, fun name hname => (h.cycle name hname).imp_right
    fun ⟨place, s, hs⟩ => ⟨place, s, hp.rendering_iff.1 hs⟩, h.crash⟩

/-- **The step of blame:** an error under the mark of an entry, and the entry's name around it. -/
theorem inVariable {place : List String} {key source : String} (ho : m.vars.InOrder)
    (hs : m.vars.face? (place, key) = some (.template source))
    (h : Blames (Reading.put place key (.rendering source) m) e) :
    Blames m (.inVariable key e) := by
  have hmark := Reading.replaces_mark ho hs
  have hwaiting := Reading.waitingIn_mark ho hs
  have hlength := h.length
  refine ⟨?_, h.limit, fun name hname => ?_, h.crash⟩
  · rw [RenderError.path, List.length_cons]
    omega
  · rcases h.cycle name hname with hin | ⟨place', s, hf⟩
    · exact .inl (List.mem_cons_of_mem _ hin)
    · by_cases hq : (place', name) = (place, key)
      · exact .inl (by rw [(Prod.mk.inj hq).2, RenderError.path]; exact List.mem_cons_self)
      · rw [hmark.elsewhere _ hq] at hf
        exact .inr ⟨place', s, hf⟩

end Blames

namespace Reading

variable {env : Environment} {parent : Dict Value} {base : Vars} {m₀ : Memory}

/-- What a run over variables at hand finds at each point of it. -/
structure Grounded (base : Vars) (m : Memory) : Prop where
  order : m.vars.InOrder
  atHand : m.vars.Shows Value.AtHand
  mapping : ∀ spot keys, m.vars.face? spot = some (.mapping keys) →
    base.face? spot = some (.mapping keys)

theorem Grounded.progress {m m' : Memory} (h : Grounded base m) (hp : Progress m m') :
    Grounded base m' where
  order := hp.order
  atHand := hp.shows (fun s text => (Value.coerce_solid s text).atHand) h.atHand
  mapping spot keys hf := by
    rcases hp.face spot with he | ⟨s, text, -, he⟩
    · exact h.mapping spot keys (he ▸ hf)
    · simp [he] at hf

theorem Grounded.mark {m : Memory} {place : List String} {key source : String}
    (h : Grounded base m) (hs : m.vars.face? (place, key) = some (.template source)) :
    Grounded base (put place key (.rendering source) m) := by
  have hmark := replaces_mark h.order hs
  refine ⟨hmark.order, fun spot face hf => ?_, fun spot keys hf => ?_⟩
  · by_cases hq : spot = (place, key)
    · subst hq
      obtain rfl := Option.some.inj (hmark.here.symm.trans hf)
      trivial
    · rw [hmark.elsewhere spot hq] at hf
      exact h.atHand spot face hf
  · by_cases hq : spot = (place, key)
    · simp [hq, hmark.here] at hf
    · rw [hmark.elsewhere spot hq] at hf
      exact h.mapping spot keys hf

section

variable (hparent : ∀ s v, Dict.find? parent s = some v → v.AtHand)
  (hglobals : ∀ s v, Dict.find? env.globals s = some v → v.AtHand)
include hparent hglobals

/-- Errors blame the right variables if they do where a template has to be rendered. -/
theorem blames_of_settle {depth : Nat} (hg : Grounded base m₀)
    (hsettle : ∀ {n place key source m}, Progress m₀ m →
      m.vars.face? (place, key) = some (.template source) →
      Follows (Value.Related (.ground base) n) (Blames m) (Together m)
        (settle (renderAt env parent (Entry.heightOf base) depth) place key source m)
        (settle (renderAt env parent (Entry.heightOf base) depth) place key source m)) :
    Simulates (.ground base) (Blames m₀) (Together m₀)
      (access env parent (Entry.heightOf base) depth)
      (access env parent (Entry.heightOf base) depth) := by
  have hentry : ∀ {n place inner} key m, Progress m₀ m → base.at? place = some inner →
      Entry.heightOf inner ≤ n → Follows (Value.Related (.ground base) n) (Blames m) (Together m)
        (entry (renderAt env parent (Entry.heightOf base) depth) place key m)
        (entry (renderAt env parent (Entry.heightOf base) depth) place key m) := by
    intro n place inner key m hm hin hn
    have hgm := hg.progress hm
    exact entry_together hm.order
      (fun v hf => .of_atHand (hf.elim (hgm.atHand _ _) (hgm.atHand _ _)))
      (fun keys hf => .handle (Vars.fits_of_face? hin hn (hgm.mapping _ keys hf)))
      (fun s hs => .cyclic hs) fun s hs => hsettle hm hs
  rw [access_eq]
  refine ⟨rfl, rfl, fun _ he => .of_isOwn he, ?_, ?_, ?_, fun _ _ _ h => h.elim⟩
  · rintro m _ ⟨rfl, hm⟩
    exact ⟨rfl, hm.count⟩
  · rintro s m _ ⟨rfl, hm⟩
    exact (name_together hm.order (fun v hv => .of_atHand (hparent s v hv))
      (fun v hv => .of_atHand (hglobals s v hv)) (hentry s m hm rfl le_rfl)).since hm
        fun _ he => he.since hm
  · rintro n place keys key m _ ⟨inner, hin, -, hn⟩ ⟨rfl, hm⟩
    exact (hentry key m hm hin (Nat.lt_succ_iff.1 hn)).since hm fun _ he => he.since hm

/-- **Errors blame the right variables,** whatever is read. -/
theorem blames_access {depth : Nat} (hg : Grounded base m₀)
    (hd : Entry.waitingIn m₀.vars ≤ depth) :
    Simulates (.ground base) (Blames m₀) (Together m₀)
      (access env parent (Entry.heightOf base) depth)
      (access env parent (Entry.heightOf base) depth) := by
  induction depth generalizing m₀ with
  | zero =>
    refine blames_of_settle hparent hglobals hg fun hm hs => ?_
    have := Vars.waitingIn_pos hs
    have := hm.waiting
    omega
  | succ depth ih =>
    refine blames_of_settle hparent hglobals hg fun {n place key source m} hm hs => ?_
    have hgm := hg.progress hm
    have hle := hm.waiting
    have hmarked := waitingIn_mark hm.order hs
    have hrender := (Parallel.renderSource env source (Bridge.ground_exact base)
      fun _ => Environment.isOwn_of_parse).follows (ih (hgm.mark hs) (by omega))
        ⟨rfl, .refl (hgm.mark hs).order⟩
    exact settle_together hm.order hs (fun text => .of_atHand (Value.coerce_solid _ text).atHand)
      (fun _ he => he.inVariable hm.order hs) hrender

end

end Reading
end MailMerge
