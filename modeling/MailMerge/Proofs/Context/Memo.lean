/-
# What a context remembers

Reads and assignments in any order keep the memory in shape (`Context.Memoizes`): no
mark outlives an operation, a read changes waiting entries only and only to what their
templates render, a waiting entry that is read with success holds its value, an assignment
changes its own variable, and what is resolved is returned from then on without rendering
anything.
-/

import MailMerge.Proofs.Context.Order
import Mathlib.Data.List.Nodup

namespace MailMerge

/-- An operation on a context. -/
inductive Operation where
  | read (step : ReadStep)
  | set (key : String) (v : Value)
  | update (values : Dict Value)

namespace Operation

/-- The values that an operation brings have a property. -/
def Brings (q : Value → Prop) : Operation → Prop
  | read _ => True
  | set _ v => q v
  | update values => q (.map values)

instance (q : Value → Prop) [DecidablePred q] (op : Operation) : Decidable (op.Brings q) :=
  match op with
  | .read _ => inferInstanceAs (Decidable True)
  | .set _ v => inferInstanceAs (Decidable (q v))
  | .update values => inferInstanceAs (Decidable (q (.map values)))

/-- Whether an operation gives a variable a new value. -/
def Assigns (key : String) : Operation → Prop
  | read _ => False
  | set k _ => k = key
  | update values => key ∈ Dict.keys values

end Operation

namespace Context

/-- Performs an operation. -/
def perform (c : Context) : Operation → Context
  | .read step => (c.read step).2
  | .set key v => c.set key v
  | .update values => c.update values

/-- The context behind operations in a row. -/
def performAll (c : Context) (ops : List Operation) : Context := ops.foldl perform c

/-- Operations leave the environment and the parent scope alone. -/
theorem performAll_scope (c : Context) (ops : List Operation) :
    (c.performAll ops).env = c.env ∧ (c.performAll ops).parent = c.parent := by
  induction ops generalizing c with
  | nil => exact ⟨rfl, rfl⟩
  | cons op ops ih =>
    have hop : (c.perform op).env = c.env ∧ (c.perform op).parent = c.parent := by
      cases op with
      | read step =>
        rw [perform, read_eq_run, run_memory]
        exact ⟨rfl, rfl⟩
      | _ => exact ⟨rfl, rfl⟩
    obtain ⟨henv, hparent⟩ := ih (c.perform op)
    exact ⟨henv.trans hop.1, hparent.trans hop.2⟩

namespace AtRest

variable {c : Context} {spot : Spot}

theorem readFrom (h : c.AtRest) (step : ReadStep) : ReadFrom c (c.read step).2 :=
  ((ReadFrom.refl h).read h step).2

theorem read (h : c.AtRest) (step : ReadStep) : (c.read step).2.AtRest := by
  have hp := (h.readFrom step).progress
  refine ⟨hp.order, ?_⟩
  rintro spot _ hs s rfl
  exact h.unmarked spot _ (hp.rendering_iff.1 hs) s rfl

/-- **The step of an operation:** it leaves a context at rest. -/
theorem perform (h : c.AtRest) {op : Operation} (hop : op.Brings Value.InOrder) :
    (c.perform op).AtRest := by
  cases op with
  | read step => exact h.read step
  | set key v =>
    exact ⟨h.order.set hop, h.unmarked.set .unmarked trivial⟩
  | update values => exact ⟨h.order.update hop, h.unmarked.update .unmarked trivial⟩

theorem performAll (h : c.AtRest) {ops : List Operation}
    (hops : ∀ op ∈ ops, op.Brings Value.InOrder) :
    (c.performAll ops).AtRest := by
  induction ops generalizing c with
  | nil => exact h
  | cons op ops ih =>
    exact ih (h.perform (hops op List.mem_cons_self)) fun op ho =>
      hops op (List.mem_cons_of_mem _ ho)

/-- What holds of the values that entries show, of those that operations bring and of what texts
stand for, holds of the values that entries show in the end. -/
theorem shows_performAll {q : Value → Prop} (hq : ∀ es, q (.map es) → ∀ e ∈ es, q e.2)
    (hcoerce : ∀ s text, q (.coerce s text)) (h : c.AtRest) (hv : c.vars.Shows q)
    {ops : List Operation}
    (hops : ∀ op ∈ ops, op.Brings Value.InOrder ∧ op.Brings q) :
    (c.performAll ops).vars.Shows q := by
  induction ops generalizing c with
  | nil => exact hv
  | cons op ops ih =>
    obtain ⟨ho, hb⟩ := hops op List.mem_cons_self
    refine ih (h.perform ho) ?_ fun op hop => hops op (List.mem_cons_of_mem _ hop)
    cases op with
    | read step => exact (h.readFrom step).progress.shows hcoerce hv
    | set key v => exact hv.set (.shows hq) hb
    | update values => exact hv.update (.shows hq) hb

end AtRest

/-- What holds of the memory of a context at any time, whatever is done next. -/
structure Memoizes (c : Context) : Prop where
  /-- No entry is left marked. -/
  unmarked : ∀ spot s, c.vars.face? spot ≠ some (.rendering s)
  /-- A read leaves an entry as it is, or puts in the place of a template what it renders. -/
  read : ∀ step spot, (c.read step).2.vars.face? spot = c.vars.face? spot ∨
    ∃ s text, c.vars.face? spot = some (.template s) ∧ (c.render s).1 = .ok text ∧
      (c.read step).2.vars.face? spot = some (.resolved (.coerce s text))
  /-- A waiting entry that is read with success holds the value that the read gives. -/
  settles : ∀ place key s v m, c.vars.face? (place, key) = some (.template s) →
    c.access.entry place key c.memory = .ok v m → m.vars.face? (place, key) = some (.resolved v)
  /-- An assignment changes what is under its own key. -/
  assign : ∀ op spot, ¬ (∃ step, op = .read step) → ¬ op.Assigns (Spot.root spot) →
    (c.perform op).vars.face? spot = c.vars.face? spot
  /-- An entry that is settled is read without rendering and without any change. -/
  shown : ∀ place key e, c.vars.lookup? place key = some e → e.isSettled = true →
    ∃ v, ∀ render, Reading.entry render place key c.memory = .ok v c.memory
  /-- Until its variable is assigned again, an entry is resolved at most once, and stays so. -/
  once : ∀ ops spot, (∀ op ∈ ops, op.Brings Value.InOrder ∧ ¬ op.Assigns (Spot.root spot)) →
    ∃ new, (c.performAll ops).memory.settled = new ++ c.memory.settled ∧ new.count spot ≤ 1 ∧
      (spot ∈ new → ∃ v, (c.performAll ops).vars.face? spot = some (.resolved v))
  /-- Until its variable is assigned again, a resolved entry is read as the value it has. -/
  kept : ∀ ops spot v, (∀ op ∈ ops, op.Brings Value.InOrder ∧ ¬ op.Assigns (Spot.root spot)) →
    c.vars.face? spot = some (.resolved v) → ∀ render,
      Reading.entry render spot.1 spot.2 (c.performAll ops).memory =
        .ok v (c.performAll ops).memory

section Memoizes

variable {c : Context} {spot : Spot}

/-- A read puts what templates render in their places. -/
theorem AtRest.face_read (h : c.AtRest) (step : ReadStep) (spot : Spot) :
    (c.read step).2.vars.face? spot = c.vars.face? spot ∨
      ∃ s text, c.vars.face? spot = some (.template s) ∧ (c.render s).1 = .ok text ∧
        (c.read step).2.vars.face? spot = some (.resolved (.coerce s text)) := by
  have hread := h.readFrom step
  rcases hread.sound.face spot with he | ⟨s, hs, he | ⟨text, he, hsettles⟩⟩
  · exact .inl he
  · exact absurd rfl ((h.read step).unmarked spot _ he s)
  · refine .inr ⟨s, text, hs, ?_, he⟩
    have hfresh : Read.Gives _ (c.render s).1 :=
      h.gives_run (Parallel.renderSource c.env s (Bridge.all_exact _) fun _ _ => trivial)
    refine hfresh.unique (hsettles c.vars _ (.refl h.order) (fun q v t _ _ ht => ?_) le_rfl)
    exact h.unmarked q _ ht t rfl

/-- What is settled needs no rendering. -/
theorem entry_of_isSettled {m : Memory} {place : List String} {key : String} {e : Entry}
    (he : m.vars.lookup? place key = some e) (hs : e.isSettled = true) :
    ∃ v, ∀ render, Reading.entry render place key m = .ok v m := by
  have hvalue : ∃ v, Face.value? (place, key) (some e.face) = some v := by
    cases e with
    | template s => cases hs
    | rendering s => cases hs
    | _ => exact ⟨_, rfl⟩
  obtain ⟨v, hv⟩ := hvalue
  rw [← Vars.face?_of_lookup? he] at hv
  exact ⟨v, Reading.entry_of_value? hv⟩

/-- What operations that do not assign a variable do to an entry under it: they resolve it at
most once, and never again what is resolved. -/
theorem AtRest.spot_performAll (h : c.AtRest) {ops : List Operation}
    (hops : ∀ op ∈ ops, op.Brings Value.InOrder ∧ ¬ op.Assigns (Spot.root spot)) :
    ∃ new, (c.performAll ops).memory.settled = new ++ c.memory.settled ∧ new.count spot ≤ 1 ∧
      (spot ∈ new → ∃ v, (c.performAll ops).vars.face? spot = some (.resolved v)) ∧
      ((∀ s, c.vars.face? spot ≠ some (.template s)) →
        spot ∉ new ∧ (c.performAll ops).vars.face? spot = c.vars.face? spot) := by
  induction ops generalizing c with
  | nil => exact ⟨[], rfl, by simp, fun h => absurd h List.not_mem_nil,
      fun _ => ⟨List.not_mem_nil, rfl⟩⟩
  | cons op ops ih =>
    obtain ⟨hop, hassigns⟩ := hops op List.mem_cons_self
    obtain ⟨new, hnew, honce, hresolved, hkept⟩ := ih (h.perform hop) fun op ho =>
      hops op (List.mem_cons_of_mem _ ho)
    cases op with
    | read step =>
      have hp := (h.readFrom step).progress
      obtain ⟨more, hmore, hnodup, hmem⟩ := hp.settled
      have hsettled : (c.performAll (.read step :: ops)).memory.settled =
          (new ++ more) ++ c.memory.settled := by
        rw [List.append_assoc, ← hmore]
        exact hnew
      have hresolves : spot ∈ more → ∃ v, (c.perform (.read step)).vars.face? spot =
          some (.resolved v) := fun hin => by
        obtain ⟨s, v, -, hv⟩ := (hmem spot).1 hin
        exact ⟨v, hv⟩
      refine ⟨new ++ more, hsettled, ?_, fun hin => ?_, fun hn => ?_⟩
      · rw [List.count_append]
        -- what this read resolves, no later operation resolves again
        by_cases hin : spot ∈ more
        · obtain ⟨v, hv⟩ := hresolves hin
          have hnot := (hkept fun t ht => by simp [hv] at ht).1
          have := List.nodup_iff_count_le_one.1 hnodup spot
          rw [List.count_eq_zero_of_not_mem hnot]
          omega
        · rw [List.count_eq_zero_of_not_mem hin]
          omega
      · rcases List.mem_append.1 hin with hin | hin
        · exact hresolved hin
        · obtain ⟨v, hv⟩ := hresolves hin
          exact ⟨v, (hkept fun t ht => by simp [hv] at ht).2.trans hv⟩
      · have hface : (c.perform (.read step)).vars.face? spot = c.vars.face? spot := hp.face_eq hn
        have hnot : spot ∉ more := fun hin => by
          obtain ⟨s, v, hs, -⟩ := (hmem spot).1 hin
          exact hn s hs
        obtain ⟨hnone, hlast⟩ := hkept fun s => hface ▸ hn s
        exact ⟨fun hin => (List.mem_append.1 hin).elim hnone hnot, hlast.trans hface⟩
    | set key v =>
      have hface : (c.perform (.set key v)).vars.face? spot = c.vars.face? spot :=
        Vars.face?_set fun he => hassigns he.symm
      rw [hface] at hkept
      exact ⟨new, hnew, honce, hresolved, hkept⟩
    | update values =>
      have hface : (c.perform (.update values)).vars.face? spot = c.vars.face? spot :=
        Vars.face?_update hassigns
      rw [hface] at hkept
      exact ⟨new, hnew, honce, hresolved, hkept⟩

theorem AtRest.memoizes (h : c.AtRest) : c.Memoizes where
  unmarked spot s hs := h.unmarked spot _ hs s rfl
  read := h.face_read
  settles _ _ _ _ _ hs hrun := Reading.face_of_entry h.order hs le_rfl hrun
  assign op spot hread hassigns := by
    cases op with
    | read step => exact absurd ⟨step, rfl⟩ hread
    | set key v => exact Vars.face?_set fun he => hassigns he.symm
    | update values => exact Vars.face?_update hassigns
  shown place key e he hs := entry_of_isSettled he hs
  once ops spot hops := by
    obtain ⟨new, hnew, honce, hresolved, -⟩ := h.spot_performAll hops
    exact ⟨new, hnew, honce, hresolved⟩
  kept ops spot v hops hv render := by
    obtain ⟨_, -, -, -, hkept⟩ := h.spot_performAll hops
    have hlast := (hkept (by simp [hv])).2.trans hv
    exact Reading.entry_of_value? (congrArg (Face.value? spot) hlast) render

end Memoizes

/-- **Every context memoizes,** whatever was done to it. -/
theorem memoizes_performAll (env : Environment) (parent values : Dict Value)
    (hv : (Value.map values).InOrder) (ops : List Operation)
    (hops : ∀ op ∈ ops, op.Brings Value.InOrder) :
    ((ofValues env parent values).performAll ops).Memoizes :=
  ((AtRest.ofValues env parent hv).performAll hops).memoizes

/-- A cycle is met, broken, and read again: the value stays. -/
theorem memoizes_performAll_broken :
    ((ofValues {} [] [("a", .str "{{ b }}!"), ("b", .str "{{ a }}")]).performAll
      [.read (.get "a"), .set "b" (.str "x"), .read (.get "a")]).Memoizes :=
  memoizes_performAll {} [] _ (by decide) _ (by decide)

end Context
end MailMerge
