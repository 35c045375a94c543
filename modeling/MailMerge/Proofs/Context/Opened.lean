/-
# Values with everything lazy in them read

A context opens a value if every entry behind the handles in it can be read; `Context.opened` is
then the value with plain mappings in place of the handles.  In a context at rest reads do not
depend on one another, so a list is opened item by item and a mapping entry by entry, and the
operator `==` compares what two values are when opened (`Context.Opens.equates_iff`).
-/

import MailMerge.Proofs.Context.Steady
import MailMerge.Proofs.Reading.Expansion

namespace MailMerge

namespace Value

theorem materialize_list (a : Access) (vs : List Value) :
    (list vs).materialize a = list <$> vs.mapM fun v => v.materialize a := by
  unfold materialize
  cases a.height <;> simp only [expand, expandWith, expandItems_eq_mapM, map_eq_pure_bind]

theorem materialize_map (a : Access) (es : Dict Value) :
    (map es).materialize a = map <$> es.mapM fun e => (e.1, ·) <$> e.2.materialize a := by
  unfold materialize
  cases a.height <;> simp only [expand, expandWith, expandEntries_eq_mapM, map_eq_pure_bind]

end Value

/-- A list is mapped to what its members are mapped to, each on its own. -/
theorem mapM_eq_ok_iff {ε α β : Type} {f : α → Except ε β} {p : α → Prop} {g : α → β}
    (hf : ∀ x y, f x = .ok y ↔ p x ∧ g x = y) {xs : List α} {ys : List β} :
    xs.mapM f = .ok ys ↔ (∀ x ∈ xs, p x) ∧ xs.map g = ys := by
  induction xs generalizing ys with
  | nil => simp [pure, Except.pure]
  | cons x xs ih =>
    rw [List.mapM_cons, List.forall_mem_cons, List.map_cons]
    constructor
    · intro h
      rcases hx : f x with e | y <;> rw [hx] at h
      · cases h
      rcases hxs : xs.mapM f with e | zs <;> rw [hxs] at h
      · cases h
      obtain rfl := Except.ok.inj h
      obtain ⟨hp, rfl⟩ := (hf x y).1 hx
      obtain ⟨hps, rfl⟩ := ih.1 hxs
      exact ⟨⟨hp, hps⟩, rfl⟩
    · rintro ⟨⟨hp, hps⟩, rfl⟩
      rw [(hf x _).2 ⟨hp, rfl⟩, ih.2 ⟨hps, rfl⟩]
      rfl

namespace Context

variable {c : Context} {v w : Value}

theorem steady_materialize (c : Context) (v : Value) : c.Steady fun a => v.materialize a :=
  (Parallel.materialize Value.Related.refl_all).imp fun _ _ h => h.1

theorem Steady.mapM {α β : Type} {f : α → Access → Read β} (h : ∀ x, c.Steady (f x))
    (xs : List α) : c.Steady fun a => xs.mapM fun x => f x a :=
  (Parallel.mapM (List.forall₂_same.2 fun _ _ => rfl) fun _ _ hxy => hxy ▸ h _).imp
    fun _ _ hys => List.forall₂_eq_eq_eq ▸ hys

/-- In a context at rest, each member of a list gives what it gives on its own. -/
theorem AtRest.run_mapM {α β : Type} {f : α → Access → Read β} (h : c.AtRest)
    (hf : ∀ x, c.Steady (f x)) (xs : List α) :
    (c.run fun a => xs.mapM fun x => f x a).1 = xs.mapM fun x => (c.run (f x)).1 := by
  induction xs with
  | nil => rw [run_result]; rfl
  | cons x xs ih =>
    have hrest : ∀ y, c.Steady fun a => xs.mapM (fun x => f x a) >>= fun ys => pure (y :: ys) :=
      fun y => (Steady.mapM hf xs).bind fun ys => .pure rfl
    simp only [List.mapM_cons]
    rw [h.run_bind (hf x) hrest]
    refine congrArg _ (funext fun y => ?_)
    rw [h.run_bind (Steady.mapM hf xs) fun ys => .pure rfl, ih]
    rfl

/-- What is made of the members of a list is made of what each gives on its own. -/
theorem AtRest.of_run_mapM {α β : Type} {f : α → Access → Read β} {p : α → Prop} {g : α → β}
    {make : List β → Value} {xs : List α} (h : c.AtRest) (hf : ∀ x, c.Steady (f x))
    (hone : ∀ x y, (c.run (f x)).1 = .ok y ↔ p x ∧ g x = y)
    (hrun : (c.run fun a => make <$> xs.mapM fun x => f x a).1 = .ok w) :
    (∀ x ∈ xs, p x) ∧ make (xs.map g) = w := by
  rw [run_map, h.run_mapM hf] at hrun
  rcases hmap : xs.mapM fun x => (c.run (f x)).1 with e | ys <;> rw [hmap] at hrun
  · cases hrun
  obtain ⟨hxs, rfl⟩ := (mapM_eq_ok_iff hone).1 hmap
  exact ⟨hxs, Except.ok.inj hrun⟩

/-- Everything lazy in a value can be read, and nothing in it is undefined. -/
def Opens (c : Context) (v : Value) : Prop := ∃ w, (c.run fun a => v.materialize a).1 = .ok w

/-- A value with plain mappings in place of the lazy ones. -/
def opened (c : Context) (v : Value) : Value :=
  (c.run fun a => v.materialize a).1.toOption.getD .null

/-- `v == w` is true in the context. -/
def Equates (c : Context) (v w : Value) : Prop :=
  (c.run fun a => Operator.apply a .eq v w).1 = .ok (.bool true)

theorem run_materialize_iff :
    (c.run fun a => v.materialize a).1 = .ok w ↔ c.Opens v ∧ c.opened v = w := by
  constructor
  · intro h
    exact ⟨⟨w, h⟩, by rw [opened, h]; rfl⟩
  · rintro ⟨⟨u, hu⟩, rfl⟩
    rw [opened, hu]
    rfl

namespace Opens

variable {vs : List Value} {es : Dict Value}

theorem run (h : c.Opens v) : (c.run fun a => v.materialize a).1 = .ok (c.opened v) :=
  run_materialize_iff.2 ⟨h, rfl⟩

theorem list (h : c.Opens (.list vs)) (hc : c.AtRest) :
    (∀ v ∈ vs, c.Opens v) ∧ c.opened (.list vs) = .list (vs.map c.opened) := by
  have hrun := h.run
  simp only [Value.materialize_list] at hrun
  obtain ⟨hvs, hlist⟩ :=
    hc.of_run_mapM (steady_materialize c) (fun _ _ => run_materialize_iff) hrun
  exact ⟨hvs, hlist.symm⟩

theorem map (h : c.Opens (.map es)) (hc : c.AtRest) :
    (∀ e ∈ es, c.Opens e.2) ∧
      c.opened (.map es) = .map (es.map fun e => (e.1, c.opened e.2)) := by
  have hrun := h.run
  simp only [Value.materialize_map] at hrun
  have hsteady : ∀ e : String × Value, c.Steady fun a => (e.1, ·) <$> e.2.materialize a :=
    fun e => (Parallel.map (steady_materialize c e.2) fun _ _ => congrArg _)
  have hentry : ∀ (e d : String × Value),
      (c.run fun a => (e.1, ·) <$> e.2.materialize a).1 = .ok d ↔
        c.Opens e.2 ∧ (e.1, c.opened e.2) = d := by
    intro e d
    rw [run_map]
    constructor
    · intro h
      rcases hrun : (c.run fun a => e.2.materialize a).1 with d | w <;> rw [hrun] at h
      · cases h
      obtain rfl := Except.ok.inj h
      obtain ⟨hopens, rfl⟩ := run_materialize_iff.1 hrun
      exact ⟨hopens, rfl⟩
    · rintro ⟨h, rfl⟩
      rw [h.run]
      rfl
  obtain ⟨hes, hmap⟩ := hc.of_run_mapM hsteady hentry hrun
  exact ⟨hes, hmap.symm⟩

theorem isUndefined_eq_false (h : c.Opens v) : v.isUndefined = false := by
  obtain ⟨w, hw⟩ := h
  cases v with
  | undefined s =>
    rw [run_result, Value.materialize] at hw
    cases hheight : c.access.height <;> rw [hheight] at hw <;> cases hw
  | _ => rfl

theorem of_solid (hv : v.Solid) : c.opened v = v := by
  have hrun : (c.run fun a => v.materialize a).1 = .ok v := by
    simp only [Value.materialize, Value.expand_of_solid hv]
    rw [run_result]
    rfl
  exact (run_materialize_iff.1 hrun).2

/-- A value without handles stays as it is. -/
theorem of_atHand (h : c.Opens v) (hc : c.AtRest) (hv : v.AtHand) : c.opened v = v := by
  induction v using Value.induction with
  | list vs ih =>
    obtain ⟨hvs, hlist⟩ := h.list hc
    have hitems : ∀ v ∈ vs, c.opened v = v := fun v hmem =>
      ih v hmem (hvs v hmem) (Value.atHand_list.1 hv v hmem)
    rw [hlist, List.map_congr_left hitems, List.map_id']
  | map es ih =>
    obtain ⟨hes, hmap⟩ := h.map hc
    have hentries : ∀ e ∈ es, (e.1, c.opened e.2) = e := fun e hmem =>
      congrArg (e.1, ·) (ih e hmem (hes e hmem) (Value.atHand_map.1 hv e hmem))
    rw [hmap, List.map_congr_left hentries, List.map_id']
  | lazy => exact absurd hv Value.not_atHand_lazy
  | undefined s => cases h.isUndefined_eq_false
  | _ => exact of_solid rfl

/-- The operator `==` compares opened values. -/
theorem equates_iff (hv : c.Opens v) (hw : c.Opens w) (hc : c.AtRest) :
    c.Equates v w ↔ (c.opened v).beq (c.opened w) = true := by
  have hleft : ∀ v' : Value, c.Steady fun a => w.materialize a >>= fun w' =>
      pure (Value.bool (v'.beq w')) := fun v' =>
    (steady_materialize c w).bind fun w' => .pure rfl
  have hrun : (c.run fun a => Operator.apply a .eq v w).1 =
      .ok (.bool ((c.opened v).beq (c.opened w))) := by
    simp only [Operator.apply, Operator.equal, bind_assoc, pure_bind]
    rw [hc.run_bind (steady_materialize c v) hleft, hv.run]
    change (c.run fun a => w.materialize a >>= fun w' => pure _).1 = _
    rw [hc.run_bind (steady_materialize c w) fun w' => .pure rfl, hw.run]
    rfl
  rw [Equates, hrun, Except.ok.injEq, Value.bool.injEq]

end Opens

end Context
end MailMerge
