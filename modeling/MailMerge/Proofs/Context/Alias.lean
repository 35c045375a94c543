/-
# Variables that stand for a name

A variable whose source only outputs a name is an alias of that name.  Where the name has a value,
the alias is read as what the text of the value stands for (`Context.AtRest.entry_alias`).  An
integer survives the way through its digits, all but the least one, whose magnitude is no
integer; and arithmetic cannot tell an expression from another one with the same value.

That no cycle is met on the way needs no look at what the name depends on.  Reads do not depend
on earlier reads, so the name may be read first, and then it is there without rendering.
-/

import MailMerge.Proofs.Context.Steady
import MailMerge.Proofs.Template.Output
import MailMerge.Proofs.Value.Restore

namespace MailMerge
namespace Context

variable {c : Context} {s : String} {v : Value}

/-! ### Names that are there -/

/-- A name stands for a value, and nothing has to be rendered for it. -/
inductive Knows (c : Context) (s : String) (v : Value) : Prop
  | parent : Dict.find? c.parent s = some v → Knows c s v
  | global : Dict.find? c.parent s = none → Dict.find? c.env.globals s = some v → Knows c s v
  | entry : Dict.find? c.parent s = none → Dict.find? c.env.globals s = none →
    Face.value? ([], s) (c.vars.face? ([], s)) = some v → Knows c s v

theorem Knows.name_eq (h : c.Knows s v) (render : String → Read String) :
    ∃ o, Reading.name c.env c.parent render s c.memory = .ok o c.memory ∧
      o.getD (.undefined s) = v := by
  unfold Reading.name
  cases h with
  | parent hp => exact ⟨some v, by rw [hp], rfl⟩
  | global hp hg => exact ⟨some v, by rw [hp, hg], rfl⟩
  | entry hp hg he =>
    rw [hp, hg]
    dsimp only
    rw [Vars.has_eq_isSome_face?]
    rcases hf : c.memory.vars.face? ([], s) with _ | face
    · rw [show c.vars.face? ([], s) = none from hf] at he
      exact ⟨none, rfl, Option.some.inj he⟩
    · have hread := Reading.entry_of_value? (m := c.memory) he render
      exact ⟨some v, Read.bind_congr (y := pure v) hread fun v => pure (some v), rfl⟩

/-- Marking an entry that waits leaves names known. -/
theorem Knows.mark (h : c.Knows s v) (ho : c.vars.InOrder) {spot : Spot} {source : String}
    (hs : c.vars.face? spot = some (.template source)) :
    { c with memory := Reading.put spot.1 spot.2 (.rendering source) c.memory : Context }.Knows
      s v := by
  cases h with
  | parent hp => exact .parent hp
  | global hp hg => exact .global hp hg
  | entry hp hg he =>
    refine .entry hp hg ?_
    have hne : ([], s) ≠ spot := by
      rintro rfl
      rw [hs] at he
      cases he
    exact (congrArg _ ((Vars.replaces_mark ho hs).elsewhere _ hne)).trans he

/-- What a successful read of an entry gives is there afterwards. -/
theorem value?_of_entry {render : String → Read String} {m m' : Memory}
    (h : Reading.entry render [] s m = .ok v m') :
    Face.value? ([], s) (m'.vars.face? ([], s)) = some v := by
  rw [Reading.entry_eq] at h
  rcases hf : m.vars.face? ([], s) with _ | face
  · rw [hf] at h
    cases h
    rw [hf]
    rfl
  · rw [hf] at h
    cases face with
    | template source =>
      dsimp only [Reading.settle] at h
      split at h
      · cases h
        simp only [Reading.put, Vars.put, Vars.face?, Vars.lookup?, Dict.find?_insert, if_pos]
        rfl
      · cases h
    | rendering source => cases h
    | _ =>
      cases h
      rw [hf]
      rfl

/-- A name that was read is known. -/
theorem knows_get (hv : (c.get s).1 = .ok v) : (c.get s).2.Knows s v := by
  obtain ⟨render, hname⟩ : ∃ render, c.access.name = Reading.name c.env c.parent render := by
    rw [access, Reading.access_eq]
    exact ⟨_, rfl⟩
  have hget : c.get s = c.run fun a => (fun o => o.getD (.undefined s)) <$> a.name s := by
    simp only [get, bind_pure_comp]
  rw [hget, run_result, Finish.result_map, hname] at hv
  rw [hget, run_memory, Finish.memory_map, hname]
  rcases hrun : Reading.name c.env c.parent render s c.memory with ⟨o, m⟩ | ⟨e, m⟩ <;>
    rw [hrun] at hv
  · obtain rfl : o.getD (.undefined s) = v := Except.ok.inj hv
    rw [Reading.name] at hrun
    split at hrun
    · cases hrun
      exact .parent ‹_›
    · split at hrun
      · cases hrun
        exact .global ‹_› ‹_›
      · split at hrun
        · change EStateM.map some _ _ = _ at hrun
          unfold EStateM.map at hrun
          rcases hentry : Reading.entry render [] s c.memory with ⟨w, m'⟩ | ⟨e, m'⟩ <;>
            rw [hentry] at hrun <;> cases hrun
          exact .entry ‹_› ‹_› (value?_of_entry hentry)
        · cases hrun
          have hnone : c.memory.vars.face? ([], s) = none := by
            rw [← Option.not_isSome_iff_eq_none, ← Vars.has_eq_isSome_face?]
            assumption
          exact .entry ‹_› ‹_› (congrArg _ hnone)
  · cases hv

/-- **A known name is written out as its value.** -/
theorem Knows.render_eq (h : c.Knows s v) (hv : v.Solid) (hd : c.env.delimiters = {})
    (hs : IsName s) (depth height : Nat) :
    Evaluation.renderSource c.env (Reading.access c.env c.parent height depth)
      (c.env.outputOf s) c.memory = .ok v.display c.memory := by
  obtain ⟨o, ho, rfl⟩ := h.name_eq (Reading.renderAt c.env c.parent height depth)
  have hname : (Reading.access c.env c.parent height depth).name s c.memory =
      .ok o c.memory := by
    rw [Reading.access_eq]
    exact ho
  rw [Environment.renderSource_name hd hs, Read.bind_congr (y := pure o) hname, pure_bind,
    Value.output_of_solid hv]
  rfl

/-! ### Aliases -/

/-- Under its mark an alias of a known name renders to the text of the value. -/
theorem Knows.settle_eq (h : c.Knows s v) (ho : c.vars.InOrder) (hv : v.Solid)
    (hd : c.env.delimiters = {}) (hs : IsName s) {spot : Spot}
    (hspot : c.vars.face? spot = some (.template (c.env.outputOf s))) :
    (c.run fun a => a.entry spot.1 spot.2).1 = .ok (.coerce (c.env.outputOf s) v.display) := by
  obtain ⟨depth, hdepth⟩ := Nat.exists_eq_add_one.2 (Vars.waitingIn_pos hspot)
  have hrender := (h.mark ho hspot).render_eq hv hd hs depth (Entry.heightOf c.vars)
  rw [run_result, access, Reading.access_eq, hdepth]
  change Finish.result (Reading.entry _ _ _ _) = _
  rw [Reading.entry_eq, show c.memory.vars.face? (spot.1, spot.2) = _ from hspot]
  dsimp only [Reading.settle, Reading.renderAt]
  rw [hrender]
  rfl

/-- **An alias is read as what the text of its name's value stands for.** -/
theorem AtRest.entry_alias (h : c.AtRest) (hd : c.env.delimiters = {}) (hs : IsName s)
    (hget : (c.get s).1 = .ok v) (hv : v.Solid) {spot : Spot}
    (hspot : c.vars.face? spot = some (.template (c.env.outputOf s))) :
    (c.run fun a => a.entry spot.1 spot.2).1 = .ok (.coerce (c.env.outputOf s) v.display) := by
  have hread : ReadFrom c (c.get s).2 := h.readFrom (.get s)
  have hrest : (c.get s).2.AtRest := h.read (.get s)
  have hknows : (c.get s).2.Knows s v := knows_get hget
  have hface := h.face_read (.get s) spot
  change (c.get s).2.vars.face? spot = _ ∨ ∃ t text, _ ∧ _ ∧
    (c.get s).2.vars.face? spot = some (.resolved (.coerce t text)) at hface
  generalize (c.get s).2 = c₁ at *
  -- the same read behind a read of the name
  rw [(h.gives_run (steady_entry c spot)).unique (hread.run h (steady_entry c spot)).1]
  rw [← hread.env] at hd hspot ⊢
  rcases hface with hface | ⟨t, text, ht, htext, hface⟩
  · exact hknows.settle_eq hrest.order hv hd hs (hface.trans hspot)
  · obtain rfl : t = c₁.env.outputOf s := by
      rw [hspot] at ht
      cases ht
      rfl
    -- what the alias rendered while the name was read is what it renders now
    have hagain := (hread.read h (.render (c₁.env.outputOf s))).1
    rw [Context.read, Context.read, htext, render, run_result, access,
      hknows.render_eq hv hd hs] at hagain
    obtain rfl : v.display = text := by
      cases hagain
      rfl
    rw [run_result, access, Reading.access_eq]
    exact congrArg Finish.result (Reading.entry_of_value? (m := c₁.memory)
      (congrArg (Face.value? spot) hface) _)

/-! ### Integers -/

theorem outputOf_ne_toString {env : Environment} (hd : env.delimiters = {}) (s : String)
    (n : Int64) : env.outputOf s ≠ toString n.toInt := by
  intro heq
  have hchars := congrArg String.toList heq
  rw [Environment.toList_outputOf hd, Number.toList_toString] at hchars
  split_ifs at hchars
  · cases hchars
  · have hdigit := Number.isDigit_of_mem_toDigits (hchars ▸ List.mem_cons_self)
    exact absurd hdigit (by decide)

/-- What the digits of an integer stand for. -/
theorem coerce_int {env : Environment} (hd : env.delimiters = {}) (s : String) (n : Int64) :
    Value.coerce (env.outputOf s) (Value.display (.int n)) =
      if n = Int64.minValue then .str "-9223372036854775808" else .int n := by
  have hne : env.outputOf s ≠ Value.display (.int n) := outputOf_ne_toString hd s n
  split_ifs with hn
  · subst hn
    rw [Value.coerce, if_neg hne.symm]
    rfl
  · have hrestorable : (Value.int n).Restorable := by
      simpa [Value.Restorable, Value.every, Value.comesBack] using hn
    exact Value.coerce_display hrestorable (show Value.InOrder (.int n) from rfl)
      (by rintro _ ⟨⟩) hne

/-- **An alias of an integer is that integer,** unless it is the least one; then it is the text of
its digits.  Whatever was read before, the alias may stand for its name anywhere in arithmetic. -/
theorem AtRest.alias_int (h : c.AtRest) (hd : c.env.delimiters = {}) (hs : IsName s) {n : Int64}
    (hget : (c.get s).1 = .ok (.int n)) {spot : Spot}
    (hspot : c.vars.face? spot = some (.template (c.env.outputOf s))) (steps : List ReadStep) :
    ((c.readAll steps).run fun a => a.entry spot.1 spot.2).1 =
      .ok (if n = Int64.minValue then .str "-9223372036854775808" else .int n) ∧
    (Dict.find? c.parent (Spot.root spot) = none →
      Dict.find? c.env.globals (Spot.root spot) = none → n ≠ Int64.minValue →
      ((c.readAll steps).eval (.path spot)).1 = .ok (.int n) ∧
      ∀ e e', Expr.Swaps (.path spot) (.name s) e e' →
        ((c.readAll steps).eval e).1 = ((c.readAll steps).eval e').1) := by
  have hread := (ReadFrom.refl h).readAll h steps
  have hentry := h.entry_alias hd hs hget rfl hspot
  rw [coerce_int hd] at hentry
  have heval : ∀ e, ((c.readAll steps).eval e).1 = (c.eval e).1 := by
    intro e
    rw [eval, hread.env]
    exact (hread.run h (steady_eval c e)).1.unique (h.gives_run (steady_eval c e))
  refine ⟨?_, fun hparent hglobals hn => ?_⟩
  · rw [← hentry]
    exact (hread.run h (steady_entry c spot)).1.unique (h.gives_run (steady_entry c spot))
  · obtain ⟨e, he, -⟩ := Option.map_eq_some_iff.1 hspot
    have hpath : (c.eval (.path spot)).1 = .ok (.int n) := by
      rw [h.eval_path hparent hglobals he, hentry, if_neg hn]
    refine ⟨(heval _).trans hpath, fun e e' hswaps => ?_⟩
    rw [heval, heval]
    have hname : (c.eval (.name s)).1 = .ok (.int n) := hget
    exact h.eval_swaps (hpath.trans hname.symm) hswaps

/-- An alias inside a mapping, of an alias, of the least integer that comes back. -/
theorem alias_int_inside :
    let c := ofValues {} [("base", .int (-9223372036854775807))]
      [("b", .str "{{ base }}"), ("n", .map [("x", .str "{{ b }}")])]
    (c.eval (.path (["n"], "x"))).1 = .ok (.int (-9223372036854775807)) ∧
      (c.eval (.binary .sub (.neg (.path (["n"], "x"))) (.int 1))).1 =
        (c.eval (.binary .sub (.neg (.name "b")) (.int 1))).1 := by
  intro c
  have hrest : c.AtRest := .ofValues {} _ (by decide)
  have hb := hrest.alias_int (s := "base") (n := -9223372036854775807) rfl
    ⟨⟨'b', ['a', 's', 'e'], rfl, rfl, List.all_eq_true.1 rfl⟩, rfl⟩ rfl
    (show c.vars.face? ([], "b") = _ from rfl) []
  obtain ⟨hget, -⟩ := hb.2 rfl rfl (by decide)
  have hx := hrest.alias_int (s := "b") rfl ⟨⟨'b', [], rfl, rfl, List.all_eq_true.1 rfl⟩, rfl⟩ hget
    (show c.vars.face? (["n"], "x") = _ from rfl) []
  obtain ⟨hvalue, hswaps⟩ := hx.2 rfl rfl (by decide)
  exact ⟨hvalue, hswaps _ _ (.binary .sub (.neg .here) (.same _))⟩

/-- The least integer does not come back through an alias. -/
theorem alias_int_least :
    let c := ofValues {} [] [("a", .str "{{ b }}"), ("b", .int Int64.minValue)]
    (c.get "b").1.map Value.repr = .ok "-9223372036854775808" ∧
      (c.get "a").1.map Value.repr = .ok "'-9223372036854775808'" ∧
      (c.render "{{ b + 1 }}").1 = .ok "-9223372036854775807" ∧
      (c.render "{{ a + 1 }}").1 = .error (.invalid (.operands "+" .string .integer)) := by
  decide +kernel

end Context
end MailMerge
