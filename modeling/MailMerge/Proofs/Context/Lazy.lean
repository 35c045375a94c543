/-
# Laziness

A template is read only by being rendered, and then it is resolved.  So one that still waits
behind a read that succeeded might have had any other text, also one that fails, refers back
to itself or is no template at all: the read gives the same answer and leaves everything else
the same (`Context.read_withSource`).
-/

import MailMerge.Proofs.Context.Order
import MailMerge.Proofs.Reading.Unread

namespace MailMerge
namespace Context

variable {c : Context} {spot : Spot} {source : String}

/-- The context with another source in the place of a template that waits. -/
def withSource (c : Context) (spot : Spot) (source : String) : Context :=
  { c with memory := Reading.put spot.1 spot.2 (.template source) c.memory }

/-- Another source leaves the access to the names and variables as it is. -/
theorem access_withSource (h : c.AtRest) (hs : c.vars.face? spot = some (.template source))
    (source' : String) : (c.withSource spot source').access = c.access := by
  have hput := Vars.replaces_source h.order hs source'
  have hwaiting : Entry.waitingIn (c.withSource spot source').vars = Entry.waitingIn c.vars :=
    Nat.add_right_cancel hput.waiting
  have hheight : Entry.heightOf (c.withSource spot source').vars = Entry.heightOf c.vars :=
    hput.height
  rw [access, access, hwaiting, hheight]
  rfl

/-- A read that succeeds, as a run of its computation. -/
theorem exists_of_read_ok {step : ReadStep} {answer : Answer}
    (h : (c.read step).1 = .ok answer) :
    ∃ m, step.answer c.env c.access c.memory = .ok answer m := by
  rw [read_eq_run, run_result] at h
  rcases hrun : step.answer c.env c.access c.memory with ⟨x, m⟩ | ⟨e, m⟩ <;> rw [hrun] at h
  · exact ⟨m, by rw [Except.ok.inj h]⟩
  · cases h

theorem read_eq_of_ok {step : ReadStep} {answer : Answer} {m : Memory}
    (h : step.answer c.env c.access c.memory = .ok answer m) :
    c.read step = (.ok answer, { c with memory := m }) := by
  rw [read_eq_run, run, h]

/-- **What is not read does not matter.**  If a read succeeds and a template, at whatever place,
still waits behind it, then with any other source in the place of that template the read gives
the same answer and leaves the same behind it, but for that source. -/
theorem read_withSource (h : c.AtRest) (step : ReadStep) (answer : Answer)
    (hread : (c.read step).1 = .ok answer) (spot : Spot) (source : String)
    (hstill : (c.read step).2.vars.face? spot = some (.template source)) (source' : String) :
    (c.withSource spot source').read step =
      (.ok answer, (c.read step).2.withSource spot source') ∧
    ∀ q, q ≠ spot → ((c.withSource spot source').read step).2.vars.face? q =
      (c.read step).2.vars.face? q := by
  have hparallel := step.parallel (Bridge.all_exact (Entry.heightOf c.vars)) c.env
    fun _ _ _ => trivial
  obtain ⟨m₁, hrun⟩ := exists_of_read_ok hread
  have hprogress : Progress c.memory m₁ := by
    have hfollows := Reading.together_access c.env c.parent hparallel h.order
      (le_refl (Entry.waitingIn c.vars))
    exact (hrun ▸ hfollows.progress :)
  rw [read_eq_of_ok hrun] at hstill ⊢
  have hs : c.vars.face? spot = some (.template source) := hprogress.template hstill
  have hrepeats : Reading.Repeats spot source source' Eq (step.answer c.env c.access c.memory)
      (step.answer c.env c.access (c.withSource spot source').memory) :=
    Reading.unread_access hparallel (Unread.of_put h.order hs source')
      (le_refl (Entry.waitingIn c.vars))
  obtain ⟨_, m₁', hrun', rfl, h₁⟩ := hrepeats answer m₁ hrun hstill
  obtain rfl := h₁.eq_put
  rw [← access_withSource h hs source'] at hrun'
  rw [read_eq_of_ok hrun']
  exact ⟨rfl, h₁.elsewhere⟩

/-- An entry beside the one that is read may as well refer to itself. -/
theorem read_withSource_cyclic :
    let c := ofValues {} [] [("a", .str "{{ n.x }}!"),
      ("n", .map [("x", .str "{{ 1 + 1 }}"), ("y", .str "{{ a }}")])]
    ((c.withSource (["n"], "y") "{{ n.y }}").read (.render "{{ a }}")).1 = .ok (.text "2!") ∧
    ((c.withSource (["n"], "y") "{{ n.y }}").read (.render "{{ n.y }}")).1 =
      .error (.inVariable "y" (.cyclic "y")) := by
  intro c
  have hsame := read_withSource (.ofValues {} [] (by decide) : c.AtRest) (.render "{{ a }}")
    (.text "2!") (by decide +kernel) (["n"], "y") "{{ a }}" (by decide +kernel) "{{ n.y }}"
  exact ⟨congrArg Prod.fst hsame.1, by decide +kernel⟩

end Context
end MailMerge
