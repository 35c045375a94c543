/-
# Reading one variable

A name that neither the parent scope nor the globals bind is that of a variable.  A
literal is read as it is.  A template is read as what its text stands for, and that text
is what the context renders of the template.
-/

import MailMerge.Proofs.Action
import MailMerge.Proofs.Context.Memo

namespace MailMerge
namespace Context

variable {c : Context} {name source : String} {v : Value}

/-- A name stands for an entry among the variables. -/
structure Binds (c : Context) (name : String) (e : Entry) : Prop where
  parent : Dict.find? c.parent name = none
  globals : Dict.find? c.env.globals name = none
  entry : Dict.find? c.vars name = some e

/-- A name that stands for an entry is looked up as that entry. -/
theorem Binds.name_eq {e : Entry} (h : c.Binds name e) :
    c.access.name name c.memory = (some <$> c.access.entry [] name) c.memory := by
  have hhas : Dict.has c.memory.vars name = true := by
    rw [Dict.has, Option.isSome_iff_exists]
    exact ⟨e, h.entry⟩
  rw [access, Reading.access_eq]
  change Reading.name _ _ _ _ _ = _
  rw [Reading.name, h.parent, h.globals, hhas]
  rfl

/-- A name that stands for an entry is read as that entry. -/
theorem Binds.get_eq {e : Entry} (h : c.Binds name e) : ∃ render,
    (c.get name).1 = Finish.result (Reading.entry render [] name c.memory) ∧
      (c.get name).2.memory = Finish.memory (Reading.entry render [] name c.memory) := by
  obtain ⟨render, hentry⟩ : ∃ render, c.access.entry = Reading.entry render := by
    rw [access, Reading.access_eq]
    exact ⟨_, rfl⟩
  have hget : c.get name = c.run fun a => (fun o => o.getD (.undefined name)) <$> a.name name := by
    simp only [get, bind_pure_comp]
  refine ⟨render, ?_, ?_⟩
  · rw [hget, run_result, Finish.result_map, h.name_eq, Finish.result_map, hentry]
    cases Finish.result (Reading.entry render [] name c.memory) <;> rfl
  · rw [hget, run_memory, Finish.memory_map, h.name_eq, Finish.memory_map, hentry]

theorem Binds.get_literal (h : c.Binds name (.literal v)) : (c.get name).1 = .ok v := by
  obtain ⟨render, hresult, -⟩ := h.get_eq
  rw [hresult, Reading.entry, show c.memory.vars.lookup? [] name = _ from h.entry]
  rfl

/-- **A variable's template is read as what its text stands for.** -/
theorem Binds.get_template (h : c.Binds name (.template source)) (hrest : c.AtRest)
    (hnew : c.memory.settled = []) (hv : (c.get name).1 = .ok v) :
    ∃ text, (c.render source).1 = .ok text ∧ v = .coerce source text := by
  obtain ⟨render, hresult, hmemory⟩ := h.get_eq
  have hread := hrest.readFrom (.get name)
  rw [Reading.entry, show c.memory.vars.lookup? [] name = _ from h.entry] at hresult hmemory
  dsimp only [Reading.settle] at hresult hmemory
  -- a render that succeeds is noted down
  have hsettled : ([], name) ∈ (c.read (.get name)).2.memory.settled := by
    change ([], name) ∈ (c.get name).2.memory.settled
    rw [hmemory]
    rw [hresult] at hv
    revert hv
    split
    · exact fun _ => List.mem_cons_self
    · exact fun hv => by cases hv
  obtain ⟨new, hnewly, -, hmem⟩ := hread.progress.settled
  rw [hnewly, hnew, List.append_nil] at hsettled
  obtain ⟨s, v', -, hface⟩ := (hmem _).1 hsettled
  have hsource : c.vars.face? ([], name) = some (.template source) :=
    Vars.face?_of_lookup? (show c.vars.lookup? [] name = _ from h.entry)
  rcases hrest.face_read (.get name) ([], name) with hsame | ⟨t, text, ht, htext, hresolved⟩
  · rw [hsource] at hsame
    cases hsame.symm.trans hface
  obtain rfl : t = source := by
    rw [hsource] at ht
    cases ht
    rfl
  refine ⟨text, htext, ?_⟩
  -- read once more, the variable shows what it was resolved to
  have hagain : ((c.read (.get name)).2.get name).1 = .ok v := by
    have hsame := (hread.read hrest (.get name)).1
    rw [read, read, hv] at hsame
    obtain ⟨w, hw, hvalue⟩ := exists_of_map_ok hsame
    cases hvalue
    exact hw
  have hbinds : (c.read (.get name)).2.Binds name (.resolved (.coerce t text)) := by
    refine ⟨hread.parent ▸ h.parent, hread.env ▸ h.globals, ?_⟩
    obtain ⟨e, he, hface⟩ := Option.map_eq_some_iff.1 hresolved
    cases e <;> cases hface
    exact he
  obtain ⟨render, hresult', -⟩ := hbinds.get_eq
  rw [hagain, Reading.entry, show (c.read (.get name)).2.memory.vars.lookup? [] name = _ from
    hbinds.entry] at hresult'
  exact Except.ok.inj hresult'

end Context
end MailMerge
