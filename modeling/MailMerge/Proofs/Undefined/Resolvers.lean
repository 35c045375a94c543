/-
# Resolvers without undefined values

The names of a plain mapping, and the names and variables of a context, are whole if the values
they come from have nothing undefined in them and no handles.  A variable's template cannot
bring in anything undefined, for it stands for a text and a text reads as a solid value; a
mapping among the variables is behind a handle, which has the keys of the mapping, and these
stay taken whatever is read (`Reading.Stocked`).
-/

import MailMerge.Proofs.Reading.Depth
import MailMerge.Proofs.Undefined.Values
import MailMerge.Proofs.Value.Coerce

namespace MailMerge

namespace Vars

/-- The handles on the mappings among variables: there is a mapping with these keys at a place. -/
def Holds (vars : Vars) : Handles := fun place keys =>
  ∃ inner, vars.at? place = some inner ∧ Dict.keys inner = keys

variable {vars : Vars} {place keys : List String} {key : String}

theorem holds_of_face? (h : vars.face? (place, key) = some (.mapping keys)) :
    vars.Holds (place ++ [key]) keys := by
  obtain ⟨e, he, hface⟩ := Option.map_eq_some_iff.1 h
  cases e with
  | nested deep => exact ⟨deep, at?_append he, Face.mapping.inj hface⟩
  | _ => cases hface

/-- The keys of a handle are taken. -/
theorem Holds.face?_ne_none (h : vars.Holds place keys) (hkey : key ∈ keys) :
    vars.face? (place, key) ≠ none := by
  obtain ⟨inner, hin, rfl⟩ := h
  rw [face?, lookup?_eq_bind, hin, Ne, Option.map_eq_none_iff]
  exact fun hnone => Dict.find?_eq_none_iff.1 hnone hkey

end Vars

namespace Reading

variable {env : Environment} {parent : Dict Value} {height depth : Nat} {base : Vars}
  {m m' : Memory} {place keys : List String} {key : String} {v : Value}

/-- What a run over solid values finds at each point of it: solid values, the mappings of the
variables `base`, and no spot of these free. -/
structure Stocked (base : Vars) (depth : Nat) (m : Memory) : Prop where
  order : m.vars.InOrder
  solid : m.vars.Shows Value.Solid
  mapping : ∀ spot keys, m.vars.face? spot = some (.mapping keys) →
    base.face? spot = some (.mapping keys)
  taken : ∀ spot, m.vars.face? spot = none → base.face? spot = none
  waiting : Entry.waitingIn m.vars ≤ depth

namespace Stocked

theorem progress (h : Stocked base depth m) (hp : Progress m m') : Stocked base depth m' where
  order := hp.order
  solid := hp.shows Value.coerce_solid h.solid
  mapping spot keys hf := by
    rcases hp.face spot with he | ⟨s, text, -, he⟩
    · exact h.mapping spot keys (he ▸ hf)
    · simp [he] at hf
  taken spot hf := by
    rcases hp.face spot with he | ⟨s, text, -, he⟩
    · exact h.taken spot (he ▸ hf)
    · simp [he] at hf
  waiting := hp.waiting.trans h.waiting

/-- A run that is parallel to itself keeps the memory stocked. -/
theorem run {α : Type} {P : α → α → Prop} {f : Access → Read α} {x : α}
    (h : Stocked base depth m) (hf : Parallel (.all height) P f f)
    (hrun : f (access env parent height depth) m = .ok x m') : Stocked base depth m' := by
  have hp := (together_access env parent hf h.order h.waiting).progress
  rw [hrun] at hp
  exact h.progress hp

/-- **What is read from a spot that is taken is whole.** -/
theorem whole_entry {render : String → Read String} (h : Stocked base depth m)
    (ht : m.vars.face? (place, key) ≠ none) (hrun : entry render place key m = .ok v m') :
    v.Whole base.Holds := by
  rw [entry_eq] at hrun
  rcases hf : m.vars.face? (place, key) with _ | face
  · exact absurd hf ht
  rw [hf] at hrun
  cases face with
  | literal w =>
    obtain ⟨rfl, -⟩ := EStateM.Result.ok.inj hrun
    exact (h.solid _ _ hf).whole
  | resolved w =>
    obtain ⟨rfl, -⟩ := EStateM.Result.ok.inj hrun
    exact (h.solid _ _ hf).whole
  | mapping keys =>
    obtain ⟨rfl, -⟩ := EStateM.Result.ok.inj hrun
    exact .handle (Vars.holds_of_face? (h.mapping _ _ hf))
  | rendering s => cases hrun
  | template s =>
    simp only [settle] at hrun
    split at hrun
    · obtain ⟨rfl, -⟩ := EStateM.Result.ok.inj hrun
      exact (Value.coerce_solid s _).whole
    · cases hrun

/-- What is read from any spot is whole, or there is nothing. -/
theorem loose_entry {render : String → Read String} (h : Stocked base depth m)
    (hrun : entry render place key m = .ok v m') : v.Loose base.Holds := by
  by_cases ht : m.vars.face? (place, key) = none
  · rw [entry_eq, ht] at hrun
    obtain ⟨rfl, -⟩ := EStateM.Result.ok.inj hrun
    exact Value.loose_undefined key
  · exact (h.whole_entry ht hrun).loose

/-- **What a name resolves to is whole.** -/
theorem whole_name {render : String → Read String} (h : Stocked base depth m)
    (hp : (Value.map parent).Solid) (hg : (Value.map env.globals).Solid) {s : String}
    (hrun : name env parent render s m = .ok (some v) m') : v.Whole base.Holds := by
  have hshown : ∀ {d : Dict Value} {w : Value}, (Value.map d).Solid → Dict.find? d s = some w →
      w.Whole base.Holds := fun hd hw =>
    (Value.solid_map.1 hd (s, _) (Dict.mem_of_find? hw)).whole
  unfold name at hrun
  split at hrun
  · obtain ⟨hv, -⟩ := EStateM.Result.ok.inj hrun
    obtain rfl := Option.some.inj hv
    exact hshown hp ‹_›
  split at hrun
  · obtain ⟨hv, -⟩ := EStateM.Result.ok.inj hrun
    obtain rfl := Option.some.inj hv
    exact hshown hg ‹_›
  split at hrun
  · rename_i hhas
    rw [Vars.has_eq_isSome_face?, Option.isSome_iff_ne_none] at hhas
    rw [← bind_pure_comp] at hrun
    obtain ⟨w, m₁, hentry, hrun⟩ := Read.exists_of_bind_ok hrun
    obtain ⟨hv, -⟩ := EStateM.Result.ok.inj hrun
    obtain rfl := Option.some.inj hv
    exact h.whole_entry hhas hentry
  · cases hrun

end Stocked

/-- **The names and variables of a context** over solid values. -/
theorem defined_access (hp : (Value.map parent).Solid) (hg : (Value.map env.globals).Solid) :
    (access env parent height depth).Defined (Stocked base depth) base.Holds where
  count _ h := ⟨h.order, h.solid, h.mapping, h.taken, h.waiting⟩
  name s := by
    intro m o m' hm hrun
    refine ⟨?_, hm.run (Parallel.name s) hrun⟩
    rintro v rfl
    rw [access_eq] at hrun
    exact hm.whole_name hp hg hrun
  entry {place keys} key h := by
    intro m v m' hm hrun
    have hentry : entry (renderAt env parent height depth) place key m = .ok v m' := by
      rw [← hrun, access_eq]
    refine ⟨⟨hm.loose_entry hentry, fun hkey => ?_⟩,
      hm.run (@Parallel.entry (.all height) 0 place keys key trivial) hrun⟩
    exact hm.whole_entry (fun hnone => h.face?_ne_none hkey (hm.taken _ hnone)) hentry

end Reading
end MailMerge
