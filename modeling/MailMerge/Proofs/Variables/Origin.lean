/-
# Where entries come from

Entries are made from values, by `Vars.ofDict` for all variables at once and by
`Vars.set` for one.  Such entries are literals, templates and mappings, in the order of
the values; none is marked and none is resolved.  Setting a variable leaves the entries
under all other names alone.
-/

import MailMerge.Context
import MailMerge.Proofs.Value.Inside
import MailMerge.Proofs.Variables.Face

namespace MailMerge

/-- The name of the variable that an entry is, or lies under. -/
def Spot.root : Spot → String
  | ([], key) => key
  | (p :: _, _) => p

theorem Spot.root_snoc (place : List String) (q key : String) :
    Spot.root (place ++ [q], key) = Spot.root (place, q) := by
  cases place <;> rfl

/-- The value that a face shows, if it does, has a property. -/
def Face.Shows (q : Value → Prop) : Face → Prop
  | literal v => q v
  | resolved v => q v
  | _ => True

/-- What is true of the entries that are made from values with a property: the faces they show
have another one. -/
structure MadeFrom (q : Value → Prop) (p : Face → Prop) : Prop where
  mapping : ∀ keys, p (.mapping keys)
  template : ∀ s, p (.template s)
  literal : ∀ v, q v → p (.literal v)
  inside : ∀ es, q (.map es) → ∀ e ∈ es, q e.2

/-- Entries made from values are not marked. -/
theorem MadeFrom.unmarked : MadeFrom (fun _ => True) fun face => ∀ s, face ≠ .rendering s where
  mapping _ _ := Face.noConfusion
  template _ _ := Face.noConfusion
  literal _ _ _ := Face.noConfusion
  inside _ _ _ _ := trivial

/-- Entries made from values show these values and values inside them. -/
theorem MadeFrom.shows {q : Value → Prop} (hq : ∀ es, q (.map es) → ∀ e ∈ es, q e.2) :
    MadeFrom q (Face.Shows q) where
  mapping _ := trivial
  template _ := trivial
  literal _ hv := hv
  inside := hq

namespace Vars

variable {vars : Vars} {key : String} {p : Face → Prop} {q : Value → Prop} {d : Delimiters}

/-- Every entry shows a face with a property. -/
def All (p : Face → Prop) (vars : Vars) : Prop := ∀ spot face, vars.face? spot = some face → p face

theorem face?_cons {k : String} {ps : List String} :
    vars.face? (k :: ps, key) = match Dict.find? vars k with
      | some (.nested inner) => face? inner (ps, key)
      | _ => none := by
  rw [face?, lookup?]
  rcases Dict.find? vars k with _ | e
  · rfl
  · cases e <;> rfl

theorem all_iff : vars.All p ↔ ∀ k e, Dict.find? vars k = some e →
    p e.face ∧ ∀ inner, e = .nested inner → All p inner := by
  constructor
  · intro h k e he
    refine ⟨h ([], k) e.face (by rw [face?, lookup?, he, Option.map_some]), ?_⟩
    rintro inner rfl ⟨ps, key⟩ face hf
    exact h (k :: ps, key) face (by rw [face?_cons, he]; exact hf)
  · rintro h ⟨ps, key⟩ face hf
    cases ps with
    | nil =>
      obtain ⟨e, he, rfl⟩ := Option.map_eq_some_iff.1 hf
      exact (h key e he).1
    | cons k ps =>
      rw [face?_cons] at hf
      split at hf
      · exact (h k _ ‹_›).2 _ rfl (ps, key) face hf
      · simp at hf

theorem All.insert (h : vars.All p) {e : Entry} (he : p e.face)
    (hi : ∀ inner, e = .nested inner → All p inner) : All p (Dict.insert key e vars) := by
  refine all_iff.2 fun k e' hk => ?_
  rw [Dict.find?_insert] at hk
  split_ifs at hk
  · obtain rfl := Option.some.inj hk
    exact ⟨he, hi⟩
  · exact all_iff.1 h k e' hk

theorem InOrder.insert (h : vars.InOrder) {e : Entry}
    (hi : ∀ inner, e = .nested inner → InOrder inner) : InOrder (Dict.insert key e vars) := by
  refine inOrder_iff.2 ⟨h.ordered.insert _ _, fun k inner hk => ?_⟩
  rw [Dict.find?_insert] at hk
  split_ifs at hk
  · exact hi inner (Option.some.inj hk)
  · exact h.inner hk

/-- An insertion changes only what is under its key. -/
theorem face?_insert {e : Entry} {spot : Spot} (hs : Spot.root spot ≠ key) :
    face? (Dict.insert key e vars) spot = vars.face? spot := by
  obtain ⟨ps, k⟩ := spot
  cases ps with
  | nil =>
    rw [Spot.root] at hs
    rw [face?, lookup?, Dict.find?_insert, if_neg hs]
    rfl
  | cons r ps =>
    rw [Spot.root] at hs
    rw [face?_cons, face?_cons, Dict.find?_insert, if_neg hs]

theorem find?_ofEntries (es : List (String × Value)) (k : String) :
    Dict.find? (Entry.ofEntries d es) k = (Dict.find? es k).map (Entry.ofValue d) := by
  induction es with
  | nil => rfl
  | cons e es ih =>
    rw [Entry.ofEntries, Dict.find?_cons, Dict.find?_cons, ih]
    split_ifs <;> rfl

theorem keys_ofEntries (es : List (String × Value)) :
    Dict.keys (Entry.ofEntries d es) = Dict.keys es := by
  induction es with
  | nil => rfl
  | cons e es ih => exact congrArg _ ih

/-- **Entries made from a value** show literals, templates and mappings. -/
theorem all_ofValue (h : MadeFrom q p) {v : Value} (hv : q v) :
    p (Entry.ofValue d v).face ∧ ∀ inner, Entry.ofValue d v = .nested inner → All p inner := by
  induction v using Value.induction with
  | map es ih =>
    refine ⟨h.mapping _, ?_⟩
    rintro _ ⟨⟩
    refine all_iff.2 fun k e he => ?_
    rw [find?_ofEntries] at he
    obtain ⟨w, hw, rfl⟩ := Option.map_eq_some_iff.1 he
    have hmem := Dict.mem_of_find? hw
    exact ih (k, w) hmem (h.inside es hv (k, w) hmem)
  | str s =>
    rw [Entry.ofValue]
    split
    · exact ⟨h.template s, fun _ hi => by cases hi⟩
    · exact ⟨h.literal _ hv, fun _ hi => by cases hi⟩
  | _ => exact ⟨h.literal _ hv, fun _ hi => by cases hi⟩

theorem all_ofDict (h : MadeFrom q p) {values : Dict Value} (hv : q (.map values)) :
    All p (ofDict d values) := (all_ofValue h hv).2 _ rfl

/-- Entries made from a value are in order if it is. -/
theorem inOrder_ofValue {v : Value} (hv : v.InOrder) {inner : Vars}
    (h : Entry.ofValue d v = .nested inner) : inner.InOrder := by
  induction v using Value.induction generalizing inner with
  | map es ih =>
    obtain rfl := Entry.nested.inj h
    obtain ⟨ho, hin⟩ := Value.inOrder_map.1 hv
    refine inOrder_iff.2 ⟨?_, fun k inner hk => ?_⟩
    · rw [Dict.ordered_iff_keys, keys_ofEntries]
      exact Dict.ordered_iff_keys.1 ho
    · rw [find?_ofEntries] at hk
      obtain ⟨w, hw, he⟩ := Option.map_eq_some_iff.1 hk
      have hmem := Dict.mem_of_find? hw
      exact ih (k, w) hmem (hin (k, w) hmem) he
  | str s => rw [Entry.ofValue] at h; split at h <;> cases h
  | _ => cases h

theorem inOrder_ofDict {values : Dict Value} (h : (Value.map values).InOrder) :
    (ofDict d values).InOrder := inOrder_ofValue h rfl

theorem InOrder.set (h : vars.InOrder) {v : Value} (hv : v.InOrder) :
    (vars.set d key v).InOrder := h.insert fun _ hi => inOrder_ofValue hv hi

theorem All.set (h : vars.All p) (hm : MadeFrom q p) {v : Value} (hv : q v) :
    (vars.set d key v).All p := h.insert (all_ofValue hm hv).1 (all_ofValue hm hv).2

theorem face?_set {spot : Spot} {v : Value} (hs : Spot.root spot ≠ key) :
    (vars.set d key v).face? spot = vars.face? spot := face?_insert hs

theorem InOrder.update (h : vars.InOrder) {values : Dict Value} (hv : (Value.map values).InOrder) :
    (vars.update d values).InOrder := by
  have hin := (Value.inOrder_map.1 hv).2
  clear hv
  unfold Vars.update
  induction values generalizing vars with
  | nil => exact h
  | cons e values ih =>
    exact ih (h.set (hin e List.mem_cons_self)) fun e he => hin e (List.mem_cons_of_mem _ he)

theorem All.update (h : vars.All p) (hm : MadeFrom q p) {values : Dict Value}
    (hv : q (.map values)) : (vars.update d values).All p := by
  have hin := hm.inside values hv
  clear hv
  unfold Vars.update
  induction values generalizing vars with
  | nil => exact h
  | cons e values ih =>
    exact ih (h.set hm (hin e List.mem_cons_self)) fun e he => hin e (List.mem_cons_of_mem _ he)

theorem face?_update {spot : Spot} {values : Dict Value}
    (hs : Spot.root spot ∉ Dict.keys values) :
    (vars.update d values).face? spot = vars.face? spot := by
  unfold Vars.update
  induction values generalizing vars with
  | nil => rfl
  | cons e values ih =>
    rw [Dict.keys, List.map_cons, List.mem_cons, not_or] at hs
    rw [List.foldl_cons, ih hs.2, face?_set hs.1]

/-- The values that entries show have a property. -/
def Shows (q : Value → Prop) (vars : Vars) : Prop := vars.All (Face.Shows q)

end Vars
end MailMerge
