/-
# What an entry shows

Reading depends on an entry only through its face: a value that is there, a template
that waits, the mark that it renders, or the keys of a mapping.  Putting a new leaf in
the place of a leaf changes the face at that spot and at no other (`Vars.face?_put`),
keeps every mapping in order, keeps the height, and moves the number of waiting
entries by exactly the difference of the two leaves.
-/

import MailMerge.Evaluation.Memory
import MailMerge.Proofs.Dict
import Mathlib.Tactic.Common

namespace MailMerge

/-- What an entry shows of itself: of a mapping, the keys. -/
inductive Face where
  | literal (v : Value)
  | template (source : String)
  | rendering (source : String)
  | resolved (v : Value)
  | mapping (keys : List String)

namespace Face

/-- Whether a template waits can be decided. -/
instance (face : Option Face) (source : String) : Decidable (face = some (.template source)) :=
  match face with
  | some (.template s) => decidable_of_iff (s = source) (by simp)
  | some (.literal _) => isFalse nofun
  | some (.rendering _) => isFalse nofun
  | some (.resolved _) => isFalse nofun
  | some (.mapping _) => isFalse nofun
  | none => isFalse nofun

/-- How many templates wait behind a face that is no mapping. -/
def waiting : Face → Nat
  | template _ => 1
  | _ => 0

/-- Whether a face is that of no mapping. -/
def isLeaf : Face → Bool
  | mapping _ => false
  | _ => true

/-- The value that a spot has without rendering, from the face that is there. -/
def value? (spot : Spot) : Option Face → Option Value
  | none => some (.undefined spot.2)
  | some (literal v) => some v
  | some (resolved v) => some v
  | some (mapping keys) => some (.lazy (spot.1 ++ [spot.2]) keys)
  | some (template _) => none
  | some (rendering _) => none

end Face

namespace Entry

/-- The face of an entry. -/
def face : Entry → Face
  | literal v => .literal v
  | template source => .template source
  | rendering source => .rendering source
  | resolved v => .resolved v
  | nested entries => .mapping (Dict.keys entries)

theorem waitingIn_append (before after : List (String × Entry)) :
    waitingIn (before ++ after) = waitingIn before + waitingIn after := by
  induction before with
  | nil => simp [waitingIn]
  | cons p before ih =>
    obtain ⟨k, e⟩ := p
    rw [List.cons_append, waitingIn, waitingIn, ih, Nat.add_assoc]

theorem heightOf_append (before after : List (String × Entry)) :
    heightOf (before ++ after) = max (heightOf before) (heightOf after) := by
  induction before with
  | nil => simp [heightOf]
  | cons p before ih =>
    obtain ⟨k, e⟩ := p
    rw [List.cons_append, heightOf, heightOf, ih, Nat.max_assoc]

theorem height_of_isLeaf {e : Entry} (h : e.face.isLeaf = true) : e.height = 0 := by
  cases e <;> first | rfl | exact absurd h Bool.false_ne_true

theorem waiting_of_isLeaf {e : Entry} (h : e.face.isLeaf = true) : e.waiting = e.face.waiting := by
  cases e <;> first | rfl | exact absurd h Bool.false_ne_true

/-- Entries with one face are equal if they are no different mappings. -/
theorem eq_of_face {e e' : Entry} (h : e.face = e'.face)
    (hinner : ∀ inner inner', e = .nested inner → e' = .nested inner' → inner = inner') :
    e = e' := by
  cases e <;> cases e' <;> simp_all [face]

/-- An entry is no higher than the mapping it is in. -/
theorem height_le_heightOf {entries : Dict Entry} {key : String} {e : Entry}
    (h : Dict.find? entries key = some e) : e.height ≤ heightOf entries := by
  induction entries with
  | nil => simp at h
  | cons p entries ih =>
    obtain ⟨k, d⟩ := p
    rw [Dict.find?_cons] at h
    rw [heightOf]
    split_ifs at h with hk
    · obtain rfl := Option.some.inj h
      exact Nat.le_max_left _ _
    · exact (ih h).trans (Nat.le_max_right _ _)

/-- An entry has no more waiting templates than the mapping it is in. -/
theorem waiting_le_waitingIn {entries : Dict Entry} {key : String} {e : Entry}
    (h : Dict.find? entries key = some e) : e.waiting ≤ waitingIn entries := by
  induction entries with
  | nil => simp at h
  | cons p entries ih =>
    obtain ⟨k, d⟩ := p
    rw [Dict.find?_cons] at h
    rw [waitingIn]
    split_ifs at h with hk
    · obtain rfl := Option.some.inj h
      exact Nat.le_add_right _ _
    · exact (ih h).trans (Nat.le_add_left _ _)

mutual

/-- The spots of the entries under this one, as seen from it. -/
def spots : Entry → List Spot
  | nested entries => spotsIn entries
  | _ => []

/-- The spots of these entries and of those under them. -/
def spotsIn : List (String × Entry) → List Spot
  | [] => []
  | (key, e) :: rest =>
    ([], key) :: (spots e).map (fun spot => (key :: spot.1, spot.2)) ++ spotsIn rest

end

/-- The entry under a key has a spot, and so has each entry under it. -/
theorem mem_spotsIn {entries : Dict Entry} {key : String} {e : Entry}
    (h : Dict.find? entries key = some e) : ([], key) ∈ spotsIn entries ∧
      ∀ spot ∈ e.spots, (key :: spot.1, spot.2) ∈ spotsIn entries := by
  induction entries with
  | nil => simp at h
  | cons p entries ih =>
    obtain ⟨k, d⟩ := p
    rw [Dict.find?_cons] at h
    rw [spotsIn]
    split_ifs at h with hk
    · obtain rfl := Option.some.inj h
      refine ⟨by simp [hk], fun spot hs => List.mem_append_left _ (List.mem_cons_of_mem _ ?_)⟩
      exact List.mem_map.2 ⟨spot, hs, by rw [hk]⟩
    · exact ⟨List.mem_append_right _ (ih h).1,
        fun spot hs => List.mem_append_right _ ((ih h).2 spot hs)⟩

end Entry

namespace Vars

/-- The mapping at a place. -/
def at? (vars : Vars) : List String → Option Vars
  | [] => some vars
  | p :: ps =>
    match Dict.find? vars p with
    | some (.nested inner) => at? inner ps
    | _ => none

/-- The face at a spot. -/
def face? (vars : Vars) (spot : Spot) : Option Face :=
  (vars.lookup? spot.1 spot.2).map Entry.face

/-- Every mapping among the variables has its keys in order. -/
def InOrder (vars : Vars) : Prop :=
  ∀ place inner, vars.at? place = some inner → Dict.Ordered inner

theorem lookup?_eq_bind (vars : Vars) (place : List String) (key : String) :
    vars.lookup? place key = (vars.at? place).bind fun inner => Dict.find? inner key := by
  induction place generalizing vars with
  | nil => rfl
  | cons p ps ih =>
    rw [lookup?, at?]
    rcases Dict.find? vars p with _ | e
    · rfl
    · cases e <;> first | exact ih _ | rfl

/-- The face of the entry at a spot. -/
theorem face?_of_lookup? {vars : Vars} {place : List String} {key : String} {e : Entry}
    (h : vars.lookup? place key = some e) : vars.face? (place, key) = some e.face := by
  rw [face?, h, Option.map_some]

/-- The mapping that a longer place goes through. -/
theorem exists_nested_of_lookup? {vars : Vars} {p : String} {ps : List String} {key : String}
    {e : Entry} (h : vars.lookup? (p :: ps) key = some e) :
    ∃ inner : Vars, Dict.find? vars p = some (.nested inner) ∧ inner.lookup? ps key = some e := by
  rw [lookup?] at h
  split at h
  · exact ⟨_, ‹_›, h⟩
  · simp at h

/-- A mapping inside the mapping at a place is at the place one key further. -/
theorem at?_append {vars : Vars} {place : List String} {key : String} {inner : Vars}
    (h : vars.lookup? place key = some (.nested inner)) :
    vars.at? (place ++ [key]) = some inner := by
  induction place generalizing vars with
  | nil => rw [lookup?] at h; simp [at?, h]
  | cons p ps ih =>
    obtain ⟨deep, hp, he⟩ := exists_nested_of_lookup? h
    rw [List.cons_append, at?, hp]
    exact ih he

theorem inOrder_iff {vars : Vars} : vars.InOrder ↔ Dict.Ordered vars ∧
    ∀ p inner, Dict.find? vars p = some (.nested inner) → InOrder inner := by
  constructor
  · intro h
    refine ⟨h [] vars rfl, fun p inner hp place deep hd => h (p :: place) deep ?_⟩
    rw [at?, hp]
    exact hd
  · rintro ⟨ho, hn⟩ place inner hi
    cases place with
    | nil => exact Option.some.inj hi ▸ ho
    | cons p ps =>
      rw [at?] at hi
      split at hi
      · rename_i deep hp
        exact hn p deep hp ps inner hi
      · simp at hi

theorem InOrder.ordered {vars : Vars} (h : vars.InOrder) : Dict.Ordered vars := h [] vars rfl

theorem InOrder.inner {vars : Vars} (h : vars.InOrder) {p : String} {inner : Vars}
    (hp : Dict.find? vars p = some (.nested inner)) : inner.InOrder :=
  (inOrder_iff.1 h).2 p inner hp

section Put

variable {vars : Vars} {place : List String} {key : String} {old new : Entry}

theorem put_cons {p : String} {ps : List String} {inner : Vars}
    (hp : Dict.find? vars p = some (.nested inner)) :
    vars.put (p :: ps) key new = Dict.insert p (.nested (inner.put ps key new)) vars := by
  rw [put, hp]

/-- Putting an entry where one is keeps the keys. -/
theorem keys_put (ho : vars.InOrder) (h : vars.lookup? place key = some old) :
    Dict.keys (vars.put place key new) = Dict.keys vars := by
  cases place with
  | nil => exact Dict.keys_insert ho.ordered h _
  | cons p ps =>
    obtain ⟨inner, hp, -⟩ := exists_nested_of_lookup? h
    rw [put_cons hp]
    exact Dict.keys_insert ho.ordered hp _

/-- **A leaf put in the place of a leaf shows at its spot and nowhere else.** -/
theorem face?_put (ho : vars.InOrder) (h : vars.lookup? place key = some old)
    (hold : old.face.isLeaf = true) (hnew : new.face.isLeaf = true) (spot : Spot) :
    (vars.put place key new).face? spot =
      if spot = (place, key) then some new.face else vars.face? spot := by
  obtain ⟨q, k⟩ := spot
  induction place generalizing vars q with
  | nil =>
    rw [lookup?] at h
    rw [put]
    cases q with
    | nil =>
      simp only [face?, lookup?, Dict.find?_insert, Prod.mk.injEq, true_and]
      split_ifs <;> rfl
    | cons p ps =>
      simp only [face?, lookup?, Dict.find?_insert, Prod.mk.injEq, reduceCtorEq, false_and,
        if_false]
      split_ifs with hp
      · subst hp
        rw [h]
        cases old <;> cases new <;> first | rfl | simp [Entry.face, Face.isLeaf] at hold hnew
      · rfl
  | cons p ps ih =>
    obtain ⟨inner, hp, he⟩ := exists_nested_of_lookup? h
    rw [put_cons hp]
    cases q with
    | nil =>
      simp only [face?, lookup?, Dict.find?_insert, Prod.mk.injEq, reduceCtorEq, false_and,
        if_false]
      split_ifs with hk
      · subst hk
        rw [hp, Option.map_some, Option.map_some, Entry.face, Entry.face,
          keys_put (ho.inner hp) he]
      · rfl
    | cons p' ps' =>
      simp only [face?, lookup?, Dict.find?_insert, Prod.mk.injEq, List.cons.injEq]
      by_cases hk : p' = p
      · subst hk
        have := ih (ho.inner hp) he ps'
        simp only [face?, Prod.mk.injEq] at this
        simp only [if_true, true_and, hp, this]
      · simp only [hk, false_and, if_false]

theorem InOrder.put (ho : vars.InOrder) (h : vars.lookup? place key = some old)
    (hnew : new.face.isLeaf = true) : (vars.put place key new).InOrder := by
  induction place generalizing vars with
  | nil =>
    refine inOrder_iff.2 ⟨ho.ordered.insert _ _, fun p inner hp => ?_⟩
    rw [Vars.put, Dict.find?_insert] at hp
    split_ifs at hp with hk
    · obtain rfl := Option.some.inj hp
      simp [Entry.face, Face.isLeaf] at hnew
    · exact ho.inner hp
  | cons p ps ih =>
    obtain ⟨inner, hp, he⟩ := exists_nested_of_lookup? h
    rw [put_cons hp]
    refine inOrder_iff.2 ⟨ho.ordered.insert _ _, fun q deep hq => ?_⟩
    rw [Dict.find?_insert] at hq
    split_ifs at hq with hk
    · obtain rfl := Entry.nested.inj (Option.some.inj hq)
      exact ih (ho.inner hp) he
    · exact ho.inner hq

/-- Putting a leaf changes the number of waiting entries by what it and the old one count. -/
theorem waitingIn_put (ho : vars.InOrder) (h : vars.lookup? place key = some old) :
    Entry.waitingIn (vars.put place key new) + old.waiting =
      Entry.waitingIn vars + new.waiting := by
  induction place generalizing vars with
  | nil =>
    obtain ⟨before, after, hd, hins⟩ := Dict.exists_split ho.ordered h
    rw [put, hins new, hd]
    simp only [Entry.waitingIn_append, Entry.waitingIn]
    omega
  | cons p ps ih =>
    obtain ⟨inner, hp, he⟩ := exists_nested_of_lookup? h
    obtain ⟨before, after, hd, hins⟩ := Dict.exists_split ho.ordered hp
    have := ih (ho.inner hp) he
    rw [put_cons hp, hins, hd]
    simp only [Entry.waitingIn_append, Entry.waitingIn, Entry.waiting]
    omega

/-- Putting a leaf in the place of a leaf keeps the height. -/
theorem heightOf_put (ho : vars.InOrder) (h : vars.lookup? place key = some old)
    (hold : old.face.isLeaf = true) (hnew : new.face.isLeaf = true) :
    Entry.heightOf (vars.put place key new) = Entry.heightOf vars := by
  induction place generalizing vars with
  | nil =>
    obtain ⟨before, after, hd, hins⟩ := Dict.exists_split ho.ordered h
    rw [put, hins new, hd]
    simp only [Entry.heightOf_append, Entry.heightOf, Entry.height_of_isLeaf hold,
      Entry.height_of_isLeaf hnew]
  | cons p ps ih =>
    obtain ⟨inner, hp, he⟩ := exists_nested_of_lookup? h
    obtain ⟨before, after, hd, hins⟩ := Dict.exists_split ho.ordered hp
    rw [put_cons hp, hins, hd]
    simp only [Entry.heightOf_append, Entry.heightOf, Entry.height, ih (ho.inner hp) he]

end Put

/-- What happens to variables when one leaf takes the place of another. -/
structure Replaces (vars vars' : Vars) (spot : Spot) (old new : Face) : Prop where
  order : vars'.InOrder
  here : vars'.face? spot = some new
  elsewhere : ∀ q, q ≠ spot → vars'.face? q = vars.face? q
  waiting : Entry.waitingIn vars' + old.waiting = Entry.waitingIn vars + new.waiting
  height : Entry.heightOf vars' = Entry.heightOf vars

/-- **Putting a leaf where a leaf is replaces it.** -/
theorem replaces_put {vars : Vars} {spot : Spot} {face : Face} {new : Entry} (ho : vars.InOrder)
    (h : vars.face? spot = some face) (hold : face.isLeaf = true)
    (hnew : new.face.isLeaf = true) :
    Replaces vars (vars.put spot.1 spot.2 new) spot face new.face := by
  obtain ⟨old, he, rfl⟩ := Option.map_eq_some_iff.1 h
  refine ⟨ho.put he hnew, ?_, fun q hq => ?_, ?_, heightOf_put ho he hold hnew⟩
  · rw [face?_put ho he hold hnew, if_pos rfl]
  · rw [face?_put ho he hold hnew, if_neg hq]
  · rw [← Entry.waiting_of_isLeaf hold, ← Entry.waiting_of_isLeaf hnew]
    exact waitingIn_put ho he

/-- Marking an entry that waits. -/
theorem replaces_mark {vars : Vars} {spot : Spot} {source : String} (ho : vars.InOrder)
    (h : vars.face? spot = some (.template source)) :
    Replaces vars (vars.put spot.1 spot.2 (.rendering source)) spot (.template source)
      (.rendering source) :=
  replaces_put ho h rfl rfl

/-- Another source for an entry that waits. -/
theorem replaces_source {vars : Vars} {spot : Spot} {source : String} (ho : vars.InOrder)
    (h : vars.face? spot = some (.template source)) (source' : String) :
    Replaces vars (vars.put spot.1 spot.2 (.template source')) spot (.template source)
      (.template source') :=
  replaces_put ho h rfl rfl

theorem has_eq_isSome_face? (vars : Vars) (key : String) :
    Dict.has vars key = (vars.face? ([], key)).isSome := by
  rw [face?, Option.isSome_map]
  rfl

/-- The entries of a place have no more waiting templates than all of them. -/
theorem waiting_le_of_lookup? {vars : Vars} {place : List String} {key : String} {e : Entry}
    (h : vars.lookup? place key = some e) : e.waiting ≤ Entry.waitingIn vars := by
  induction place generalizing vars with
  | nil => exact Entry.waiting_le_waitingIn h
  | cons p ps ih =>
    obtain ⟨inner, hp, he⟩ := exists_nested_of_lookup? h
    exact (ih he).trans (Entry.waiting_le_waitingIn hp)

/-- Every entry has its spot among the spots. -/
theorem mem_spotsIn_of_lookup? {vars : Vars} {place : List String} {key : String} {e : Entry}
    (h : vars.lookup? place key = some e) : (place, key) ∈ Entry.spotsIn vars := by
  induction place generalizing vars with
  | nil => exact (Entry.mem_spotsIn h).1
  | cons p ps ih =>
    obtain ⟨inner, hp, he⟩ := exists_nested_of_lookup? h
    exact (Entry.mem_spotsIn hp).2 (ps, key) (ih he)

/-- Where a template waits, something waits. -/
theorem waitingIn_pos {vars : Vars} {spot : Spot} {source : String}
    (h : vars.face? spot = some (.template source)) : 0 < Entry.waitingIn vars := by
  obtain ⟨e, he, hf⟩ := Option.map_eq_some_iff.1 h
  have := waiting_le_of_lookup? he
  cases e <;> cases hf
  exact this

/-- **Variables in order are equal if they show the same faces.** -/
theorem InOrder.eq_of_face? {vars vars' : Vars} (ho : vars.InOrder) (ho' : vars'.InOrder)
    (h : ∀ spot, vars.face? spot = vars'.face? spot) : vars = vars' := by
  induction hn : Entry.heightOf vars using Nat.strong_induction_on generalizing vars vars' with
  | _ n ih =>
    subst hn
    refine ho.ordered.eq_of_find? ho'.ordered fun key => ?_
    have hkey := h ([], key)
    simp only [face?, lookup?] at hkey
    rcases he : Dict.find? vars key with _ | e <;>
      rcases he' : Dict.find? vars' key with _ | e' <;>
        simp only [he, he', Option.map_some, Option.map_none, reduceCtorEq] at hkey
    · rfl
    refine congrArg some (Entry.eq_of_face (Option.some.inj hkey) fun inner inner' hi hi' => ?_)
    subst hi hi'
    have hlow : Entry.heightOf inner + 1 ≤ Entry.heightOf vars := Entry.height_le_heightOf he
    refine ih _ hlow (ho.inner he) (ho'.inner he') (fun spot => ?_) rfl
    have hspot := h (key :: spot.1, spot.2)
    simpa only [face?, lookup?, he, he'] using hspot

end Vars
end MailMerge
