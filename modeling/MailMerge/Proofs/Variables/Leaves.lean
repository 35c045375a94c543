/-
# Merging variables, path by path

What merged variables hold at a path of keys can be told from both sides alone.  A value that is
no mapping is a leaf.  The upper side gives all its leaves; the lower side keeps those in whose
way nothing stands: the upper side neither binds their path nor puts a leaf above it
(`Value.Spares`).  The proof goes down the path, one key at a time, and both sides are followed
to the values of that key, whatever they are (`Value.leafAt_laidOver`); so a leaf that shadows a
mapping, at any depth, and a mapping that shadows a leaf are cases of one statement.

Variables laid over themselves, or a second time over others, change nothing
(`Value.laidOver_self`, `Value.laidOver_laidOver`).
-/

import MailMerge.Proofs.Variables.Merge

namespace MailMerge

namespace Value

/-! ### Leaves -/

/-- The value at a path of keys. -/
def at? : List String → Value → Option Value
  | [], v => some v
  | key :: path, .map entries => (Dict.find? entries key).bind (at? path)
  | _ :: _, _ => none

/-- Whether a value is no mapping.  A handle on variables is a leaf: what it stands for is not
merged. -/
def IsLeaf : Value → Prop
  | .map _ => False
  | _ => True

/-- A value has a leaf at a path. -/
def LeafAt (v : Value) (path : List String) (x : Value) : Prop := v.at? path = some x ∧ x.IsLeaf

/-- A value has nothing at a path, and no leaf on the way to it. -/
def Spares (v : Value) (path : List String) : Prop :=
  v.at? path = none ∧ ∀ q x, q <+: path → q ≠ path → ¬ v.LeafAt q x

variable {v w x : Value} {es : Dict Value} {key : String} {path : List String}

theorem isLeaf_or_map (v : Value) : v.IsLeaf ∨ ∃ es, v = map es := by
  cases v with
  | map es => exact .inr ⟨es, rfl⟩
  | _ => exact .inl trivial

theorem IsLeaf.ne_map (h : v.IsLeaf) (es : Dict Value) : v ≠ map es := by
  rintro rfl
  exact h

theorem at?_map_cons (es : Dict Value) (key : String) (path : List String) :
    (map es).at? (key :: path) = (Dict.find? es key).bind (at? path) := rfl

/-- Below a leaf there is nothing. -/
theorem IsLeaf.at?_cons (h : v.IsLeaf) (key : String) (path : List String) :
    v.at? (key :: path) = none := by
  cases v with
  | map es => exact absurd rfl (h.ne_map es)
  | _ => rfl

theorem IsLeaf.not_leafAt_cons (h : v.IsLeaf) : ¬ v.LeafAt (key :: path) x := by
  rintro ⟨hpath, -⟩
  rw [h.at?_cons] at hpath
  cases hpath

theorem leafAt_nil_iff : v.LeafAt [] x ↔ v = x ∧ x.IsLeaf := by simp [LeafAt, at?]

theorem not_leafAt_map_nil : ¬ (map es).LeafAt [] x := by
  rw [leafAt_nil_iff]
  rintro ⟨rfl, hx⟩
  exact hx

theorem leafAt_map_cons_iff : (map es).LeafAt (key :: path) x ↔
    ∃ w, Dict.find? es key = some w ∧ w.LeafAt path x := by
  simp only [LeafAt, at?_map_cons, Option.bind_eq_some_iff]
  constructor
  · rintro ⟨⟨w, hw, hpath⟩, hx⟩
    exact ⟨w, hw, hpath, hx⟩
  · rintro ⟨w, hw, hpath, hx⟩
    exact ⟨⟨w, hw, hpath⟩, hx⟩

/-! ### What stands in the way -/

theorem not_spares_nil : ¬ v.Spares [] := by
  rintro ⟨hnone, -⟩
  cases hnone

/-- A leaf stands in the way of every path. -/
theorem IsLeaf.not_spares (h : v.IsLeaf) : ¬ v.Spares path := by
  rintro ⟨hnone, habove⟩
  cases path with
  | nil => cases hnone
  | cons key path => exact habove [] v List.nil_prefix (by simp) ⟨rfl, h⟩

/-- A mapping spares a path if the value of its first key, if there is one, spares the rest. -/
theorem spares_map_cons_iff : (map es).Spares (key :: path) ↔
    ∀ w, Dict.find? es key = some w → w.Spares path := by
  constructor
  · rintro ⟨hnone, habove⟩ w hw
    rw [at?_map_cons, hw, Option.bind_some] at hnone
    refine ⟨hnone, fun q x hq hne hx => ?_⟩
    have hprefix : key :: q <+: key :: path := (List.prefix_cons_inj key).2 hq
    exact habove (key :: q) x hprefix (by simpa using hne) (leafAt_map_cons_iff.2 ⟨w, hw, hx⟩)
  · intro h
    constructor
    · rw [at?_map_cons, Option.bind_eq_none_iff]
      exact fun w hw => (h w hw).1
    · intro q x hprefix hne hx
      cases q with
      | nil => exact not_leafAt_map_nil hx
      | cons k q =>
        obtain ⟨rfl, hq⟩ := List.cons_prefix_cons.1 hprefix
        obtain ⟨w, hw, hx⟩ := leafAt_map_cons_iff.1 hx
        exact (h w hw).2 q x hq (by simpa using hne) hx

/-! ### One value over another -/

theorem laidOver_map (es es' : Dict Value) :
    laidOver (some (map es)) (map es') = map (mergeVars es es') := by
  rw [laidOver, mergeVars]

theorem IsLeaf.laidOver_eq (h : v.IsLeaf) (old : Option Value) : laidOver old v = v :=
  Value.laidOver_eq fun es _ hes _ => h.ne_map es hes

/-- What merged variables hold at a key: the upper value, if there is one, laid over the lower. -/
theorem find?_mergeVars_eq {upper : Dict Value} (ho : Dict.Ordered upper) (base : Dict Value)
    (key : String) :
    Dict.find? (mergeVars base upper) key =
      match Dict.find? upper key with
      | none => Dict.find? base key
      | some w => some (laidOver (Dict.find? base key) w) := by
  split
  · next hnone => exact find?_mergeVars (Dict.find?_eq_none_iff.1 hnone)
  · next w hw => exact find?_mergeVars_of_mem ho (Dict.mem_of_find? hw)

/-- **The leaves of a value laid over another one** are its own and those of the other one that
it spares. -/
theorem leafAt_laidOver (hw : w.InOrder) (old : Option Value) (path : List String) (x : Value) :
    (laidOver old w).LeafAt path x ↔
      w.LeafAt path x ∨ ∃ o, old = some o ∧ o.LeafAt path x ∧ w.Spares path := by
  induction path generalizing old w with
  | nil =>
    have hspares : ¬ ∃ o, old = some o ∧ o.LeafAt [] x ∧ w.Spares [] := by
      rintro ⟨o, -, -, h⟩
      exact not_spares_nil h
    rw [or_iff_left hspares]
    rcases w.isLeaf_or_map with hleaf | ⟨es', rfl⟩
    · rw [hleaf.laidOver_eq]
    · refine iff_of_false ?_ not_leafAt_map_nil
      unfold laidOver
      split <;> exact not_leafAt_map_nil
  | cons key path ih =>
    rcases w.isLeaf_or_map with hleaf | ⟨es', rfl⟩
    · have hspares : ¬ ∃ o, old = some o ∧ o.LeafAt (key :: path) x ∧ w.Spares (key :: path) := by
        rintro ⟨o, -, -, h⟩
        exact hleaf.not_spares h
      rw [hleaf.laidOver_eq, or_iff_left hspares]
    obtain ⟨hordered, hinner⟩ := inOrder_map.1 hw
    by_cases hold : ∃ es, old = some (map es)
    · -- two mappings are merged, so the key leads to one value of each
      obtain ⟨es, rfl⟩ := hold
      rw [laidOver_map, leafAt_map_cons_iff, find?_mergeVars_eq hordered, leafAt_map_cons_iff,
        spares_map_cons_iff]
      simp only [Option.some.injEq, exists_eq_left', leafAt_map_cons_iff]
      cases hupper : Dict.find? es' key with
      | none => simp
      | some w' =>
        have hw' := hinner (key, w') (Dict.mem_of_find? hupper)
        have hbelow := ih hw' (Dict.find? es key)
        simp only [Option.some.injEq, exists_eq_left', forall_eq', hbelow]
        tauto
    · -- all else is replaced, and has no leaf below a key
      have hspares : ¬ ∃ o, old = some o ∧ o.LeafAt (key :: path) x ∧
          (map es').Spares (key :: path) := by
        rintro ⟨o, rfl, hx, -⟩
        rcases o.isLeaf_or_map with hleaf | ⟨es, rfl⟩
        · exact hleaf.not_leafAt_cons hx
        · exact hold ⟨es, rfl⟩
      have hover : laidOver old (map es') = map es' :=
        Value.laidOver_eq fun _ es _ hes => hold ⟨es, hes⟩
      rw [hover, or_iff_left hspares]

/-- **A value laid over itself** is itself. -/
theorem laidOver_self (hv : v.InOrder) : laidOver (some v) v = v := by
  induction v using Value.induction with
  | map es ih =>
    obtain ⟨hordered, hinner⟩ := inOrder_map.1 hv
    rw [laidOver_map]
    refine congrArg map (Dict.Ordered.eq_of_find? (inOrder_map.1 (inOrder_mergeVars hv hv)).1
      hordered fun key => ?_)
    rw [find?_mergeVars_eq hordered]
    split
    · rfl
    · next w hw =>
      have hmem := Dict.mem_of_find? hw
      rw [hw]
      exact congrArg some (ih _ hmem (hinner _ hmem))
  | _ => rfl

/-- **A value laid over another one a second time** changes nothing more. -/
theorem laidOver_laidOver (hw : w.InOrder) (old : Option Value)
    (hold : ∀ o, old = some o → o.InOrder) :
    laidOver (some (laidOver old w)) w = laidOver old w := by
  induction w using Value.induction generalizing old with
  | map es' ih =>
    obtain ⟨hordered, hinner⟩ := inOrder_map.1 hw
    by_cases hmap : ∃ es, old = some (map es)
    · obtain ⟨es, rfl⟩ := hmap
      have hes := hold _ rfl
      have hmerged := inOrder_mergeVars hes hw
      rw [laidOver_map, laidOver_map]
      refine congrArg map (Dict.Ordered.eq_of_find?
        (inOrder_map.1 (inOrder_mergeVars hmerged hw)).1 (inOrder_map.1 hmerged).1 fun key => ?_)
      rw [find?_mergeVars_eq hordered, find?_mergeVars_eq hordered]
      cases hupper : Dict.find? es' key with
      | none => rfl
      | some w' =>
        have hmem := Dict.mem_of_find? hupper
        have hbelow : ∀ o, Dict.find? es key = some o → o.InOrder := fun o ho =>
          (inOrder_map.1 hes).2 _ (Dict.mem_of_find? ho)
        exact congrArg some (ih _ hmem (hinner _ hmem) _ hbelow)
    · have hover : laidOver old (map es') = map es' :=
        Value.laidOver_eq fun _ es _ hes => hmap ⟨es, hes⟩
      rw [hover]
      exact laidOver_self hw
  | _ => rfl

end Value

/-! ### Merged variables -/

/-- **Merging variables, path by path.**  Merged variables have a leaf at a path exactly if the
upper ones have it there, or the lower ones have it there and the upper ones bind neither the
path nor, to a leaf, a path above it.  So no leaf is made up, and none is lost unless the upper
variables replace it or something above it.  Laying variables over themselves, or a second time
over the same ones, changes nothing. -/
theorem leafAt_mergeVars (base upper : Dict Value) (hb : (Value.map base).InOrder)
    (hu : (Value.map upper).InOrder) :
    (∀ path v, (Value.map (mergeVars base upper)).LeafAt path v ↔
      (Value.map upper).LeafAt path v ∨
        ((Value.map base).LeafAt path v ∧ (Value.map upper).at? path = none ∧
          ∀ q w, q <+: path → q ≠ path → ¬ (Value.map upper).LeafAt q w)) ∧
    mergeVars base base = base ∧
    mergeVars (mergeVars base upper) upper = mergeVars base upper := by
  refine ⟨fun path v => ?_, ?_, ?_⟩
  · have hleaf := Value.leafAt_laidOver hu (some (.map base)) path v
    rw [Value.laidOver_map] at hleaf
    rw [hleaf]
    simp only [Option.some.injEq, exists_eq_left', Value.Spares]
  · have hself := Value.laidOver_self hb
    rw [Value.laidOver_map] at hself
    exact Value.map.inj hself
  · have htwice := Value.laidOver_laidOver hu (some (.map base)) fun o ho => Option.some.inj ho ▸ hb
    rw [Value.laidOver_map, Value.laidOver_map] at htwice
    exact Value.map.inj htwice

/-- A mapping with a mapping inside, and a plain value. -/
def lowerSample : Dict Value :=
  [("a", .map [("x", .int 1), ("y", .map [("z", .int 2)])]), ("b", .int 3)]

/-- A plain value over the inner mapping, and a mapping over the plain value. -/
def upperSample : Dict Value := [("a", .map [("y", .int 4)]), ("b", .map [("x", .null)])]

theorem leafAt_mergeVars_shadowing :
    (Value.map lowerSample).InOrder ∧ (Value.map upperSample).InOrder ∧
      (Value.map (mergeVars lowerSample upperSample)).LeafAt ["a", "x"] (.int 1) ∧
      ¬ (Value.map (mergeVars lowerSample upperSample)).LeafAt ["a", "y", "z"] (.int 2) ∧
      ¬ (Value.map (mergeVars lowerSample upperSample)).LeafAt ["b"] (.int 3) := by
  have hlower : (Value.map lowerSample).InOrder := by decide
  have hupper : (Value.map upperSample).InOrder := by decide
  obtain ⟨hleaf, -, -⟩ := leafAt_mergeVars lowerSample upperSample hlower hupper
  have hspares : (Value.map upperSample).Spares ["a", "x"] := by
    rw [upperSample, Value.spares_map_cons_iff]
    intro inner hinner
    obtain rfl := Option.some.inj hinner
    rw [Value.spares_map_cons_iff]
    intro w hw
    cases hw
  refine ⟨hlower, hupper, (hleaf _ _).2 (.inr ⟨⟨rfl, trivial⟩, hspares⟩), ?_, ?_⟩
  · rw [hleaf]
    rintro (⟨hat, -⟩ | ⟨-, -, habove⟩)
    · cases hat
    · exact habove ["a", "y"] (.int 4) ⟨["z"], rfl⟩ (by decide) ⟨rfl, trivial⟩
  · rw [hleaf]
    rintro (⟨hat, -⟩ | ⟨-, hnone, -⟩)
    · cases hat
    · cases hnone

end MailMerge
