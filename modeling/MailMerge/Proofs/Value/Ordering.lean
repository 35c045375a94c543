/-
# The order of values

Comparing two values the other way round turns the answer round (`Value.compare_swap`), for all
values.  Among values without floating-point numbers the order is that of the integers, that of
the texts, and the lexicographic one on lists: it is transitive (`Value.compare_climbs`), and it
calls equal just those of the values it knows that are equal (`Value.compare_eq_iff`).  It is
partial: a list may be less than another one although its items do not even compare with
themselves, because the first difference decides.
-/

import MailMerge.Proofs.Value.Equality

namespace MailMerge

/-- How two doubles compare is how the numbers they stand for do. -/
theorem Value.compareFloat_eq (x y : Float) :
    compareFloat x y = Float.Model.UnpackedFloat.compare x.toModel.unpack y.toModel.unpack := by
  have hlt : ∀ x y : Float, x < y ↔
      Float.Model.UnpackedFloat.compare x.toModel.unpack y.toModel.unpack = some .lt := by
    intro x y
    change decide (Float.Model.lt _ _ = true) = true ↔ _
    rw [decide_eq_true_iff]
    exact beq_iff_eq
  have heq : (x == y) = true ↔
      Float.Model.UnpackedFloat.compare x.toModel.unpack y.toModel.unpack = some .eq := by
    change Float.Model.beq _ _ = true ↔ _
    exact beq_iff_eq
  unfold compareFloat
  simp only [hlt, heq, Number.compare_unpacked_swap x.toModel.unpack y.toModel.unpack]
  rcases Float.Model.UnpackedFloat.compare x.toModel.unpack y.toModel.unpack with
    _ | (_ | _ | _) <;> rfl

/-- In a linear order answers that are not "greater" go together. -/
theorem compare_then {α : Type} [Ord α] [Std.TransOrd α] {a b c : α}
    (hab : compare a b ≠ .gt) (hbc : compare b c ≠ .gt) :
    compare a c = (compare a b).then (compare b c) := by
  cases h : compare a b with
  | lt => exact Std.TransCmp.lt_of_lt_of_isLE h (Ordering.ne_gt_iff_isLE.1 hbc)
  | eq => exact Std.TransCmp.congr_left h
  | gt => exact absurd h hab

namespace Value

variable {u v w : Value} {o o' : Ordering}

/-! ### Answers turned round -/

theorem compare_int (m n : Int64) :
    (int m).compare (int n) = some (Ord.compare m.toInt n.toInt) := by
  have h : (int m).compare (int n) =
      some (if m < n then .lt else if m = n then .eq else .gt) := by rw [Value.compare]
  simp only [h, Int64.lt_iff_toInt_lt, ← Int64.toInt_inj]
  rfl

theorem compare_str (s t : String) : (str s).compare (str t) = some (Ord.compare s t) := by
  rw [Value.compare]
  rfl

theorem compareFloat_swap (x y : Float) :
    compareFloat y x = (compareFloat x y).map Ordering.swap := by
  rw [compareFloat_eq, compareFloat_eq, Number.compare_unpacked_swap]

/-- **Comparing the other way round turns the answer round.** -/
theorem compare_swap (v w : Value) : w.compare v = (v.compare w).map Ordering.swap := by
  induction v using Value.induction generalizing w with
  | str s =>
    cases w with
    | str t => rw [compare_str, compare_str, Std.OrientedOrd.eq_swap (a := t), Option.map_some]
    | _ => simp only [Value.compare, Option.map_none]
  | int m =>
    cases w with
    | int n =>
      rw [compare_int, compare_int, Std.OrientedOrd.eq_swap (a := n.toInt), Option.map_some]
    | float y => simp only [Value.compare, compareFloat_swap m.toFloat y]
    | _ => simp only [Value.compare, Option.map_none]
  | float x =>
    cases w with
    | int n => simp only [Value.compare, compareFloat_swap x n.toFloat]
    | float y => simp only [Value.compare, compareFloat_swap x y]
    | _ => simp only [Value.compare, Option.map_none]
  | list vs ih =>
    cases w with
    | list ws =>
      rw [Value.compare, Value.compare]
      induction vs generalizing ws with
      | nil => cases ws <;> simp only [compareLists] <;> rfl
      | cons v vs ihr =>
        cases ws with
        | nil => simp only [compareLists]; rfl
        | cons w ws =>
          rw [compareLists, compareLists, ih v List.mem_cons_self w,
            ihr (fun v hv => ih v (List.mem_cons_of_mem _ hv)) ws]
          rcases v.compare w with _ | (_ | _ | _) <;> rfl
    | _ => simp only [Value.compare, Option.map_none]
  | _ => cases w <;> simp only [Value.compare, Option.map_none]

/-! ### Values without floating-point numbers -/

/-- Whether a value on its own is no floating-point number, not undefined and no handle. -/
def isExact : Value → Bool
  | float _ => false
  | undefined _ => false
  | lazy _ _ => false
  | _ => true

/-- No floating-point number, nothing undefined and no handle inside. -/
def Exact (v : Value) : Prop := v.every isExact = true

instance (v : Value) : Decidable v.Exact := inferInstanceAs (Decidable (_ = _))

theorem exact_list {items : List Value} : Exact (list items) ↔ ∀ v ∈ items, v.Exact := by
  simp [Exact, every, isExact, everyItem_iff]

theorem exact_map {entries : List (String × Value)} :
    Exact (map entries) ↔ ∀ e ∈ entries, e.2.Exact := by
  simp only [Exact, every, isExact, everyEntry_iff, Bool.true_and]

/-- A relation that is equality between the members of two rows makes the rows equal. -/
theorem forall₂_iff_eq {α : Type} {R : α → α → Prop} {xs ys : List α}
    (h : ∀ x ∈ xs, ∀ y ∈ ys, R x y ↔ x = y) : List.Forall₂ R xs ys ↔ xs = ys := by
  induction xs generalizing ys with
  | nil => cases ys <;> simp
  | cons x xs ih =>
    cases ys with
    | nil => simp
    | cons y ys =>
      have hrest := ih fun x hx y hy =>
        h x (List.mem_cons_of_mem _ hx) y (List.mem_cons_of_mem _ hy)
      rw [List.forall₂_cons, hrest, h x List.mem_cons_self y List.mem_cons_self, List.cons.injEq]

/-- Exact values are equal if they are the same. -/
theorem beq_iff_eq_of_exact (hv : v.Exact) (hw : w.Exact) : v.beq w = true ↔ v = w := by
  induction v using Value.induction generalizing w with
  | list vs ih =>
    cases w with
    | list ws =>
      rw [exact_list] at hv hw
      rw [beq, beqLists_iff, list.injEq]
      exact forall₂_iff_eq fun v h w h' => ih v h (hv v h) (hw w h')
    | _ => simp [beq]
  | map vs ih =>
    cases w with
    | map ws =>
      rw [exact_map] at hv hw
      rw [beq, beqEntries_iff, map.injEq]
      exact forall₂_iff_eq fun e h d h' =>
        (and_congr_right' (ih e h (hv e h) (hw d h'))).trans Prod.ext_iff.symm
    | _ => simp [beq]
  | float => cases hv
  | undefined => cases hv
  | lazy => cases hv
  | _ =>
    cases w with
    | float => cases hw
    | _ => simp [beq]

/-- Two texts, two integers or two lists: what has an order. -/
inductive Meets : Value → Value → Prop
  | str (s t : String) : Meets (str s) (str t)
  | int (m n : Int64) : Meets (int m) (int n)
  | list (vs ws : List Value) : Meets (list vs) (list ws)

theorem meets_of_compare (hv : v.Exact) (hw : w.Exact) (h : v.compare w = some o) : Meets v w := by
  cases v <;> cases w <;> first
    | constructor
    | cases hv; done
    | cases hw; done
    | simp [Value.compare] at h

/-- Exact values that compare as equal are the same. -/
theorem eq_of_compare (hv : v.Exact) (hw : w.Exact) (h : v.compare w = some .eq) : v = w := by
  have hmeets := meets_of_compare hv hw h
  induction v using Value.induction generalizing w with
  | str s =>
    cases hmeets
    rw [compare_str, Option.some.injEq, Std.LawfulEqOrd.compare_eq_iff_eq] at h
    rw [h]
  | int m =>
    cases hmeets
    rw [compare_int, Option.some.injEq, Std.LawfulEqOrd.compare_eq_iff_eq] at h
    rw [Int64.toInt_inj.1 h]
  | list vs ih =>
    obtain ⟨ws, rfl⟩ : ∃ ws, w = list ws := by
      cases hmeets
      exact ⟨_, rfl⟩
    clear hmeets
    rw [exact_list] at hv hw
    rw [Value.compare] at h
    induction vs generalizing ws with
    | nil => cases ws <;> simp [compareLists] at h ⊢
    | cons v vs ihr =>
      cases ws with
      | nil => simp [compareLists] at h
      | cons w ws =>
        rw [List.forall_mem_cons] at ih hv hw
        rw [compareLists] at h
        split at h
        · next heq =>
          rw [ih.1 hv.1 hw.1 heq (meets_of_compare hv.1 hw.1 heq),
            list.inj (ihr ih.2 hv.2 ws hw.2 h)]
        · next hne => exact absurd h hne
  | _ => cases hmeets

/-- **Exact values compare as equal just if they compare and are equal.** -/
theorem compare_eq_iff (hv : v.Exact) (hw : w.Exact) :
    v.compare w = some .eq ↔ v.beq w = true ∧ (v.compare w).isSome := by
  rw [beq_iff_eq_of_exact hv hw]
  constructor
  · intro h
    exact ⟨eq_of_compare hv hw h, by rw [h]; rfl⟩
  · rintro ⟨rfl, h⟩
    obtain ⟨o, ho⟩ := Option.isSome_iff_exists.1 h
    have hself := compare_swap v v
    rw [ho, Option.map_some, Option.some.injEq] at hself
    rw [ho]
    cases o <;> first | rfl | cases hself

/-- Two comparisons upwards make one, strict if one of them is. -/
def Climbs (u v w : Value) : Prop :=
  ∀ ⦃o o'⦄, u.compare v = some o → v.compare w = some o' → o ≠ .gt → o' ≠ .gt →
    u.compare w = some (o.then o')

/-- Where lists do not compare as greater, their first items are less, or equal and the rest
decides. -/
theorem first_of_compareLists {x y : Value} {xs ys : List Value} {o : Ordering}
    (h : compareLists (x :: xs) (y :: ys) = some o) (ho : o ≠ .gt) :
    (x.compare y = some .lt ∧ o = .lt) ∨
      (x.compare y = some .eq ∧ compareLists xs ys = some o) := by
  rw [compareLists] at h
  rcases hc : x.compare y with _ | (_ | _ | _) <;> simp only [hc, reduceCtorEq] at h
  · exact .inl ⟨rfl, (Option.some.inj h).symm⟩
  · exact .inr ⟨rfl, h⟩
  · exact absurd (Option.some.inj h).symm ho

/-- Lists climb if their items do: of the first differences of two steps the earlier decides. -/
theorem compareLists_climbs {us vs ws : List Value} {o o' : Ordering}
    (h : ∀ u ∈ us, ∀ v ∈ vs, ∀ w ∈ ws, Climbs u v w) (huv : compareLists us vs = some o)
    (hvw : compareLists vs ws = some o') (ho : o ≠ .gt) (ho' : o' ≠ .gt) :
    compareLists us ws = some (o.then o') := by
  induction us generalizing vs ws o o' with
  | nil =>
    cases vs with
    | nil =>
      cases huv
      exact hvw
    | cons v vs =>
      cases huv
      cases ws with
      | nil =>
        cases hvw
        exact absurd rfl ho'
      | cons w ws => rfl
  | cons u us ih =>
    cases vs with
    | nil =>
      cases huv
      exact absurd rfl ho
    | cons v vs =>
      cases ws with
      | nil =>
        cases hvw
        exact absurd rfl ho'
      | cons w ws =>
        have hfirst := h u List.mem_cons_self v List.mem_cons_self w List.mem_cons_self
        rw [compareLists]
        obtain ⟨huv', rfl⟩ | ⟨huv', hus⟩ := first_of_compareLists huv ho <;>
          obtain ⟨hvw', rfl⟩ | ⟨hvw', hvs⟩ := first_of_compareLists hvw ho' <;>
          rw [hfirst huv' hvw' (by decide) (by decide)]
        · rfl
        · rfl
        · cases o <;> first | rfl | exact absurd rfl ho
        · exact ih (fun u hu v hv w hw => h u (List.mem_cons_of_mem _ hu) v
            (List.mem_cons_of_mem _ hv) w (List.mem_cons_of_mem _ hw)) hus hvs ho ho'

/-- **The order of exact values is transitive,** and defined on two steps together where it is on
each. -/
theorem compare_climbs (hu : u.Exact) (hv : v.Exact) (hw : w.Exact) : Climbs u v w := by
  intro o o' huv hvw ho ho'
  have hmeets := meets_of_compare hu hv huv
  have hmeets' := meets_of_compare hv hw hvw
  induction u using Value.induction generalizing v w o o' with
  | str s =>
    cases hmeets
    cases hmeets'
    rw [compare_str] at huv hvw ⊢
    cases huv
    cases hvw
    rw [compare_then ho ho']
  | int m =>
    cases hmeets
    cases hmeets'
    rw [compare_int] at huv hvw ⊢
    cases huv
    cases hvw
    rw [compare_then ho ho']
  | list us ih =>
    cases hmeets
    cases hmeets'
    rw [exact_list] at hu hv hw
    rw [Value.compare] at huv hvw ⊢
    refine compareLists_climbs (fun u hu' v hv' w hw' _ _ huv hvw ho ho' => ?_) huv hvw ho ho'
    exact ih u hu' (hu u hu') (hv v hv') (hw w hw') huv hvw ho ho'
      (meets_of_compare (hu u hu') (hv v hv') huv) (meets_of_compare (hv v hv') (hw w hw') hvw)
  | _ => cases hmeets

end Value
end MailMerge
