/-
# Sorting values

The insertion behind the filters `sort`, `min` and `max` treats items that do not compare as
equal and only remembers that it met such a pair.  Among items without floating-point numbers
that is enough: a run that met no such pair leaves a list in ascending order
(`Filters.sortBack_descends`), and in a list in ascending order any two items compare, since the
order is transitive.  So sorting succeeds just on the lists whose items compare two by two.
-/

import MailMerge.Filter.Apply
import MailMerge.Proofs.Value.Ordering

namespace MailMerge

namespace Value

variable {u v w : Value}

/-- Two values that compare. -/
def Comparable (v w : Value) : Prop := (v.compare w).isSome = true

/-- The first value compares as less than, or equal to, the second. -/
def AtMost (v w : Value) : Prop := v.compare w = some .lt ∨ v.compare w = some .eq

instance (v w : Value) : Decidable (Comparable v w) := inferInstanceAs (Decidable (_ = true))

theorem Comparable.symm (h : Comparable v w) : Comparable w v := by
  rw [Comparable, compare_swap, Option.isSome_map]
  exact h

theorem AtMost.comparable (h : AtMost v w) : Comparable v w := by
  rw [Comparable]
  obtain h | h := h <;> rw [h] <;> rfl

theorem AtMost.trans (hu : u.Exact) (hv : v.Exact) (hw : w.Exact) (huv : AtMost u v)
    (hvw : AtMost v w) : AtMost u w := by
  have hclimbs := compare_climbs hu hv hw
  obtain huv | huv := huv <;> obtain hvw | hvw := hvw
  · exact .inl (hclimbs huv hvw (by decide) (by decide))
  · exact .inl (hclimbs huv hvw (by decide) (by decide))
  · exact .inl (hclimbs huv hvw (by decide) (by decide))
  · exact .inr (hclimbs huv hvw (by decide) (by decide))

/-- A value that compares, and not as less, is at least the other one. -/
theorem atMost_of_compare {o : Ordering} (h : v.compare w = some o) (ho : o ≠ .lt) :
    AtMost w v := by
  rw [AtMost, compare_swap, h]
  cases o with
  | lt => exact absurd rfl ho
  | eq => exact .inr rfl
  | gt => exact .inl rfl

/-- Exact values in ascending order are the same or strictly ascend. -/
theorem AtMost.eq_or_lt (hv : v.Exact) (hw : w.Exact) (h : AtMost v w) :
    v = w ∨ v.compare w = some .lt :=
  h.symm.imp_left (eq_of_compare hv hw)

end Value

namespace Filters

open Value

variable {x : Value} {items ys : List Value}

/-! ### One insertion -/

theorem insertBack_perm (x : Value) (ys : List Value) : (insertBack x ys).1.Perm (x :: ys) := by
  induction ys with
  | nil => rfl
  | cons y ys ih =>
    rw [insertBack]
    split
    · exact (ih.cons y).trans (.swap x y ys)
    · rfl
    · rfl

/-- An item that compares with all others meets none it does not compare with. -/
theorem insertBack_clean (h : ∀ y ∈ ys, Comparable x y) : (insertBack x ys).2 = none := by
  induction ys with
  | nil => rfl
  | cons y ys ih =>
    rw [List.forall_mem_cons] at h
    rw [insertBack]
    split
    · exact ih h.2
    · rfl
    · next hnone =>
      rw [Comparable, hnone] at h
      cases h.1

/-- An insertion into a descending list that met no pair it could not compare leaves it so. -/
theorem insertBack_descends (hx : x.Exact) (hys : ∀ y ∈ ys, y.Exact)
    (hdesc : ys.Pairwise fun v w => AtMost w v) (hclean : (insertBack x ys).2 = none) :
    (insertBack x ys).1.Pairwise fun v w => AtMost w v := by
  induction ys with
  | nil => exact List.pairwise_singleton _ _
  | cons y ys ih =>
    obtain ⟨hy, hys⟩ := List.forall_mem_cons.1 hys
    obtain ⟨hbelow, hdesc'⟩ := List.pairwise_cons.1 hdesc
    rw [insertBack] at hclean ⊢
    split at hclean
    · next hlt =>
      refine List.pairwise_cons.2 ⟨fun z hz => ?_, ih hys hdesc' hclean⟩
      obtain rfl | hz := List.mem_cons.1 ((insertBack_perm x ys).mem_iff.1 hz)
      · exact .inl hlt
      · exact hbelow z hz
    · next hne hsome =>
      have hyx : AtMost y x := atMost_of_compare hsome hne
      refine List.pairwise_cons.2 ⟨fun z hz => ?_, hdesc⟩
      obtain rfl | hz := List.mem_cons.1 hz
      · exact hyx
      · exact (hbelow z hz).trans (hys z hz) hy hx hyx
    · cases hclean

/-! ### The run -/

theorem sortBack_concat (items : List Value) (x : Value) :
    sortBack (items ++ [x]) = insertNext (sortBack items) x := by
  rw [sortBack, List.foldl_append]
  rfl

theorem sortBack_perm (items : List Value) : (sortBack items).1.Perm items := by
  induction items using List.reverseRecOn with
  | nil => rfl
  | append_singleton items x ih =>
    rw [sortBack_concat]
    calc (insertBack x (sortBack items).1).1.Perm (x :: (sortBack items).1) := insertBack_perm x _
      List.Perm _ (x :: items) := ih.cons x
      List.Perm _ (items ++ [x]) := (List.perm_append_singleton x items).symm

/-- A run over exact items that met no pair it could not compare leaves them in order. -/
theorem sortBack_descends (hitems : ∀ v ∈ items, v.Exact) (hclean : (sortBack items).2 = none) :
    (sortBack items).1.Pairwise fun v w => AtMost w v := by
  induction items using List.reverseRecOn with
  | nil => exact .nil
  | append_singleton items x ih =>
    rw [List.forall_mem_append] at hitems
    rw [sortBack_concat] at hclean ⊢
    obtain ⟨hbefore, hnow⟩ := Option.or_eq_none_iff.1 hclean
    exact insertBack_descends (hitems.2 x (List.mem_singleton_self x))
      (fun y hy => hitems.1 y ((sortBack_perm items).mem_iff.1 hy)) (ih hitems.1 hbefore) hnow

/-- A run over items that compare two by two meets no pair it cannot compare. -/
theorem sortBack_clean (h : items.Pairwise Comparable) : (sortBack items).2 = none := by
  induction items using List.reverseRecOn with
  | nil => rfl
  | append_singleton items x ih =>
    obtain ⟨hitems, -, hx⟩ := List.pairwise_append.1 h
    rw [sortBack_concat]
    refine Option.or_eq_none_iff.2 ⟨ih hitems, insertBack_clean fun y hy => ?_⟩
    exact (hx y ((sortBack_perm items).mem_iff.1 hy) x (List.mem_singleton_self x)).symm

/-- **A run over exact items is clean just if they compare two by two.** -/
theorem sortBack_clean_iff (hitems : ∀ v ∈ items, v.Exact) :
    (sortBack items).2 = none ↔ items.Pairwise Comparable := by
  refine ⟨fun h => ?_, sortBack_clean⟩
  have hdesc := sortBack_descends hitems h
  exact (sortBack_perm items).pairwise (hdesc.imp fun h => h.comparable.symm) fun h => h.symm

/-- The items of a clean run in ascending order. -/
theorem sorted_of_comparable (hitems : ∀ v ∈ items, v.Exact) (h : items.Pairwise Comparable) :
    ∃ l : List Value, l.Perm items ∧ l.Pairwise AtMost ∧ sorted items = pure l := by
  have hclean := sortBack_clean h
  refine ⟨(sortBack items).1.reverse, (List.reverse_perm _).trans (sortBack_perm items),
    List.pairwise_reverse.2 (sortBack_descends hitems hclean), ?_⟩
  rw [sorted]
  split
  · next hback => rw [hback]
  · next hback =>
    rw [hback] at hclean
    cases hclean

/-- The error names the kinds of the first two items that did not compare. -/
theorem sorted_of_not_comparable (hitems : ∀ v ∈ items, v.Exact)
    (h : ¬ items.Pairwise Comparable) :
    ∃ l r, sorted items = throw (.invalid (.cannotCompare l r)) := by
  rw [← sortBack_clean_iff hitems] at h
  rw [sorted]
  split
  · next hback =>
    rw [hback] at h
    exact absurd rfl h
  · exact ⟨_, _, rfl⟩

/-- The filter `sort` on a list whose items can be put in order. -/
theorem sort_of_sorted {l : List Value} (h : sorted items = pure l) (given : Arguments) :
    sort (.list items) given =
      pure (.list (if given.flag 0 "reverse" then l.reverse else l)) := by
  have hitems : (Value.list items).items = pure items := rfl
  rw [sort, hitems, pure_bind, h, pure_bind]

theorem min_of_sorted {l : List Value} {v : Value} (h : sorted items = pure l)
    (hv : l.head? = some v) : min (.list items) = pure v := by
  have hitems : (Value.list items).items = pure items := rfl
  rw [min, hitems, pure_bind, h, pure_bind, hv, Option.getD_some]

theorem max_of_sorted {l : List Value} {v : Value} (h : sorted items = pure l)
    (hv : l.getLast? = some v) : max (.list items) = pure v := by
  have hitems : (Value.list items).items = pure items := rfl
  rw [max, hitems, pure_bind, h, pure_bind, hv, Option.getD_some]

/-- **Sorting succeeds just if the items compare two by two.** -/
theorem sort_ok_iff (hitems : ∀ v ∈ items, v.Exact) (given : Arguments) (m : Memory) :
    (∃ v m', sort (.list items) given m = .ok v m') ↔ items.Pairwise Comparable := by
  constructor
  · rintro ⟨v, m', hv⟩
    by_contra hnot
    obtain ⟨l, r, hthrow⟩ := sorted_of_not_comparable hitems hnot
    have herror : sort (.list items) given = throw (.invalid (.cannotCompare l r)) := by
      have hlist : (Value.list items).items = pure items := rfl
      rw [sort, hlist, pure_bind, hthrow]
      rfl
    rw [herror] at hv
    cases hv
  · intro h
    obtain ⟨l, -, -, hsorted⟩ := sorted_of_comparable hitems h
    rw [sort_of_sorted hsorted]
    exact ⟨_, _, rfl⟩

/-- The first item of an ascending list comes before every other one, and the last after. -/
theorem extremes {l : List Value} {least greatest : Value} (hl : ∀ v ∈ l, v.Exact)
    (hasc : l.Pairwise AtMost) (hleast : l.head? = some least)
    (hgreatest : l.getLast? = some greatest) {v : Value} (hv : v ∈ l) :
    (v = least ∨ least.compare v = some .lt) ∧ (v = greatest ∨ v.compare greatest = some .lt) := by
  constructor
  · obtain ⟨rest, rfl⟩ := List.head?_eq_some_iff.1 hleast
    obtain rfl | hrest := List.mem_cons.1 hv
    · exact .inl rfl
    · exact ((List.rel_of_pairwise_cons hasc hrest).eq_or_lt (hl _ List.mem_cons_self)
        (hl v hv)).imp_left Eq.symm
  · obtain ⟨front, rfl⟩ := List.getLast?_eq_some_iff.1 hgreatest
    obtain hfront | hlast := List.mem_append.1 hv
    · have hbelow := (List.pairwise_append.1 hasc).2.2 v hfront greatest
        (List.mem_singleton_self greatest)
      exact hbelow.eq_or_lt (hl v hv) (hl greatest (by simp))
    · exact .inl (List.mem_singleton.1 hlast)

end Filters

namespace Filter

open Filters Value

/-- **What sorting does,** on lists without floating-point numbers, undefined values and
handles.  The filter `sort` succeeds just if any two items compare.  Then it gives the items in
ascending order, or in exactly the reverse one if asked for, and `min` and `max` give the first
and the last of them; every item is the least or more, and the greatest or less.  (A single
`none` is sorted, and is the least item, although it does not compare with itself.)  The order
behind this answers the other way round for values the other way round, is transitive, and calls
equal just what compares and is equal. -/
theorem sort_correct (items : List Value) (hitems : ∀ v ∈ items, v.Exact) :
    (∀ a given m, (∃ v m', Filter.apply a .sort (.list items) given m = .ok v m') ↔
      items.Pairwise Comparable) ∧
    (items.Pairwise Comparable → ∃ sorted : List Value,
      sorted.Perm items ∧ sorted.Pairwise AtMost ∧
      (∀ a given, Filter.apply a .sort (.list items) given =
        pure (.list (if given.flag 0 "reverse" then sorted.reverse else sorted))) ∧
      (items ≠ [] → ∃ least greatest, sorted.head? = some least ∧ sorted.getLast? = some greatest ∧
        (∀ a given, Filter.apply a .min (.list items) given = pure least) ∧
        (∀ a given, Filter.apply a .max (.list items) given = pure greatest) ∧
        ∀ v ∈ items, (v = least ∨ least.compare v = some .lt) ∧
          (v = greatest ∨ v.compare greatest = some .lt))) ∧
    ∀ u v w : Value, u.Exact → v.Exact → w.Exact →
      v.compare u = (u.compare v).map Ordering.swap ∧
      (AtMost u v → AtMost v w → AtMost u w) ∧
      (u.compare v = some .eq ↔ u.beq v = true ∧ Comparable u v) := by
  refine ⟨fun a given m => sort_ok_iff hitems given m, fun hcomparable => ?_,
    fun u v w hu hv hw => ⟨compare_swap u v, .trans hu hv hw, compare_eq_iff hu hv⟩⟩
  obtain ⟨l, hperm, hasc, hsorted⟩ := sorted_of_comparable hitems hcomparable
  refine ⟨l, hperm, hasc, fun a given => sort_of_sorted hsorted given, fun hne => ?_⟩
  have hne' : l ≠ [] := fun h => hne (List.perm_nil.1 (h ▸ hperm.symm))
  refine ⟨l.head hne', l.getLast hne', List.head?_eq_some_head hne',
    List.getLast?_eq_some_getLast hne',
    fun a given => min_of_sorted hsorted (List.head?_eq_some_head hne'),
    fun a given => max_of_sorted hsorted (List.getLast?_eq_some_getLast hne'), fun v hv => ?_⟩
  exact extremes (fun v hv => hitems v (hperm.mem_iff.1 hv)) hasc (List.head?_eq_some_head hne')
    (List.getLast?_eq_some_getLast hne') (hperm.mem_iff.2 hv)

/-- Lists that differ before they come to items that do not compare can be sorted. -/
theorem sort_lists_differing_early :
    ∃ sorted : List Value, sorted.Perm [.list [.int 2, .null], .list [.int 1, .null], .list []] ∧
      sorted.Pairwise AtMost ∧ ∀ a given,
        Filter.apply a .sort (.list [.list [.int 2, .null], .list [.int 1, .null], .list []])
          given = pure (.list (if given.flag 0 "reverse" then sorted.reverse else sorted)) := by
  obtain ⟨-, hsort, -⟩ := sort_correct
    [.list [.int 2, .null], .list [.int 1, .null], .list []] (by decide)
  obtain ⟨sorted, hperm, hasc, hsorted, -⟩ := hsort (by decide)
  exact ⟨sorted, hperm, hasc, hsorted⟩

end Filter
end MailMerge
