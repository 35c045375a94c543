/-
# Dictionaries in order

A dictionary built by `Dict.insert` has its keys in ascending order, each once.
Under that condition replacing the value of a key that is bound leaves everything
else where it stands (`Dict.exists_split`), so the keys, their order and all sums
over the entries follow at once.
-/

import MailMerge.Value.Dict
import Mathlib.Data.List.Basic
import Mathlib.Data.List.Induction
import Mathlib.Data.List.Sort
import Mathlib.Data.String.Basic

namespace MailMerge
namespace Dict

variable {α β : Type}

/-- The keys ascend. -/
def Ordered (d : Dict α) : Prop := d.Pairwise fun p q => p.1 < q.1

instance (d : Dict α) : Decidable d.Ordered := inferInstanceAs (Decidable (List.Pairwise _ d))

@[simp] theorem find?_nil (key : String) : find? ([] : Dict α) key = none := rfl

theorem find?_cons (k : String) (v : α) (d : Dict α) (key : String) :
    find? ((k, v) :: d) key = if key = k then some v else find? d key := by
  rw [find?, List.lookup_cons]
  by_cases h : key = k
  · rw [if_pos h, beq_iff_eq.2 h]
  · rw [if_neg h, beq_false_of_ne h, find?]

/-- A key bound in a dictionary stands in it with its value. -/
theorem mem_of_find? {d : Dict α} {key : String} {v : α} (h : find? d key = some v) :
    (key, v) ∈ d := by
  induction d with
  | nil => simp at h
  | cons p d ih =>
    obtain ⟨k, w⟩ := p
    rw [find?_cons] at h
    split_ifs at h with hk
    · obtain rfl := Option.some.inj h
      simp [hk]
    · exact List.mem_cons_of_mem _ (ih h)

/-- A key is bound exactly if it is among the keys. -/
theorem find?_eq_none_iff {d : Dict α} {key : String} : find? d key = none ↔ key ∉ keys d := by
  induction d with
  | nil => simp [keys]
  | cons p d ih =>
    obtain ⟨k, w⟩ := p
    rw [find?_cons]
    by_cases hk : key = k
    · simp [hk, keys]
    · simpa [hk, keys] using ih

theorem isSome_find?_iff {d : Dict α} {key : String} :
    (find? d key).isSome = true ↔ key ∈ keys d := by
  rw [← not_iff_not, ← find?_eq_none_iff, Option.not_isSome_iff_eq_none]

/-- **Insertion binds its key and no other.** -/
theorem find?_insert (d : Dict α) (key : String) (v : α) (k : String) :
    find? (insert key v d) k = if k = key then some v else find? d k := by
  induction d with
  | nil => rw [insert, find?_cons]
  | cons p d ih =>
    obtain ⟨l, w⟩ := p
    rw [insert]
    by_cases h₁ : key < l
    · rw [if_pos h₁, find?_cons]
    · rw [if_neg h₁, find?_cons]
      by_cases h₂ : key = l
      · rw [if_pos h₂, find?_cons, h₂]
        split_ifs <;> rfl
      · rw [if_neg h₂, find?_cons, ih]
        split_ifs with hl hk <;> first | rfl | exact absurd (hk.symm.trans hl) h₂

/-- The entries of an insertion are the one inserted and entries from before. -/
theorem mem_insert {d : Dict α} {key : String} {v : α} {p : String × α}
    (h : p ∈ insert key v d) : p = (key, v) ∨ p ∈ d := by
  induction d with
  | nil => simpa [insert] using h
  | cons q d ih =>
    obtain ⟨k, w⟩ := q
    rw [insert] at h
    split_ifs at h with h₁ h₂
    · simpa using h
    · rcases List.mem_cons.1 h with h | h
      · exact .inl h
      · exact .inr (List.mem_cons_of_mem _ h)
    · rcases List.mem_cons.1 h with h | h
      · exact .inr (h ▸ List.mem_cons_self)
      · exact (ih h).imp_right (List.mem_cons_of_mem _)

theorem Ordered.insert {d : Dict α} (hd : d.Ordered) (key : String) (v : α) :
    (Dict.insert key v d).Ordered := by
  induction d with
  | nil => simp [Dict.insert, Ordered]
  | cons p d ih =>
    obtain ⟨k, w⟩ := p
    obtain ⟨hk, hd⟩ := List.pairwise_cons.1 hd
    rw [Dict.insert]
    split_ifs with h₁ h₂
    · refine List.pairwise_cons.2 ⟨fun q hq => ?_, List.pairwise_cons.2 ⟨hk, hd⟩⟩
      rcases List.mem_cons.1 hq with rfl | hq
      · exact h₁
      · exact lt_trans h₁ (hk q hq)
    · exact List.pairwise_cons.2 ⟨h₂ ▸ hk, hd⟩
    · refine List.pairwise_cons.2 ⟨fun q hq => ?_, ih hd⟩
      rcases mem_insert hq with rfl | hq
      · exact lt_of_le_of_ne (not_lt.1 h₁) (Ne.symm h₂)
      · exact hk q hq

/-- Whether a dictionary is in order depends on its keys. -/
theorem ordered_iff_keys {d : Dict α} : d.Ordered ↔ (keys d).Pairwise (· < ·) := by
  rw [keys, List.pairwise_map]
  rfl

/-- **Replacing the value of a bound key touches nothing else.** -/
theorem exists_split {d : Dict α} (hd : d.Ordered) {key : String} {old : α}
    (h : find? d key = some old) :
    ∃ before after, d = before ++ (key, old) :: after ∧
      ∀ v, insert key v d = before ++ (key, v) :: after := by
  induction d with
  | nil => simp at h
  | cons p d ih =>
    obtain ⟨k, w⟩ := p
    obtain ⟨hk, hd⟩ := List.pairwise_cons.1 hd
    rw [find?_cons] at h
    split_ifs at h with he
    · obtain rfl := Option.some.inj h
      refine ⟨[], d, by simp [he], fun v => ?_⟩
      rw [insert, if_neg (by simp [he]), if_pos he, List.nil_append]
    · obtain ⟨before, after, rfl, hins⟩ := ih hd h
      have hlt : k < key := hk (key, old) (by simp)
      refine ⟨(k, w) :: before, after, rfl, fun v => ?_⟩
      rw [insert, if_neg (lt_asymm hlt), if_neg he, hins v, List.cons_append]

theorem keys_insert {d : Dict α} (hd : d.Ordered) {key : String} {old : α}
    (h : find? d key = some old) (v : α) : keys (insert key v d) = keys d := by
  obtain ⟨before, after, rfl, hins⟩ := exists_split hd h
  simp [hins, keys]

/-- Looking up each key of an ordered dictionary gives its entries back. -/
theorem find?_of_mem {d : Dict α} (hd : d.Ordered) {p : String × α} (hp : p ∈ d) :
    find? d p.1 = some p.2 := by
  induction d with
  | nil => simp at hp
  | cons q d ih =>
    obtain ⟨k, w⟩ := q
    obtain ⟨hk, hd⟩ := List.pairwise_cons.1 hd
    rw [find?_cons]
    rcases List.mem_cons.1 hp with rfl | hp
    · simp
    · rw [if_neg (ne_of_gt (hk p hp)), ih hd hp]

/-- Dictionaries in order are equal if they bind the same keys to the same values. -/
theorem Ordered.eq_of_find? {d d' : Dict α} (hd : d.Ordered) (hd' : d'.Ordered)
    (h : ∀ key, find? d key = find? d' key) : d = d' := by
  have hirrefl : Std.Irrefl fun p q : String × α => p.1 < q.1 := ⟨fun _ => lt_irrefl _⟩
  have hantisymm : Std.Antisymm fun p q : String × α => p.1 < q.1 :=
    ⟨fun _ _ hpq hqp => absurd hqp (lt_asymm hpq)⟩
  have hmem : ∀ {d d' : Dict α}, d.Ordered → (∀ key, find? d key = find? d' key) →
      ∀ p ∈ d, p ∈ d' := fun hd h p hp => mem_of_find? ((h p.1).symm.trans (find?_of_mem hd hp))
  exact List.Pairwise.eq_of_mem_iff hd hd' fun p =>
    ⟨hmem hd h p, hmem hd' (fun key => (h key).symm) p⟩

/-- A dictionary for keys that each have a value. -/
theorem exists_of_keys {ks : List String} {p : String → α → Prop} (h : ∀ k ∈ ks, ∃ v, p k v) :
    ∃ d : Dict α, keys d = ks ∧ ∀ e ∈ d, p e.1 e.2 := by
  induction ks with
  | nil => exact ⟨[], rfl, by simp⟩
  | cons k ks ih =>
    obtain ⟨v, hv⟩ := h k List.mem_cons_self
    obtain ⟨d, hd, hp⟩ := ih fun k hk => h k (List.mem_cons_of_mem _ hk)
    exact ⟨(k, v) :: d, congrArg _ hd, List.forall_mem_cons.2 ⟨hv, hp⟩⟩

/-- The entries of one dictionary put over those of another. -/
def overlay (top base : Dict α) : Dict α := top.foldr (fun p d => insert p.1 p.2 d) base

theorem find?_overlay (top base : Dict α) (key : String) :
    find? (overlay top base) key = (find? top key).or (find? base key) := by
  induction top with
  | nil => rfl
  | cons p top ih =>
    obtain ⟨k, v⟩ := p
    rw [overlay, List.foldr_cons, find?_insert, find?_cons]
    split_ifs
    · rfl
    · exact ih

/-- Entries made anew from their keys, those left out that a key gives no value for. -/
theorem find?_filterMap (d : Dict α) (f : String → Option β) (key : String) :
    find? (d.filterMap fun e => (f e.1).map (e.1, ·)) key = if d.has key then f key else none := by
  induction d with
  | nil => rfl
  | cons e d ih =>
    obtain ⟨k, x⟩ := e
    rw [has, find?_cons, List.filterMap_cons]
    rcases hk : f k with _ | v
    · simp only [Option.map_none, ih]
      split_ifs with h₁ h₂ h₂ <;> simp_all [has]
    · simp only [Option.map_some, find?_cons, ih]
      split_ifs with h₁ h₂ h₂ <;> simp_all [has]

/-- A key above all others goes to the end. -/
theorem insert_of_forall_lt {d : Dict α} {key : String} (v : α)
    (h : ∀ e ∈ d, e.1 < key) : insert key v d = d ++ [(key, v)] := by
  induction d with
  | nil => rfl
  | cons e d ih =>
    have hlt := h e List.mem_cons_self
    rw [insert, if_neg (lt_asymm hlt), if_neg (ne_of_gt hlt),
      ih fun e' he => h e' (List.mem_cons_of_mem _ he)]
    rfl

theorem ofList_concat (pairs : List (String × α)) (p : String × α) :
    ofList (pairs ++ [p]) = insert p.1 p.2 (ofList pairs) := List.foldl_concat ..

theorem ordered_ofList (pairs : List (String × α)) : Ordered (ofList pairs) := by
  induction pairs using List.reverseRecOn with
  | nil => exact List.Pairwise.nil
  | append_singleton pairs p ih =>
    rw [ofList_concat]
    exact ih.insert p.1 p.2

/-- The values are among those of the pairs. -/
theorem forall_ofList {pairs : List (String × α)} {q : α → Prop} (h : ∀ p ∈ pairs, q p.2) :
    ∀ p ∈ ofList pairs, q p.2 := by
  induction pairs using List.reverseRecOn with
  | nil => exact h
  | append_singleton pairs p ih =>
    rw [List.forall_mem_append, List.forall_mem_singleton] at h
    intro e he
    rw [ofList_concat] at he
    rcases mem_insert he with rfl | he
    · exact h.2
    · exact ih h.1 e he

/-- The last pair of a key counts. -/
theorem find?_ofList (pairs : List (String × α)) (key : String) :
    find? (ofList pairs) key = pairs.reverse.lookup key := by
  induction pairs using List.reverseRecOn with
  | nil => rfl
  | append_singleton pairs p ih =>
    obtain ⟨k, v⟩ := p
    rw [ofList_concat, find?_insert, ih, List.reverse_concat, List.lookup_cons]
    by_cases h : key = k
    · simp [h]
    · simp [h, beq_false_of_ne h]

/-- A key has the value of the last pair that has the key. -/
theorem find?_ofList_eq_some_iff {pairs : List (String × α)} {key : String} {v : α} :
    find? (ofList pairs) key = some v ↔
      ∃ j : Nat, pairs[j]? = some (key, v) ∧ ∀ k, j < k → (keys pairs)[k]? ≠ some key := by
  induction pairs using List.reverseRecOn with
  | nil => simp [ofList]
  | append_singleton pairs p ih =>
    obtain ⟨l, w⟩ := p
    have hkeys : keys (pairs ++ [(l, w)]) = keys pairs ++ [l] := by simp [keys]
    have hlength : (keys pairs).length = pairs.length := by simp [keys]
    rw [ofList_concat, find?_insert, hkeys]
    by_cases hl : key = l
    · subst hl
      rw [if_pos rfl]
      constructor
      · rintro ⟨⟩
        refine ⟨pairs.length, by simp, fun k hk hkey => ?_⟩
        rw [List.getElem?_eq_none (by simp; omega)] at hkey
        cases hkey
      · rintro ⟨j, hj, hbehind⟩
        -- in front of the last pair there is one behind with the same key
        have hle : pairs.length ≤ j := by
          by_contra hlt
          exact hbehind pairs.length (by omega) (by simp [← hlength])
        obtain ⟨hbound, -⟩ := List.getElem?_eq_some_iff.1 hj
        have hlast : j = pairs.length := by simp at hbound; omega
        simpa [hlast] using hj
    · rw [if_neg hl, ih]
      constructor
      · rintro ⟨j, hj, hbehind⟩
        obtain ⟨hbound, -⟩ := List.getElem?_eq_some_iff.1 hj
        refine ⟨j, by rw [List.getElem?_append_left hbound, hj], fun k hk hkey => ?_⟩
        rw [List.getElem?_append] at hkey
        split_ifs at hkey with hin
        · exact hbehind k hk hkey
        · simp [List.getElem?_singleton, Ne.symm hl] at hkey
      · rintro ⟨j, hj, hbehind⟩
        rw [List.getElem?_append] at hj
        split_ifs at hj with hin
        · refine ⟨j, hj, fun k hk hkey => hbehind k hk ?_⟩
          obtain ⟨hbound, -⟩ := List.getElem?_eq_some_iff.1 hkey
          rw [List.getElem?_append_left hbound, hkey]
        · simp [List.getElem?_singleton, Ne.symm hl] at hj

/-- The keys of the pairs are bound, and no others. -/
theorem isSome_find?_ofList {pairs : List (String × α)} {key : String} :
    (find? (ofList pairs) key).isSome = true ↔ key ∈ keys pairs := by
  have hreverse : key ∈ keys pairs.reverse ↔ key ∈ keys pairs := by
    rw [keys, List.map_reverse, List.mem_reverse, keys]
  rw [find?_ofList, ← hreverse]
  exact isSome_find?_iff

end Dict
end MailMerge
