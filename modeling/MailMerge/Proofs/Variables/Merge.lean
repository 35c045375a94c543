/-
# Merged variables

Laying variables over others keeps their keys in order, at every depth, and what the
upper ones do not name is as it was below.
-/

import MailMerge.Config.Merge
import MailMerge.Proofs.Dict
import MailMerge.Proofs.Value.Inside

namespace MailMerge

namespace Value

theorem InOrder.insert {entries : Dict Value} (h : (map entries).InOrder) {v : Value}
    (hv : v.InOrder) (key : String) : (map (Dict.insert key v entries)).InOrder := by
  obtain ⟨ho, hin⟩ := inOrder_map.1 h
  refine inOrder_map.2 ⟨ho.insert key v, fun e he => ?_⟩
  rcases Dict.mem_insert he with rfl | he
  · exact hv
  · exact hin e he

/-- A mapping made of pairs is in order if their values are. -/
theorem inOrder_ofList {pairs : List (String × Value)} (h : ∀ p ∈ pairs, p.2.InOrder) :
    (map (Dict.ofList pairs)).InOrder :=
  inOrder_map.2 ⟨Dict.ordered_ofList pairs, Dict.forall_ofList h⟩

/-- What is laid over a value in order is in order. -/
theorem InOrder.laidOver {v : Value} (hv : v.InOrder) (old : Option Value)
    (hold : ∀ o, old = some o → o.InOrder) : (laidOver old v).InOrder := by
  induction v using Value.induction generalizing old with
  | map entries ih =>
    have hentries := (inOrder_map.1 hv).2
    -- entry by entry, as they are merged
    have hmerge : ∀ base : Dict Value, (map base).InOrder →
        (map (mergeEntries base entries)).InOrder := by
      clear hv
      induction entries with
      | nil => exact fun _ hb => hb
      | cons e rest ihr =>
        intro base hb
        have hlaid := ih e List.mem_cons_self (hentries e List.mem_cons_self)
          (Dict.find? base e.1) fun o ho =>
            (inOrder_map.1 hb).2 (e.1, o) (Dict.mem_of_find? ho)
        exact ihr (fun d hd => ih d (List.mem_cons_of_mem _ hd))
          (fun d hd => hentries d (List.mem_cons_of_mem _ hd)) _ (hb.insert hlaid e.1)
    unfold Value.laidOver
    split
    · exact hmerge _ (hold _ rfl)
    · exact hv
  | _ => exact hv

/-- Nothing but a mapping over a mapping is merged. -/
theorem laidOver_eq {old : Option Value} {v : Value}
    (h : ∀ es es', v = map es → old ≠ some (map es')) : laidOver old v = v := by
  cases v with
  | map es =>
    unfold laidOver
    split
    · exact absurd rfl (h _ _ rfl)
    · rfl
  | _ => rfl

end Value

variable {base upper : Dict Value} {key : String}

theorem inOrder_mergeVars (hb : (Value.map base).InOrder) (ho : (Value.map upper).InOrder) :
    (Value.map (mergeVars base upper)).InOrder :=
  ho.laidOver (some (.map base)) fun _ h => Option.some.inj h ▸ hb

/-- A variable that the upper ones do not name. -/
theorem find?_mergeVars (h : key ∉ Dict.keys upper) :
    Dict.find? (mergeVars base upper) key = Dict.find? base key := by
  unfold mergeVars
  induction upper generalizing base with
  | nil => rw [mergeEntries]
  | cons e rest ih =>
    obtain ⟨k, v⟩ := e
    rw [Dict.keys, List.map_cons, List.mem_cons, not_or] at h
    rw [mergeEntries, ih h.2, Dict.find?_insert, if_neg h.1]

/-- A variable that the upper ones name is laid over the one below. -/
theorem find?_mergeVars_of_mem {v : Value} (ho : Dict.Ordered upper) (h : (key, v) ∈ upper) :
    Dict.find? (mergeVars base upper) key = some (Value.laidOver (Dict.find? base key) v) := by
  induction upper generalizing base with
  | nil => exact absurd h List.not_mem_nil
  | cons e rest ih =>
    obtain ⟨k, w⟩ := e
    obtain ⟨hk, ho⟩ := List.pairwise_cons.1 ho
    rw [mergeVars, mergeEntries, ← mergeVars]
    rcases List.mem_cons.1 h with he | h
    · obtain ⟨rfl, rfl⟩ := Prod.mk.inj he
      have hnot : key ∉ Dict.keys rest := fun hin => by
        obtain ⟨p, hp, hkey⟩ := List.mem_map.1 hin
        exact (hk p hp).ne hkey.symm
      rw [find?_mergeVars hnot, Dict.find?_insert, if_pos rfl]
    · have hne : key ≠ k := (hk (key, v) h).ne'
      rw [ih ho h, Dict.find?_insert, if_neg hne]

/-- A mapping among merged variables comes from a mapping. -/
theorem exists_map_of_mergeVars {es : Dict Value}
    (h : Dict.find? (mergeVars base upper) key = some (.map es)) :
    (∃ es', Dict.find? base key = some (.map es')) ∨ ∃ es', (key, .map es') ∈ upper := by
  induction upper generalizing base with
  | nil => exact .inl ⟨es, h⟩
  | cons e rest ih =>
    obtain ⟨k, w⟩ := e
    rw [mergeVars, mergeEntries, ← mergeVars] at h
    rcases ih h with ⟨es', hbase⟩ | ⟨es', hrest⟩
    · rw [Dict.find?_insert] at hbase
      split_ifs at hbase with hk
      · subst hk
        cases w with
        | map ds => exact .inr ⟨ds, List.mem_cons_self⟩
        | _ => cases hbase
      · exact .inl ⟨es', hbase⟩
    · exact .inr ⟨es', List.mem_cons_of_mem _ hrest⟩

end MailMerge
