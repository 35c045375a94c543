/-
# Parts in a row

Texts are joined with a separator between neighbours, and so are the tokens of items and
arguments.  A row has room for each of its parts, and for one character or token for each
part that is not empty.
-/

import MailMerge.Text.Basic
import Mathlib.Data.List.Basic

namespace MailMerge

variable {α : Type} {p : List α} {ps : List (List α)}

theorem length_le_intercalate (sep : List α) (ps : List (List α)) (h : ∀ p ∈ ps, p ≠ []) :
    ps.length ≤ (sep.intercalate ps).length := by
  induction ps with
  | nil => exact Nat.zero_le _
  | cons p ps ih =>
    have hp := List.length_pos_iff.2 (h p List.mem_cons_self)
    cases ps with
    | nil =>
      rw [List.intercalate_singleton]
      exact hp
    | cons q qs =>
      have hmore := ih fun u hu => h u (List.mem_cons_of_mem _ hu)
      rw [List.intercalate_cons_cons, List.length_cons, List.length_append, List.length_append]
      omega

theorem part_le_intercalate (sep : List α) (h : p ∈ ps) :
    p.length ≤ (sep.intercalate ps).length := by
  induction ps with
  | nil => cases h
  | cons q ps ih =>
    cases ps with
    | nil =>
      obtain rfl := List.mem_singleton.1 h
      exact Nat.le_of_eq (congrArg List.length List.intercalate_singleton.symm)
    | cons r rs =>
      rw [List.intercalate_cons_cons, List.length_append, List.length_append]
      rcases List.mem_cons.1 h with rfl | h
      · omega
      · have := ih h
        omega

theorem toList_joinStrings (sep : String) (ps : List String) :
    (joinStrings sep ps).toList = sep.toList.intercalate (ps.map String.toList) := by
  induction ps with
  | nil => rfl
  | cons p ps ih =>
    cases ps with
    | nil => rw [List.map_singleton, List.intercalate_singleton, joinStrings]
    | cons q qs =>
      change (p ++ sep ++ joinStrings sep (q :: qs)).toList = _
      rw [String.toList_append, String.toList_append, ih]
      simp only [List.map_cons, List.intercalate_cons_cons]

end MailMerge
