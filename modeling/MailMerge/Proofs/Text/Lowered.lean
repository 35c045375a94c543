/-
# Texts in lower case

No text in lower case holds a letter `A`–`Z`: in ASCII these letters move, and beyond ASCII the
image of every run of the table lies above them (`Text.above_lowerRuns`).  So a character in lower
case is in ASCII either none of these letters or was moved there, as the Kelvin sign is to `k`.
-/

import MailMerge.Text.Case
import MailMerge.Proofs.Text.Letter

namespace MailMerge
namespace Text

/-- What holds of the runs of each line of a table holds of all runs. -/
theorem Run.forall_ofTable {p : Run → Bool} {table : List String}
    (h : ∀ line ∈ table, ((RangeSet.pieces ' ' line.toList).map Run.read).all p = true) :
    ∀ r ∈ Run.ofTable table, p r = true := by
  intro r hr
  obtain ⟨line, hline, hr⟩ := List.mem_flatMap.1 hr
  exact List.all_eq_true.1 (h line hline) r hr

/-- Whether the code points of a run move to places behind the letters `A`–`Z`. -/
def Run.isAbove (r : Run) : Bool := (0x5a : Int) < r.first + r.delta

theorem above_lowerRuns : ∀ r ∈ lowerRuns, r.isAbove = true := by
  unfold lowerRuns
  refine Run.forall_ofTable ?_
  repeat' refine List.forall_mem_cons.2 ⟨?_, ?_⟩
  all_goals
    first
      | exact List.forall_mem_nil _
      | rw [String.toList_ofList]
        decide +kernel

theorem lt_apply_lowerRuns {n : Nat} (hn : 0x5a < n) : 0x5a < Run.apply lowerRuns n := by
  rw [Run.apply]
  split
  · rename_i r hr
    have hruns : (0x5a : Int) < r.first + r.delta :=
      of_decide_eq_true (above_lowerRuns r (List.mem_of_find?_eq_some hr))
    have hheld := List.find?_some hr
    simp only [Run.contains, Bool.and_eq_true, decide_eq_true_eq] at hheld
    omega
  · exact hn

theorem isUpper_ofNat {n : Nat} (hn : 0x5a < n) : (Char.ofNat n).isUpper = false := by
  by_cases hvalid : n.isValidChar
  · have hval : (Char.ofNat n).val.toNat = n := by
      rw [Char.ofNat, dif_pos hvalid]
      rfl
    rw [Bool.eq_false_iff]
    intro hupper
    have hZ : (Char.ofNat n).val.toNat ≤ 'Z'.val.toNat :=
      UInt32.le_iff_toNat_le.1 (of_decide_eq_true hupper).2
    rw [hval] at hZ
    exact absurd hZ (Nat.not_le.2 hn)
  · rw [Char.ofNat, dif_neg hvalid]
    rfl

theorem isUpper_of_mem_lowerChar {c d : Char} (h : d ∈ lowerChar c) : d.isUpper = false := by
  rw [lowerChar] at h
  split_ifs at h with hascii hdotted
  · rw [List.mem_singleton.1 h]
    exact forall_ascii (p := fun c => c.toLower.isUpper = false) (by decide) hascii
  · obtain rfl | hd := List.mem_cons.1 h
    · rfl
    · rw [List.mem_singleton.1 hd]
      rfl
  · rw [List.mem_singleton.1 h]
    exact isUpper_ofNat (lt_apply_lowerRuns (by omega))

theorem isUpper_of_mem_lowerAfter {before cs : List Char} {d : Char}
    (h : d ∈ lowerAfter before cs) : d.isUpper = false := by
  induction cs generalizing before with
  | nil => exact absurd h List.not_mem_nil
  | cons c cs ih =>
    rw [lowerAfter] at h
    rcases List.mem_append.1 h with h | h
    · split_ifs at h
      · rw [List.mem_singleton.1 h]
        rfl
      · rw [List.mem_singleton.1 h]
        rfl
      · exact isUpper_of_mem_lowerChar h
    · exact ih h

/-- **No text in lower case holds a letter `A`–`Z`.** -/
theorem isUpper_of_mem_lower {cs : List Char} {d : Char} (h : d ∈ lower cs) : d.isUpper = false :=
  isUpper_of_mem_lowerAfter h

/-- An ASCII text without letters `A`–`Z` is in lower case. -/
theorem lowerAfter_of_ascii {before cs : List Char}
    (h : ∀ c ∈ cs, c.toNat < 128 ∧ c.isUpper = false) : lowerAfter before cs = cs := by
  induction cs generalizing before with
  | nil => rfl
  | cons c cs ih =>
    obtain ⟨⟨hascii, hupper⟩, hcs⟩ := List.forall_mem_cons.1 h
    have hlow : c.toLower = c :=
      forall_ascii (p := fun c => c.isUpper = false → c.toLower = c) (by decide) hascii hupper
    have hsigma : c.toNat ≠ 0x3a3 := by omega
    rw [lowerAfter, if_neg hsigma, lowerChar, if_pos hascii, hlow, ih hcs, List.singleton_append]

end Text
end MailMerge
