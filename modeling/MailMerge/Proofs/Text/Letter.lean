/-
# Letters are no blanks

A word may start with any letter, and blanks in front of a word are dropped; so no letter may
be a blank.  In ASCII both are plain rules.  Beyond, the code points of blanks are few, and each
range of the table of letters lies in front of or behind every one of them
(`Text.apart_alphabeticTable`).
-/

import MailMerge.Text.CharClass
import Mathlib.Data.List.Basic

namespace MailMerge

/-- What holds of every character below 128 holds of every one in ASCII. -/
theorem forall_ascii {p : Char → Prop} (h : ∀ n < 128, p (Char.ofNat n)) {c : Char}
    (hc : c.toNat < 128) : p c := by
  have hp := h c.toNat hc
  rwa [Char.ofNat_toNat] at hp

namespace Text

namespace RangeSet

/-- What the search finds lies in one of the ranges. -/
theorem exists_of_search {ranges : Array (Nat × Nat)} {n lo hi : Nat}
    (h : search ranges n lo hi = true) : ∃ r ∈ ranges.toList, r.1 ≤ n ∧ n ≤ r.2 := by
  fun_induction search ranges n lo hi with
  | case1 => cases h
  | case2 _ _ _ _ _ _ _ _ ih => exact ih h
  | case3 _ _ _ _ _ _ _ _ _ ih => exact ih h
  | case4 lo hi _ mid first last hmid hfirst hlast =>
    refine ⟨(first, last), ?_, Nat.not_lt.1 hfirst, Nat.not_lt.1 hlast⟩
    exact Array.mem_toList_iff.2 (Array.mem_of_getElem? hmid)
  | case5 => cases h

/-- What holds of the ranges of each line of a table holds of all ranges. -/
theorem forall_ofTable {p : Nat × Nat → Bool} {table : List String}
    (h : ∀ line ∈ table, ((pieces ' ' line.toList).flatMap readEntry).all p = true) :
    ∀ r ∈ (ofTable table).ranges.toList, p r = true := by
  intro r hr
  obtain ⟨line, hline, hr⟩ := List.mem_flatMap.1 (show r ∈ table.flatMap _ from hr)
  exact List.all_eq_true.1 (h line hline) r hr

end RangeSet

/-- The code points of blanks beyond ASCII. -/
def farBlanks : List Nat :=
  [0x85, 0xa0, 0x1680, 0x2000, 0x2001, 0x2002, 0x2003, 0x2004, 0x2005, 0x2006, 0x2007, 0x2008,
    0x2009, 0x200a, 0x2028, 0x2029, 0x202f, 0x205f, 0x3000]

theorem mem_farBlanks {c : Char} (hc : ¬ c.toNat < 128) (h : isBlank c = true) :
    c.toNat ∈ farBlanks := by
  simp only [isBlank, Bool.or_eq_true, Bool.and_eq_true, decide_eq_true_eq, beq_iff_eq] at h
  simp only [farBlanks, List.mem_cons, List.not_mem_nil, or_false]
  omega

/-- Whether a range holds no blank beyond ASCII. -/
def isApart (r : Nat × Nat) : Bool := farBlanks.all fun n => n < r.1 || r.2 < n

/-- No range of letters holds a blank beyond ASCII. -/
theorem apart_alphabeticTable : ∀ r ∈ alphabeticTable.ranges.toList, isApart r = true := by
  unfold alphabeticTable
  refine RangeSet.forall_ofTable ?_
  repeat' refine List.forall_mem_cons.2 ⟨?_, ?_⟩
  all_goals
    first
      | exact List.forall_mem_nil _
      | rw [String.toList_ofList]
        decide +kernel

/-- **A character that starts a word is no blank.** -/
theorem isBlank_of_isIdentStart {c : Char} (h : isIdentStart c = true) : isBlank c = false := by
  by_cases hc : c.toNat < 128
  · exact forall_ascii (p := fun c => isIdentStart c = true → isBlank c = false) (by decide) hc h
  · refine Bool.eq_false_iff.2 fun hblank => ?_
    have hmem := mem_farBlanks hc hblank
    rw [isIdentStart, isLetter, if_neg hc, Bool.or_eq_true, beq_iff_eq] at h
    rcases h with h | rfl
    · obtain ⟨r, hr, hlow, hhigh⟩ := RangeSet.exists_of_search h
      have hapart := List.all_eq_true.1 (apart_alphabeticTable r hr) _ hmem
      simp only [Bool.or_eq_true, decide_eq_true_eq] at hapart
      omega
    · exact hc (by decide)

end Text
end MailMerge
