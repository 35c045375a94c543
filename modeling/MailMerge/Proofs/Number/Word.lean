/-
# Integers as digits

The digits of a natural number denote it, and only those of zero start with a zero.  So
an integer of 64 bits is read back from its digits (`Number.readInt?_toDigits`).
-/

import MailMerge.Number.Word
import Mathlib.Tactic.IntervalCases

namespace MailMerge
namespace Number

/-- What holds of the ten digits holds of every digit. -/
theorem forall_isDigit {p : Char → Prop} (h : ∀ d < 10, p (Nat.digitChar d)) {c : Char}
    (hc : c.isDigit = true) : p c := by
  have hbounds : 48 ≤ c.toNat ∧ c.toNat ≤ 57 := by
    simpa [Char.isDigit, UInt32.le_iff_toNat_le] using hc
  have hten : ∀ n : Nat, 48 ≤ n → n ≤ 57 → Char.ofNat n = Nat.digitChar (n - 48) := by
    intro n hlow hhigh
    interval_cases n <;> rfl
  rw [← Char.ofNat_toNat c, hten c.toNat hbounds.1 hbounds.2]
  exact h _ (by omega)

/-- **The digits of a number denote it.** -/
theorem ofDigits_toDigits (n : Nat) : ofDigits (Nat.toDigits 10 n) = n := by
  refine Eq.trans ?_ (Nat.ofDigitChars_ten_toDigits (n := n))
  rw [Nat.ofDigitChars_eq_foldl]
  rfl

theorem isDigit_of_mem_toDigits {n : Nat} {c : Char} (h : c ∈ Nat.toDigits 10 n) :
    c.isDigit = true :=
  Nat.isDigit_of_mem_toDigits (b := 10) (by decide) (by decide) h

theorem isDigits_toDigits (n : Nat) : isDigits (Nat.toDigits 10 n) = true := by
  rw [isDigits, Bool.and_eq_true, Bool.not_eq_true', List.isEmpty_eq_false_iff, List.all_eq_true]
  exact ⟨Nat.toDigits_ne_nil, fun c hc => isDigit_of_mem_toDigits hc⟩

/-- **Only zero starts with a zero.** -/
theorem toDigits_eq_zero_cons {n : Nat} {cs : List Char} (h : Nat.toDigits 10 n = '0' :: cs) :
    n = 0 ∧ cs = [] := by
  induction n using Nat.strongRecOn generalizing cs with
  | ind n ih =>
    rcases Nat.lt_or_ge n 10 with hn | hn
    · rw [Nat.toDigits_of_lt_base hn] at h
      have hdigit : ∀ d < 10, Nat.digitChar d = '0' → d = 0 := by decide
      obtain ⟨hc, rfl⟩ := List.cons.inj h
      exact ⟨hdigit n hn hc, rfl⟩
    · -- the digits before the last one are those of a smaller number, which is not zero
      rw [Nat.toDigits_of_base_le (by decide) hn] at h
      obtain ⟨c, ds, hds⟩ :=
        List.exists_cons_of_ne_nil (Nat.toDigits_ne_nil (b := 10) (n := n / 10))
      rw [hds, List.cons_append] at h
      obtain ⟨rfl, -⟩ := List.cons.inj h
      have hzero := (ih (n / 10) (by omega) hds).1
      omega

/-- The digits of a number start with one. -/
theorem toDigits_eq_cons (n : Nat) :
    ∃ c ds, Nat.toDigits 10 n = c :: ds ∧ c.isDigit = true := by
  obtain ⟨c, ds, hds⟩ := List.exists_cons_of_ne_nil (Nat.toDigits_ne_nil (b := 10) (n := n))
  exact ⟨c, ds, hds, isDigit_of_mem_toDigits (hds ▸ List.mem_cons_self)⟩

/-- No digit is taken for a sign. -/
theorem splitSign_toDigits_append (n : Nat) (cs : List Char) :
    splitSign (Nat.toDigits 10 n ++ cs) = (false, Nat.toDigits 10 n ++ cs) := by
  obtain ⟨c, ds, hds, hdigit⟩ := toDigits_eq_cons n
  rw [hds, List.cons_append, splitSign.eq_def]
  split
  · next h => exact absurd ((List.cons.inj h).1 ▸ hdigit) (by decide)
  · next h => exact absurd ((List.cons.inj h).1 ▸ hdigit) (by decide)
  · rfl

theorem splitSign_toDigits (n : Nat) :
    splitSign (Nat.toDigits 10 n) = (false, Nat.toDigits 10 n) := by
  simpa using splitSign_toDigits_append n []

/-- **A number is read back from its digits,** if it fits. -/
theorem readInt?_toDigits (n : Nat) : readInt? (Nat.toDigits 10 n) = fit? n := by
  rw [readInt?, splitSign_toDigits]
  simp only [isDigits_toDigits, if_true, ofDigits_toDigits, Bool.false_eq_true, if_false]

/-- A 64-bit integer as text: its digits, behind a minus if it is negative. -/
theorem toList_toString (n : Int64) : (toString n.toInt).toList =
    if n.toInt < 0 then '-' :: Nat.toDigits 10 n.toInt.natAbs
    else Nat.toDigits 10 n.toInt.natAbs := by
  rcases hn : n.toInt with m | m
  · have hnonneg : ¬ Int.ofNat m < 0 := Int.not_lt.2 (Int.natCast_nonneg m)
    rw [if_neg hnonneg]
    exact String.toList_ofList
  · rw [if_pos (Int.negSucc_lt_zero m)]
    change ("-" ++ String.ofList (Nat.toDigits 10 (m + 1))).toList = _
    rw [String.toList_append]
    exact congrArg ('-' :: ·) String.toList_ofList

/-- An integer has a magnitude in 64 bits, unless it is the least one. -/
theorem toInt_neg_of_ne_minValue {n : Int64} (hn : n ≠ Int64.minValue) :
    (-n).toInt = -n.toInt := by
  have hmin : Int64.minValue.toInt ≤ n.toInt := Int64.minValue_le_toInt n
  have hmax : n.toInt ≤ Int64.maxValue.toInt := Int64.toInt_le n
  have hne : n.toInt ≠ Int64.minValue.toInt := fun h => hn (Int64.toInt_inj.1 h)
  have hbounds : Int64.minValue.toInt = -2 ^ 63 ∧ Int64.maxValue.toInt = 2 ^ 63 - 1 := by decide
  rw [Int64.toInt_neg, Int.bmod_eq_of_le] <;> omega

end Number
end MailMerge
