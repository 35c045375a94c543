/-
# Whole numbers as doubles

A row of digits is read as the double nearest to the number that it denotes.  Such a double has
the first 53 bits of the number, the last of them rounded, and rounding makes a new bit only if
the first 54 are all set (`Number.exists_roundWithAccuracy`).  For a number from `2 ^ 63` on the
last of these is worth `2 ^ 11` or more, so the double is a whole number from `2 ^ 63` on itself,
or infinite where the number has too many bits (`Number.large_toFloat`).  Hence what such a double
is cut to in 64 bits says nothing of the number but its sign (`Number.Large.toInt64`).
-/

import MailMerge.Number.Text
import Mathlib

namespace MailMerge
namespace Number

open Float.Model Float.Model.UnpackedFloat

/-! ### Rounding to 53 bits -/

section Shift

variable (em : ExtendedMantissa) (k : Nat)

theorem shiftRight_succ : em >>> (k + 1) = (em >>> k).shiftRightOne := rfl

theorem shiftRight_mantissa : (em >>> k).mantissa = em.mantissa / 2 ^ k := by
  induction k with
  | zero => exact (Nat.div_one _).symm
  | succ k ih =>
    rw [shiftRight_succ, ExtendedMantissa.shiftRightOne, ih, Nat.div_div_eq_div_mul, Nat.pow_succ]

theorem shiftRight_roundBit :
    (em >>> (k + 1)).roundBit = (em.mantissa / 2 ^ k % 2 != 0) := by
  rw [shiftRight_succ, ExtendedMantissa.shiftRightOne, shiftRight_mantissa]

theorem le_roundedMantissa : em.mantissa ≤ em.roundedMantissa := by
  rcases em with ⟨m, _ | _, _ | _⟩ <;> simp [ExtendedMantissa.roundedMantissa,
    ExtendedMantissa.accuracy, Accuracy.roundToNearestEven]

theorem roundedMantissa_le : em.roundedMantissa ≤ em.mantissa + 1 := by
  rcases em with ⟨m, _ | _, _ | _⟩ <;> simp [ExtendedMantissa.roundedMantissa,
    ExtendedMantissa.accuracy, Accuracy.roundToNearestEven]
  omega

/-- Where the mantissa is odd, the round bit alone decides. -/
theorem roundedMantissa_of_odd {em : ExtendedMantissa} (h : em.mantissa % 2 = 1) :
    em.roundedMantissa = em.mantissa + if em.roundBit then 1 else 0 := by
  rcases em with ⟨m, _ | _, _ | _⟩ <;> simp_all [ExtendedMantissa.roundedMantissa,
    ExtendedMantissa.accuracy, Accuracy.roundToNearestEven]

end Shift

variable {s : UnpackedFloat.Sign} {m n : Nat} {e : Int} {hm : 0 < m}

theorem targetExponent_eq (h : -1074 ≤ (m.log2 : Int) + e - 52) :
    Format.binary64.targetExponent (totalExponent m e) = m.log2 + e - 52 := by
  simp only [Format.targetExponent, totalExponent, Format.mantissaBits, Format.minExponent]
  norm_num
  omega

theorem shiftToTargetExponent_eq {k : Nat} (hlog : m.log2 = 52 + k) (he : -1074 ≤ e + k) :
    shiftToTargetExponent .binary64 m e .exact =
      (ExtendedMantissa.mk m false false >>> k, e + k) := by
  have htarget := targetExponent_eq (m := m) (e := e) (by omega)
  have hk : ((m.log2 : Int) + e - 52 - e).toNat = k := by omega
  simp only [shiftToTargetExponent, shiftToExponent, htarget, hk,
    ExtendedMantissa.ofMantissaAndAccuracy]

/-- Once rounded, a number is brought to 53 bits again; nothing is lost. -/
theorem roundWithAccuracy_eq {d : Nat} {E : Int} {em : ExtendedMantissa}
    (hfirst : shiftToTargetExponent .binary64 m e .exact = (em, E))
    (hlog : em.roundedMantissa.log2 = 52 + d) (hE : -1074 ≤ E + d)
    (hpos : 0 < em.roundedMantissa / 2 ^ d) :
    roundWithAccuracy .binary64 s m e .exact =
      .finite s (em.roundedMantissa / 2 ^ d) (E + d) hpos := by
  have hmantissa : (ExtendedMantissa.mk em.roundedMantissa false false >>> d).mantissa =
      em.roundedMantissa / 2 ^ d := shiftRight_mantissa _ d
  have hne : em.roundedMantissa / 2 ^ d ≠ 0 := by omega
  rw [roundWithAccuracy, hfirst]
  simp only [shiftToTargetExponent_eq hlog hE, hmantissa, hne, dite_false]

theorem leading_bits {k d : Nat} (hm : 0 < m) (hlog : m.log2 = d + k) :
    2 ^ d ≤ m / 2 ^ k ∧ m / 2 ^ k < 2 ^ (d + 1) := by
  have hpos : 0 < 2 ^ k := Nat.two_pow_pos k
  rw [Nat.le_div_iff_mul_le hpos, Nat.div_lt_iff_lt_mul hpos, ← Nat.pow_add, ← Nat.pow_add,
    Nat.add_right_comm]
  exact (Nat.log2_eq_iff (Nat.ne_of_gt hm)).1 hlog

/-- Rounding 54 bits to 53 makes a new bit only if they are all set. -/
theorem roundedMantissa_of_leading {em : ExtendedMantissa} {half : Nat}
    (hmantissa : em.mantissa = half / 2) (hbit : em.roundBit = (half % 2 != 0))
    (hhalf : 2 ^ 53 ≤ half ∧ half < 2 ^ 54) :
    if half = 2 ^ 54 - 1 then em.roundedMantissa = 2 ^ 53
    else 2 ^ 52 ≤ em.roundedMantissa ∧ em.roundedMantissa < 2 ^ 53 := by
  have hlow := le_roundedMantissa em
  have hhigh := roundedMantissa_le em
  split
  · next hall =>
    rw [roundedMantissa_of_odd (by omega), hbit, hmantissa, hall]
    decide
  · next hall =>
    refine ⟨by omega, ?_⟩
    by_cases hodd : em.mantissa = 2 ^ 53 - 1
    · have heven : half % 2 = 0 := by omega
      rw [roundedMantissa_of_odd (by omega), hbit, heven, hodd]
      decide
    · omega

/-- A number of more than 53 bits keeps the first of them, unless rounding makes a new one. -/
theorem exists_roundWithAccuracy {k : Nat} (hm : 0 < m) (hlog : m.log2 = 53 + k)
    (he : -1074 ≤ e + (k + 1 : Nat)) :
    ∃ M E hM, roundWithAccuracy .binary64 s m e .exact = .finite s M E hM ∧ M.log2 = 52 ∧
      E = e + (k + 1 : Nat) + if m / 2 ^ k = 2 ^ 54 - 1 then 1 else 0 := by
  have hfirst := shiftToTargetExponent_eq (m := m) (k := k + 1) (by omega) he
  have hbit := shiftRight_roundBit (ExtendedMantissa.mk m false false) k
  have hmantissa := shiftRight_mantissa (ExtendedMantissa.mk m false false) (k + 1)
  rw [Nat.pow_succ, ← Nat.div_div_eq_div_mul] at hmantissa
  have hround := roundedMantissa_of_leading hmantissa hbit (leading_bits hm hlog)
  generalize ExtendedMantissa.mk m false false >>> (k + 1) = em at hfirst hround
  by_cases hall : m / 2 ^ k = 2 ^ 54 - 1
  · rw [if_pos hall] at hround ⊢
    have hlog : em.roundedMantissa.log2 = 52 + 1 := by rw [hround, Nat.log2_two_pow]
    have hagain := roundWithAccuracy_eq (s := s) hfirst hlog (by omega) (by rw [hround]; decide)
    exact ⟨_, _, _, hagain, (Nat.log2_eq_iff (by omega)).2 (by omega), by rw [Nat.cast_one]⟩
  · rw [if_neg hall] at hround ⊢
    have hlog : em.roundedMantissa.log2 = 52 := (Nat.log2_eq_iff (by omega)).2 hround
    have hagain := roundWithAccuracy_eq (s := s) (d := 0) hfirst hlog (by omega) (by omega)
    exact ⟨_, _, _, hagain, by rw [Nat.pow_zero, Nat.div_one, hlog], by rw [Nat.cast_zero]⟩

/-! ### Doubles as 64 bits -/

theorem mantissa_bounds (hlog : m.log2 = 52) : 2 ^ 52 ≤ m ∧ m < 2 ^ 53 := by
  have hne : m ≠ 0 := by rintro rfl; simp at hlog
  exact (Nat.log2_eq_iff hne).1 hlog

theorem toNat_append_leading (hlog : m.log2 = 52) : (1#1 ++ BitVec.ofNat 52 m).toNat = m := by
  have hbounds := mantissa_bounds hlog
  rw [BitVec.toNat_append, ← Nat.shiftLeft_add_eq_or_of_lt (BitVec.isLt _), Nat.shiftLeft_eq,
    BitVec.toNat_ofNat, BitVec.toNat_ofNat]
  omega

theorem unpack_pack_infinity (s : UnpackedFloat.Sign) :
    (Float.Model.pack (.infinity s)).unpack = .infinity s := by
  cases s <;> rfl

theorem pack_of_le (he : 972 ≤ e) :
    Float.Model.pack (.finite s m e hm) = Float.Model.pack (.infinity s) := by
  have hfield : 2 ^ 11 ≤ (e + (1023 : Nat) + (52 : Nat)).toNat + 1 := by omega
  have hpack : UnpackedFloat.pack .binary64 (.finite s m e hm) = packedInfinity .binary64 s := by
    rw [UnpackedFloat.pack]
    exact if_pos hfield
  simp only [Float.Model.pack, hpack]
  rfl

theorem unpack_pack_finite (hlog : m.log2 = 52) (hlow : -1074 ≤ e) (hhigh : e < 972) :
    (Float.Model.pack (.finite s m e hm)).unpack = .finite s m e hm := by
  obtain ⟨field, hfield⟩ : ∃ field : Nat, e + (1023 : Nat) + (52 : Nat) = field :=
    ⟨(e + (1023 : Nat) + (52 : Nat)).toNat, by omega⟩
  have hpack : UnpackedFloat.pack .binary64 (.finite s m e hm) =
      packComponents .binary64 s (BitVec.ofNat 11 field) (BitVec.ofNat 52 m) := by
    have hsmall : ¬ 2 ^ 11 ≤ (e + (1023 : Nat) + (52 : Nat)).toNat + 1 := by omega
    have hnormal : m.log2 + 1 = Format.binary64.mantissaBits := by rw [hlog]; rfl
    rw [UnpackedFloat.pack, ← Int.toNat_natCast field, ← hfield]
    exact (if_neg hsmall).trans (if_pos hnormal)
  have hfieldNat : (BitVec.ofNat 11 field).toNat = field := by
    rw [BitVec.toNat_ofNat]
    omega
  have hmax : BitVec.ofNat 11 field ≠ -1#11 := fun h => by
    have hfull := congrArg BitVec.toNat h
    rw [hfieldNat] at hfull
    exact absurd hfull (by change field ≠ 2047; omega)
  have hzero : BitVec.ofNat 11 field ≠ 0#11 := fun h => by
    have hempty := congrArg BitVec.toNat h
    rw [hfieldNat] at hempty
    exact absurd hempty (by change field ≠ 0; omega)
  have hexponent : (field : Int) - (Format.binary64.exponentBias + (52 : Nat)) = e := by
    change (field : Int) - ((1023 : Nat) + (52 : Nat)) = e
    omega
  rw [Float.Model.pack, Float.Model.unpack, UnpackedFloat.unpack]
  simp only [hpack, unpackExponent_packComponents, unpackMantissa_packComponents,
    unpackSign_packComponents, UnpackedFloat.Sign.ofBitVec_toBitVec, hmax, hzero, if_false,
    hfieldNat, toNat_append_leading hlog, hexponent]

theorem roundToInt_eq (he : 0 ≤ e) :
    roundToInt s m e = s.apply ((m * 2 ^ e.toNat : Nat) : Int) := by
  have hexponent : e - (e.toNat : Int) = 0 := by omega
  simp only [roundToInt, decreaseExponent, shiftToExponent, Int.sub_zero, hexponent,
    Nat.shiftLeft_eq, ExtendedMantissa.ofMantissaAndAccuracy]
  rfl

/-- The nearest word to an integer out of range is the one at that end. -/
theorem ofIntClamp_apply (hn : 2 ^ 63 ≤ n) : Int64.ofIntClamp (s.apply n) =
    match s with
    | .negative => Int64.minValue
    | .positive => Int64.maxValue := by
  have hmin : Int64.minValue.toInt = -2 ^ 63 := rfl
  have hmax : Int64.maxValue.toInt = 2 ^ 63 - 1 := rfl
  cases s with
  | negative =>
    change Int64.ofIntClamp (-(n : Int)) = _
    rcases Nat.eq_or_lt_of_le hn with rfl | hlt
    · rfl
    · rw [Int64.ofIntClamp, dif_neg (by omega)]
  | positive =>
    change Int64.ofIntClamp n = _
    rw [Int64.ofIntClamp, dif_pos (by omega), dif_neg (by omega)]

/-! ### Large whole numbers -/

/-- The first whole number that is infinite as a double, `2 ^ 1024 - 2 ^ 970`: it lies in the middle
between the greatest double and the power of two behind it. -/
def overflow : Nat := (2 ^ 54 - 1) * 2 ^ 970

/-- How a whole number `n` from `2 ^ 63` on stands as a double of sign `s`: with 53 bits, the last
of them worth `2 ^ 11` or more, or as infinite. -/
inductive Large (n : Nat) (s : UnpackedFloat.Sign) : UnpackedFloat → Prop
  | finite {m : Nat} {e : Int} {hm : 0 < m} : n < overflow → m.log2 = 52 → 11 ≤ e → e < 972 →
      Large n s (.finite s m e hm)
  | infinity : overflow ≤ n → Large n s (.infinity s)

namespace Large

variable {x : UnpackedFloat}

theorem unpack_pack (h : Large n s x) : (Float.Model.pack x).unpack = x := by
  cases h with
  | finite _ hlog hlow hhigh => exact unpack_pack_finite hlog (by omega) hhigh
  | infinity _ => exact unpack_pack_infinity s

theorem neg (h : Large n s x) : Large n (-s) x.neg := by
  cases h with
  | finite hn hlog hlow hhigh => exact .finite hn hlog hlow hhigh
  | infinity hn => exact .infinity hn

theorem isFinite (h : Large n s x) : x.isFinite = decide (n < overflow) := by
  cases h with
  | finite hn => exact (decide_eq_true hn).symm
  | infinity hn => exact (decide_eq_false (Nat.not_lt.2 hn)).symm

/-- Nothing is cut off, and what there is lies out of range like `n` itself. -/
theorem toInt64 (h : Large n s x) (hn : 2 ^ 63 ≤ n) :
    x.toInt64 = Int64.ofIntClamp (s.apply n) := by
  cases h with
  | @finite m e _ _ hlog hlow _ =>
    have hbig : 2 ^ 63 ≤ m * 2 ^ e.toNat :=
      calc 2 ^ 63 = 2 ^ 52 * 2 ^ 11 := by decide
        _ ≤ m * 2 ^ e.toNat := Nat.mul_le_mul (mantissa_bounds hlog).1
          (Nat.pow_le_pow_right (by decide) (by omega))
    rw [UnpackedFloat.toInt64, toInt, roundToInt_eq (by omega), ofIntClamp_apply hbig,
      ofIntClamp_apply hn]
  | infinity _ =>
    rw [ofIntClamp_apply hn]
    cases s <;> rfl

end Large

theorem all_leading_le (d : Nat) : (2 ^ 54 - 1) * 2 ^ d ≤ 2 ^ (54 + d) :=
  calc (2 ^ 54 - 1) * 2 ^ d ≤ 2 ^ 54 * 2 ^ d := Nat.mul_le_mul_right _ (by decide)
    _ = 2 ^ (54 + d) := (Nat.pow_add 2 54 d).symm

/-- The numbers from the first one of `54 + d` bits on whose leading 54 are set have more bits, or
get one more when they are rounded. -/
theorem leading_le_iff (hn : n ≠ 0) (d : Nat) :
    (2 ^ 54 - 1) * 2 ^ d ≤ n ↔ d + 54 ≤ n.log2 +
      if n * 2 ^ 53 / 2 ^ n.log2 = 2 ^ 54 - 1 then 1 else 0 := by
  have hpos : 0 < 2 ^ d := Nat.two_pow_pos d
  rcases Nat.lt_trichotomy n.log2 (53 + d) with hlog | hlog | hlog
  · have hsmall : n < (2 ^ 54 - 1) * 2 ^ d :=
      calc n < 2 ^ (53 + d) := (Nat.log2_lt hn).1 hlog
        _ = 2 ^ 53 * 2 ^ d := Nat.pow_add 2 53 d
        _ ≤ (2 ^ 54 - 1) * 2 ^ d := Nat.mul_le_mul_right _ (by decide)
    refine iff_of_false (Nat.not_le.2 hsmall) ?_
    split <;> omega
  · have hbits := leading_bits (Nat.pos_of_ne_zero hn) hlog
    have hhalf : n * 2 ^ 53 / 2 ^ n.log2 = n / 2 ^ d := by
      rw [hlog, Nat.add_comm, Nat.pow_add, Nat.mul_div_mul_right _ _ (Nat.two_pow_pos 53)]
    rw [hhalf, ← Nat.le_div_iff_mul_le hpos]
    split <;> omega
  · have hlarge : (2 ^ 54 - 1) * 2 ^ d ≤ n :=
      Nat.le_trans (all_leading_le d) ((Nat.le_log2 hn).1 (by omega))
    refine iff_of_true hlarge ?_
    split <;> omega

theorem log2_mul_two_pow (hn : n ≠ 0) (d : Nat) : (n * 2 ^ d).log2 = d + n.log2 := by
  have hbits := (Nat.log2_eq_iff hn).1 rfl
  have hpos : 0 < 2 ^ d := Nat.two_pow_pos d
  rw [Nat.log2_eq_iff (Nat.mul_ne_zero hn (Nat.ne_of_gt hpos)), Nat.add_comm d, Nat.add_right_comm,
    Nat.pow_add, Nat.pow_add]
  exact ⟨Nat.mul_le_mul_right _ hbits.1, Nat.mul_lt_mul_of_pos_right hbits.2 hpos⟩

theorem large_round (hn : 2 ^ 63 ≤ n) : Large n s
    (Float.Model.pack (roundWithAccuracy .binary64 s (n * 2 ^ 53) (-53) .exact)).unpack := by
  have hne : n ≠ 0 := by omega
  have hlow : 63 ≤ n.log2 := (Nat.le_log2 hne).2 hn
  have hlog := log2_mul_two_pow hne 53
  obtain ⟨m, e, hm, hround, hmlog, he⟩ := exists_roundWithAccuracy (s := s) (e := -53)
    (Nat.mul_pos (Nat.pos_of_ne_zero hne) (Nat.two_pow_pos 53)) hlog (by omega)
  have he' : e = (n.log2 : Int) - 52 +
      if n * 2 ^ 53 / 2 ^ n.log2 = 2 ^ 54 - 1 then 1 else 0 := by omega
  have hover : overflow ≤ n ↔ 972 ≤ e := by
    rw [overflow, leading_le_iff hne 970, he']
    split <;> omega
  have hge : 11 ≤ e := by
    rw [he']
    split <;> omega
  rw [hround]
  by_cases hbig : 972 ≤ e
  · rw [pack_of_le hbig, unpack_pack_infinity]
    exact .infinity (hover.2 hbig)
  · rw [unpack_pack_finite hmlog (by omega) (by omega)]
    exact .finite (Nat.lt_of_not_le fun h => hbig (hover.1 h)) hmlog hge (by omega)

theorem ofScientific_eq (hn : n ≠ 0) : Float.Model.ofScientific n 0 =
    Float.Model.pack (roundWithAccuracy .binary64 .positive (n * 2 ^ 53) (-53) .exact) := by
  have hmodel : UnpackedFloat.ofScientific .binary64 n 0 =
      roundWithAccuracy .binary64 .positive (n * 2 ^ 53) (-53) .exact := by
    have hlow : ¬ (0 : Int) < -((2 ^ 11 : Int) + n.log2) := by omega
    have hshift : n <<< Format.binary64.mantissaBits * 10 ^ (0 : Int).toNat = n * 2 ^ 53 := by
      rw [Nat.shiftLeft_eq]
      exact Nat.mul_one _
    rw [UnpackedFloat.ofScientific, dif_neg hn, if_neg (by decide), if_neg hlow,
      if_pos (Int.le_refl 0), UnpackedFloat.mul, hshift]
    rfl
  rw [Float.Model.ofScientific, hmodel]

theorem all_leading_le_ten_pow {d k : Nat} (hk : 54 + d ≤ 3 * k) :
    (2 ^ 54 - 1) * 2 ^ d ≤ 10 ^ k :=
  calc (2 ^ 54 - 1) * 2 ^ d ≤ 2 ^ (54 + d) := all_leading_le d
    _ ≤ 2 ^ (3 * k) := Nat.pow_le_pow_right (by decide) hk
    _ = 8 ^ k := Nat.pow_mul 2 3 k
    _ ≤ 10 ^ k := Nat.pow_le_pow_left (by decide) k

theorem overflow_le_of_digitCount {k : Nat} (hk : 54 + 970 ≤ 3 * k) (hlong : k < digitCount n) :
    overflow ≤ n := by
  have hdigits : ¬ n < 10 ^ k := fun h =>
    Nat.not_le.2 hlong ((Nat.length_toDigits_le_iff (by decide) (by omega)).2 h)
  exact Nat.le_trans (all_leading_le_ten_pow hk) (Nat.not_lt.1 hdigits)

/-- **A row of digits from `2 ^ 63` on is read as the double it stands as.** -/
theorem large_toFloat (hn : 2 ^ 63 ≤ n) :
    Large n .positive (Decimal.toFloat ⟨n, 0⟩).toModel.unpack := by
  have hne : n ≠ 0 := by omega
  rw [Decimal.toFloat]
  dsimp only
  by_cases hlong : 400 < digitCount n
  · have hinfinite : (1.0 / 0.0 : Float).toModel.unpack = .infinity .positive := by rfl
    rw [if_neg hne, if_pos (by omega), hinfinite]
    exact .infinity (overflow_le_of_digitCount (by decide) hlong)
  · have hslow : Float.ofScientific n false 0 = Float.ofModel (Float.Model.ofScientific n 0) :=
      dif_neg (by omega)
    rw [if_neg hne, if_neg (by omega), if_neg (by omega), if_neg (by decide), Int.toNat_zero, hslow,
      ofScientific_eq hne]
    exact large_round hn

end Number
end MailMerge
