/-
# Texts of digits as integers

A text of digits behind a sign or none denotes an integer of any size (`Number.Numeral`).  The
filter `int` gives that integer if it fits in 64 bits.  If it does not, the text is read once more
as a double and this is cut to 64 bits, so what comes out is an end of the range and not the
integer (`Filters.integerOfText?_of_not_fits`); only an integer that is infinite as a double gets
the value that stands for no integer.
-/

import MailMerge.Filter.Numeric
import MailMerge.Proofs.Number.Double
import MailMerge.Proofs.Number.Word
import Mathlib.Data.List.TakeWhile

namespace MailMerge
namespace Number

open Float.Model

/-- A row of digits behind a sign or none, and the integer that it denotes. -/
inductive Numeral : List Char → Int → Prop
  | plain {ds : List Char} : isDigits ds = true → Numeral ds (ofDigits ds)
  | plus {ds : List Char} : isDigits ds = true → Numeral ('+' :: ds) (ofDigits ds)
  | minus {ds : List Char} : isDigits ds = true → Numeral ('-' :: ds) (-(ofDigits ds : Int))

/-- The sign that a minus gives. -/
def signOf (negative : Bool) : UnpackedFloat.Sign := if negative then .negative else .positive

variable {cs ds : List Char} {z : Int}

theorem splitSign_digits (h : isDigits ds = true) : splitSign ds = (false, ds) := by
  rw [isDigits, Bool.and_eq_true, List.all_eq_true] at h
  rw [splitSign.eq_def]
  split
  · exact absurd (h.2 _ List.mem_cons_self) (by decide)
  · exact absurd (h.2 _ List.mem_cons_self) (by decide)
  · rfl

theorem Numeral.exists_splitSign (h : Numeral cs z) : ∃ negative ds,
    splitSign cs = (negative, ds) ∧ isDigits ds = true ∧
      z = (signOf negative).apply (ofDigits ds) := by
  cases h with
  | plain hds => exact ⟨false, cs, splitSign_digits hds, hds, rfl⟩
  | @plus ds hds => exact ⟨false, ds, rfl, hds, rfl⟩
  | @minus ds hds => exact ⟨true, ds, rfl, hds, rfl⟩

/-! ### Reading -/

theorem Numeral.readInt? (h : Numeral cs z) : readInt? cs = fit? z := by
  obtain ⟨negative, ds, hsplit, hds, rfl⟩ := h.exists_splitSign
  rw [Number.readInt?, hsplit]
  dsimp only
  rw [if_pos hds]
  cases negative <;> rfl

theorem readMagnitude?_digits (h : isDigits ds = true) :
    readMagnitude? ds = some (Decimal.toFloat ⟨ofDigits ds, 0⟩) := by
  rw [isDigits, Bool.and_eq_true, Bool.not_eq_true'] at h
  have htake : ds.takeWhile Char.isDigit = ds :=
    List.takeWhile_eq_self_iff.2 (List.all_eq_true.1 h.2)
  have hdrop : ds.dropWhile Char.isDigit = [] :=
    List.dropWhile_eq_nil_iff.2 (List.all_eq_true.1 h.2)
  rw [readMagnitude?, htake, hdrop]
  simp only [h.1, List.append_nil]
  rfl

/-- A text with digits is not the name of what is not a finite number. -/
theorem toLower_ne_of_isDigits (h : isDigits ds = true) (name : String)
    (hname : name.toList.any Char.isDigit = false) :
    String.ofList (ds.map Char.toLower) ≠ name := by
  rw [isDigits, Bool.and_eq_true, Bool.not_eq_true', List.isEmpty_eq_false_iff] at h
  obtain ⟨d, rest, rfl⟩ := List.exists_cons_of_ne_nil h.1
  have hd := List.all_eq_true.1 h.2 d List.mem_cons_self
  have hlower : d.toLower = d := forall_isDigit (p := fun c => c.toLower = c) (by decide) hd
  rintro rfl
  rw [String.toList_ofList, List.map_cons, hlower, List.any_cons, hd, Bool.true_or] at hname
  exact Bool.noConfusion hname

theorem readFloat?_eq {negative : Bool} (hsplit : splitSign cs = (negative, ds))
    (h : isDigits ds = true) : readFloat? cs =
      some (if negative then -Decimal.toFloat ⟨ofDigits ds, 0⟩
        else Decimal.toFloat ⟨ofDigits ds, 0⟩) := by
  have hinf := toLower_ne_of_isDigits h "inf" rfl
  have hinfinity := toLower_ne_of_isDigits h "infinity" rfl
  have hnan := toLower_ne_of_isDigits h "nan" rfl
  rw [readFloat?, hsplit]
  dsimp only
  rw [if_neg (not_or.2 ⟨hinf, hinfinity⟩), if_neg hnan, readMagnitude?_digits h]
  rfl

theorem Numeral.readFloat? (h : Numeral cs z) (hz : 2 ^ 63 ≤ z.natAbs) :
    ∃ x s, Number.readFloat? cs = some x ∧ Large z.natAbs s x.toModel.unpack ∧
      s.apply z.natAbs = z := by
  obtain ⟨negative, ds, hsplit, hds, rfl⟩ := h.exists_splitSign
  have habs : ((signOf negative).apply (ofDigits ds)).natAbs = ofDigits ds := by
    cases negative
    · exact Int.natAbs_natCast _
    · exact (Int.natAbs_neg _).trans (Int.natAbs_natCast _)
  rw [habs] at hz ⊢
  have hlarge := large_toFloat hz
  refine ⟨_, signOf negative, readFloat?_eq hsplit hds, ?_, rfl⟩
  cases negative with
  | false => exact hlarge
  | true =>
    have hneg := hlarge.neg
    change Large _ _ (Float.Model.pack _).unpack
    rw [hneg.unpack_pack]
    exact hneg

end Number

namespace Filters

open Number

variable {s : String} {z : Int}

theorem integerOfText?_of_fits (h : Numeral (Text.trim s.toList) z) (hz : Fits z) :
    integerOfText? s = some (Int64.ofIntLE z hz.1 hz.2) := by
  have hfit : fit? z = some (Int64.ofIntLE z hz.1 hz.2) := dif_pos hz
  simp only [integerOfText?, h.readInt?, hfit]

theorem integerOfText?_of_not_fits (h : Numeral (Text.trim s.toList) z) (hz : ¬ Fits z) :
    integerOfText? s = if z.natAbs < overflow then some (Int64.ofIntClamp z) else none := by
  have hfit : fit? z = none := dif_neg hz
  have hlarge : 2 ^ 63 ≤ z.natAbs := by
    have hmin : Int64.minValue.toInt = -2 ^ 63 := rfl
    have hmax : Int64.maxValue.toInt = 2 ^ 63 - 1 := rfl
    rw [Fits] at hz
    omega
  obtain ⟨x, sign, hread, hx, happly⟩ := h.readFloat? hlarge
  have hfinite : x.isFinite = decide (z.natAbs < overflow) := hx.isFinite
  have htruncate : truncate x = Int64.ofIntClamp z :=
    (hx.toInt64 hlarge).trans (congrArg Int64.ofIntClamp happly)
  simp only [integerOfText?, h.readInt?, hfit, hread, hfinite, htruncate, decide_eq_true_eq]

theorem int_str (s : String) (given : Arguments) : int (.str s) given =
    pure (match integerOfText? s with
      | some n => .int n
      | none => fallback given (.int 0)) := by
  have hcase : int (.str s) given = match integerOfText? s with
      | some n => pure (.int n)
      | none => pure (fallback given (.int 0)) := rfl
  rw [hcase]
  cases integerOfText? s <;> rfl

/-- An integer that does not fit is beyond one of the ends. -/
theorem ofIntClamp_of_not_fits (hz : ¬ Fits z) :
    Int64.ofIntClamp z = if z < 0 then Int64.minValue else Int64.maxValue := by
  have hmin : Int64.minValue.toInt = -2 ^ 63 := rfl
  have hmax : Int64.maxValue.toInt = 2 ^ 63 - 1 := rfl
  rw [Fits] at hz
  rw [Int64.ofIntClamp]
  by_cases hneg : z < 0
  · rw [if_pos hneg, dif_neg (by omega)]
  · rw [if_neg hneg, dif_pos (by omega), dif_neg (by omega)]

/-- **A text of digits as an integer.**  What fits is itself.  What does not becomes the end of the
range on its side, and only what is infinite as a double is given up. -/
theorem int_numeral (h : Numeral (Text.trim s.toList) z) (given : Arguments) :
    (Fits z → ∃ n : Int64, n.toInt = z ∧ int (.str s) given = pure (.int n)) ∧
    (¬ Fits z → z.natAbs < overflow →
      int (.str s) given = pure (.int (if z < 0 then Int64.minValue else Int64.maxValue))) ∧
    (¬ Fits z → overflow ≤ z.natAbs →
      int (.str s) given = pure (fallback given (.int 0))) := by
  refine ⟨fun hz => ?_, fun hz hsmall => ?_, fun hz hlarge => ?_⟩
  · refine ⟨Int64.ofIntLE z hz.1 hz.2, Int64.toInt_ofIntLE, ?_⟩
    rw [int_str, integerOfText?_of_fits h hz]
  · rw [int_str, integerOfText?_of_not_fits h hz, if_pos hsmall, ofIntClamp_of_not_fits hz]
  · rw [int_str, integerOfText?_of_not_fits h hz, if_neg (Nat.not_lt.2 hlarge)]

theorem int_numeral_below :
    int (.str " -9223372036854775809\n") {} = pure (.int Int64.minValue) :=
  have hdigits : isDigits "9223372036854775809".toList = true := by decide
  have hnumeral : Numeral (Text.trim " -9223372036854775809\n".toList) (-9223372036854775809) :=
    .minus hdigits
  (int_numeral hnumeral {}).2.1 (by decide) (by decide +kernel)

/-- A text of digits becomes another number than the one it denotes. -/
theorem int_ne_numeral : ¬ ∀ (s : String) (z : Int) (n : Int64), Numeral (Text.trim s.toList) z →
    int (.str s) {} = pure (.int n) → n ≠ 0 → n.toInt = z := by
  intro hclaim
  have hdigits : isDigits "9223372036854775808".toList = true := by decide
  have hnumeral : Numeral (Text.trim "9223372036854775808".toList) 9223372036854775808 :=
    .plain hdigits
  have hread : integerOfText? "9223372036854775808" = some Int64.maxValue := by decide +kernel
  have hint : int (.str "9223372036854775808") {} = pure (.int Int64.maxValue) := by
    rw [int_str, hread]
  exact absurd (hclaim _ _ _ hnumeral hint (by decide)) (by decide)

end Filters
end MailMerge
