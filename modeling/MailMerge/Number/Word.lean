/-
# Exact 64-bit integers

The integers of the template language are 64 bits wide, and no operation wraps.
Most compute their result as an integer and then ask whether it fits
(`fit?_eq_some_iff`).  Division rounds towards zero first and corrects the words it
gets, by one or by the divisor, which stays within 64 bits.  Integers are read from
decimal digits in the first way.
-/

namespace MailMerge
namespace Number

/-- Whether an integer fits in 64 bits. -/
def Fits (z : Int) : Prop := Int64.minValue.toInt ≤ z ∧ z ≤ Int64.maxValue.toInt

instance (z : Int) : Decidable (Fits z) := inferInstanceAs (Decidable (_ ∧ _))

/-- The 64-bit integer of value `z`, if there is one. -/
def fit? (z : Int) : Option Int64 :=
  if h : Fits z then some (Int64.ofIntLE z h.1 h.2) else none

/-- **Fitting loses nothing:** the word found has the value asked for, and every word is found. -/
theorem fit?_eq_some_iff {z : Int} {n : Int64} : fit? z = some n ↔ n.toInt = z := by
  unfold fit?
  constructor
  · intro h
    split at h
    · next hz => rw [← Option.some.inj h, Int64.toInt_ofIntLE]
    · exact absurd h (by simp)
  · rintro rfl
    have h : Fits n.toInt := ⟨Int64.minValue_le_toInt n, Int64.toInt_le n⟩
    rw [dif_pos h]
    exact congrArg some (Int64.toInt_inj.1 Int64.toInt_ofIntLE)

/-- The word of a natural number that is known to be small, such as a length. -/
def ofNat (n : Nat) : Int64 := Int64.ofNat n

/-- Whether two words have different signs; zero counts as positive. -/
def signsDiffer (a b : Int64) : Bool := decide (a < 0) != decide (b < 0)

/-- The quotient rounded down, by a divisor that is not zero, if it fits: the quotient rounded
towards zero, less one where a rest is cut off between different signs. -/
def floorQuotient? (a b : Int64) : Option Int64 :=
  match fit? (Int.tdiv a.toInt b.toInt) with
  | some q => some (if a % b ≠ 0 ∧ signsDiffer a b then q - 1 else q)
  | none => none

/-- The remainder with the sign of the divisor: the rest that rounding towards zero leaves, plus
the divisor where their signs differ. -/
def floorRemainder (a b : Int64) : Int64 :=
  let rest := a % b
  if rest ≠ 0 ∧ signsDiffer rest b then rest + b else rest

/-- The value of a decimal digit. -/
def digitValue (c : Char) : Nat := c.toNat - '0'.toNat

/-- The number that decimal digits denote, the most significant first. -/
def ofDigits (cs : List Char) : Nat := cs.foldl (fun n c => 10 * n + digitValue c) 0

/-- Whether `cs` is a non-empty row of ASCII digits. -/
def isDigits (cs : List Char) : Bool := !cs.isEmpty && cs.all Char.isDigit

/-- A sign and what follows it; no sign counts as plus. -/
def splitSign : List Char → Bool × List Char
  | '-' :: cs => (true, cs)
  | '+' :: cs => (false, cs)
  | cs => (false, cs)

/-- Reads an optionally signed row of digits that fits in 64 bits. -/
def readInt? (cs : List Char) : Option Int64 :=
  let (negative, ds) := splitSign cs
  if isDigits ds then
    fit? (if negative then -(ofDigits ds : Int) else (ofDigits ds : Int))
  else none

/-- Reads a row of digits, after an optional plus, that fits in 64 bits without a sign. -/
def readNat? (cs : List Char) : Option Nat :=
  let ds := match cs with
    | '+' :: ds => ds
    | ds => ds
  if isDigits ds then
    let n := ofDigits ds
    if n < Nat.pow 2 64 then some n else none
  else none

/-- The value of a hexadecimal digit in either case. -/
def hexValue? (c : Char) : Option Nat :=
  if c.isDigit then some (c.toNat - '0'.toNat)
  else if 'a' ≤ c ∧ c ≤ 'f' then some (c.toNat - 'a'.toNat + 10)
  else if 'A' ≤ c ∧ c ≤ 'F' then some (c.toNat - 'A'.toNat + 10)
  else none

/-- The value of a digit of the given radix, at most sixteen. -/
def radixValue? (radix : Nat) (c : Char) : Option Nat :=
  (hexValue? c).filter (· < radix)

/-- The number that digits of the given radix denote. -/
def ofRadix (radix : Nat) (cs : List Char) : Nat :=
  cs.foldl (fun n c => radix * n + (radixValue? radix c).getD 0) 0

end Number
end MailMerge
