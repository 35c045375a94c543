/-
# The shortest digits of a double

Between a double and its neighbours lies an interval of real numbers that all
round to it.  The digits printed for it are the fewest that name a point of that
interval and, among those, the nearest to the double.  On the grid of `n`-digit
decimals only the two points around the double have to be looked at: if any point
of the grid lies in the interval, so does one of these.
-/

import MailMerge.Number.Dyadic

namespace MailMerge
namespace Number

/-- The decimal `digits · 10 ^ exponent`. -/
structure Decimal where
  digits : Nat
  exponent : Int

/-- The interval of reals that round to a double, over one denominator: the double is
`value / den`, the ends are `low / den` and `high / den`, and `closed` says whether the
ends belong to it. -/
structure Interval where
  low : Nat
  value : Nat
  high : Nat
  den : Nat
  closed : Bool

/-- The interval of a double. -/
def Interval.ofDyadic (d : Dyadic) : Interval :=
  let up := Nat.pow 2 d.exponent.toNat
  let den := 4 * Nat.pow 2 (-d.exponent).toNat
  { low := (4 * d.mantissa - if d.hasNarrowGap then 1 else 2) * up
    value := 4 * d.mantissa * up
    high := (4 * d.mantissa + 2) * up
    den := den
    closed := d.mantissa % 2 == 0 }

/-- Whether `num / scale` lies in the interval. -/
def Interval.holds (i : Interval) (num scale : Nat) : Bool :=
  let low := i.low * scale
  let high := i.high * scale
  let x := num * i.den
  if i.closed then low ≤ x && x ≤ high else low < x && x < high

/-- How many decimal digits `n` has. -/
def digitCount (n : Nat) : Nat := (Nat.toDigits 10 n).length

/-- The least `k` with `value / den < 10 ^ k`. -/
def Interval.magnitude (i : Interval) : Int :=
  if i.den ≤ i.value then (digitCount (i.value / i.den) : Int)
  else
    let d := digitCount (i.den / i.value)
    if i.den ≤ i.value * Nat.pow 10 (d - 1) then 2 - (d : Int) else 1 - (d : Int)

/-- The point of the grid with the unit `10 ^ unit` that lies in the interval and is
nearest to its value; a tie goes to the even digit. -/
def Interval.nearest? (i : Interval) (unit : Int) : Option Decimal :=
  let mult := Nat.pow 10 unit.toNat
  let scale := Nat.pow 10 (-unit).toNat
  let below := i.value * scale / (i.den * mult)
  let above := below + 1
  let lowHit := i.holds (below * mult) scale
  let highHit := i.holds (above * mult) scale
  let toLow := i.value * scale - below * mult * i.den
  let toHigh := above * mult * i.den - i.value * scale
  if lowHit && (!highHit || toLow < toHigh || (toLow == toHigh && below % 2 == 0)) then
    some ⟨below, unit⟩
  else if highHit then some ⟨above, unit⟩
  else none

/-- The first hit on the grids of `n`, `n + 1`, … digits, `fuel` of them. -/
def Interval.firstHit (i : Interval) (magnitude : Int) : Nat → Nat → Decimal
  | 0, n => ⟨i.value / i.den, n⟩
  | fuel + 1, n =>
    match i.nearest? (magnitude - n) with
    | some d => d
    | none => i.firstHit magnitude fuel (n + 1)

/-- The decimal without the zeros its digits end in. -/
def Decimal.trimZeros (d : Decimal) : Decimal :=
  let rec go : Nat → Decimal → Decimal
    | 0, d => d
    | fuel + 1, d =>
      if d.digits ≠ 0 ∧ d.digits % 10 = 0 then go fuel ⟨d.digits / 10, d.exponent + 1⟩ else d
  go (digitCount d.digits) d

/-- The shortest decimal that reads back as the magnitude of the finite double `x`. -/
def shortest (x : Float) : Decimal :=
  let d := Dyadic.ofFloat x
  if d.mantissa = 0 then ⟨0, 0⟩
  else
    let i := Interval.ofDyadic d
    (i.firstHit i.magnitude 18 1).trimZeros

end Number
end MailMerge
