/-
# Floating-point numbers as dyadic fractions

A finite double is an integer times a power of two.  Exact work on doubles, such
as finding the digits that identify one or the remainder of a division, is done
on that form in whole numbers.
-/

namespace MailMerge
namespace Number

/-- The number `± mantissa · 2 ^ exponent`. -/
structure Dyadic where
  negative : Bool
  mantissa : Nat
  exponent : Int

namespace Dyadic

/-- The value of a finite double. -/
def ofFloat (x : Float) : Dyadic :=
  let bits := x.toBits.toNat
  let field : Nat := bits / Nat.pow 2 52 % Nat.pow 2 11
  let fraction : Nat := bits % Nat.pow 2 52
  let negative := bits / Nat.pow 2 63 == 1
  if field = 0 then ⟨negative, fraction, -1074⟩
  else ⟨negative, fraction + Nat.pow 2 52, (field : Int) - 1075⟩

/-- The double of that value, for a mantissa of at most 53 bits. -/
def toFloat (d : Dyadic) : Float :=
  let x := (Float.ofNat d.mantissa).scaleB d.exponent
  if d.negative then -x else x

/-- Whether the double one step towards zero is only half as far away as the next one. -/
def hasNarrowGap (d : Dyadic) : Bool :=
  d.mantissa == Nat.pow 2 52 && decide (-1074 < d.exponent)

end Dyadic

/-- Whether a double is negative, minus zero included. -/
def isNegative (x : Float) : Bool := x.toBits.toNat / Nat.pow 2 63 == 1

/-- The remainder of `a` divided by `b` after a quotient rounded towards zero, exactly. -/
def truncMod (a b : Float) : Float :=
  if a.isNaN || b.isNaN || a.isInf || b == 0 then 0.0 / 0.0
  else if b.isInf then a
  else
    let x := Dyadic.ofFloat a
    let y := Dyadic.ofFloat b
    let low := min x.exponent y.exponent
    let m := x.mantissa * Nat.pow 2 (x.exponent - low).toNat
    let n := y.mantissa * Nat.pow 2 (y.exponent - low).toNat
    Dyadic.toFloat ⟨x.negative, m % n, low⟩

/-- The remainder of a division whose quotient is rounded down, in double arithmetic. -/
def floorModFloat (a b : Float) : Float :=
  let r := truncMod a b
  if r != 0 && (decide (r < 0)) != (decide (b < 0)) then r + b else r

/-- `base` to the power `n` by repeated squaring, in double arithmetic. -/
def squarePower (base : Float) (n : Nat) : Float :=
  let rec go (acc base : Float) (n : Nat) (fuel : Nat) : Float :=
    match fuel with
    | 0 => acc
    | fuel + 1 =>
      let acc := if n % 2 = 1 then acc * base else acc
      if n / 2 = 0 then acc else go acc (base * base) (n / 2) fuel
  go 1.0 base n (n + 1)

/-- Ten to an integer power in double arithmetic; a negative power is the reciprocal of
the positive one. -/
def tenPower (n : Int) : Float :=
  let p := squarePower 10.0 n.natAbs
  if n < 0 then 1.0 / p else p

end Number
end MailMerge
