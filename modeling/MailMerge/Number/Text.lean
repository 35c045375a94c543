/-
# Floating-point numbers as text

A double is written with its shortest digits.  Values are always written
positionally, tokens change to an exponent for very large and very small numbers.
Reading accepts an optional sign, digits around an optional point, an optional
exponent, and the names of infinity and of no number.
-/

import MailMerge.Number.Shortest
import MailMerge.Number.Word

namespace MailMerge
namespace Number

/-- `d` in positional notation, without a point if it is whole. -/
def Decimal.positional (d : Decimal) : String :=
  let ds := (Nat.toDigits 10 d.digits)
  if 0 ≤ d.exponent then String.ofList (ds ++ List.replicate d.exponent.toNat '0')
  else
    let places := (-d.exponent).toNat
    let padded := List.replicate (places + 1 - ds.length) '0' ++ ds
    let whole := padded.length - places
    String.ofList (padded.take whole ++ '.' :: padded.drop whole)

/-- `d` as one digit, further digits behind a point, and an exponent. -/
def Decimal.scientific (d : Decimal) : String :=
  let ds := Nat.toDigits 10 d.digits
  let e := d.exponent + (ds.length : Int) - 1
  let mantissa := match ds with
    | c :: c' :: cs => c :: '.' :: c' :: cs
    | cs => cs
  String.ofList mantissa ++ "e" ++ toString e

/-- Puts the sign of `x` before the text of its magnitude. -/
def withSign (x : Float) (magnitude : String) : String :=
  if isNegative x then "-" ++ magnitude else magnitude

/-- The names of what is not a finite number. -/
def nameOfNonFinite (nan : String) (x : Float) : String :=
  if x.isNaN then nan else if x < 0 then "-inf" else "inf"

/-- The text of a value: whole numbers below 10^16 end in `.0`, other numbers have their
shortest digits and never an exponent. -/
def floatText (x : Float) : String :=
  if !x.isFinite then nameOfNonFinite "nan" x
  else
    let d := shortest x
    let whole := x.floor == x
    withSign x (if whole && x.abs < 1e16 then d.positional ++ ".0" else d.positional)

/-- The text of a token: whole numbers end in `.0`, and numbers from 10^16 on or below
10^-5 have an exponent. -/
def floatTokenText (x : Float) : String :=
  if !x.isFinite then nameOfNonFinite "NaN" x
  else
    let d := shortest x
    let large := (1e16 : Float) ≤ x.abs || (x != 0 && x.abs < 1e-5)
    let whole := x.floor == x
    withSign x
      (if large then d.scientific else if whole then d.positional ++ ".0" else d.positional)

/-- The double nearest to `digits · 10 ^ exponent`. -/
def Decimal.toFloat (d : Decimal) : Float :=
  let magnitude : Int := (digitCount d.digits : Int) + d.exponent
  if d.digits = 0 then 0.0
  else if 400 < magnitude then 1.0 / 0.0
  else if magnitude < -400 then 0.0
  else if d.exponent < 0 then Float.ofScientific d.digits true (-d.exponent).toNat
  else Float.ofScientific d.digits false d.exponent.toNat

/-- The exponent that follows the digits of a number: nothing, or `e` and a signed row of
digits. -/
def readExponent? : List Char → Option Int
  | [] => some 0
  | c :: cs =>
    if c = 'e' ∨ c = 'E' then
      let (negative, ds) := splitSign cs
      if isDigits ds then
        some (if negative then -(ofDigits ds : Int) else (ofDigits ds : Int))
      else none
    else none

/-- Reads digits, an optional point and digits, and an optional exponent. -/
def readMagnitude? (cs : List Char) : Option Float :=
  let whole := cs.takeWhile Char.isDigit
  let rest := cs.dropWhile Char.isDigit
  let (fraction, rest) := match rest with
    | '.' :: rest => (rest.takeWhile Char.isDigit, rest.dropWhile Char.isDigit)
    | rest => ([], rest)
  if whole.isEmpty && fraction.isEmpty then none
  else
    (readExponent? rest).map fun e =>
      Decimal.toFloat ⟨ofDigits (whole ++ fraction), e - fraction.length⟩

/-- Reads a floating-point number. -/
def readFloat? (cs : List Char) : Option Float :=
  let (negative, body) := splitSign cs
  let magnitude :=
    let word := String.ofList (body.map Char.toLower)
    if word = "inf" ∨ word = "infinity" then some (1.0 / 0.0)
    else if word = "nan" then some (0.0 / 0.0)
    else readMagnitude? body
  magnitude.map fun x => if negative then -x else x

/-- A double cut to an integer towards zero, held within 64 bits; no number gives 0. -/
def truncate (x : Float) : Int64 := x.toModel.toInt64

/-- The double nearest to an integer. -/
def ofInt (n : Int64) : Float := n.toFloat

end Number
end MailMerge
