/-
# Filters on numbers
-/

import MailMerge.Filter.Argument
import MailMerge.Evaluation.Operator

namespace MailMerge
namespace Filters

/-- The argument `default` at the first position, else a value. -/
def fallback (given : Arguments) (v : Value) : Value := (given.param? 0 "default").getD v

/-- The integer that a text denotes: digits that fit, else a number that is cut towards
zero. -/
def integerOfText? (s : String) : Option Int64 :=
  let cs := Text.trim s.toList
  match Number.readInt? cs with
  | some n => some n
  | none =>
    match Number.readFloat? cs with
    | some x => if x.isFinite then some (Number.truncate x) else none
    | none => none

/-- A value as an integer. -/
def int (v : Value) (given : Arguments) : Read Value := do
  match ← v.defined with
  | .int n => pure (.int n)
  | .float x => pure (.int (Number.truncate x))
  | .bool b => pure (.int (if b then 1 else 0))
  | .str s =>
    match integerOfText? s with
    | some n => pure (.int n)
    | none => pure (fallback given (.int 0))
  | _ => pure (fallback given (.int 0))

/-- A value as a double. -/
def float (v : Value) (given : Arguments) : Read Value := do
  match ← v.defined with
  | .int n => pure (.float n.toFloat)
  | .float x => pure (.float x)
  | .bool b => pure (.float (if b then 1.0 else 0.0))
  | .str s =>
    match Number.readFloat? (Text.trim s.toList) with
    | some x => pure (.float x)
    | none => pure (fallback given (.float 0.0))
  | _ => pure (fallback given (.float 0.0))

/-- The magnitude of a number. -/
def abs (v : Value) : Read Value := do
  match ← v.defined with
  | .int n => Operator.exact (n.toInt.natAbs : Int)
  | .float x => pure (.float x.abs)
  | v => throw (.invalid (.absOperand v.kind))

/-- An integer cut to 32 bits. -/
def narrow (n : Int64) : Int := n.toInt32.toInt

/-- The rounding of a method: `common` rounds a half away from zero. -/
def roundingOf? : String → Option (Float → Float)
  | "common" => some Float.round
  | "ceil" => some Float.ceil
  | "floor" => some Float.floor
  | _ => none

/-- The number that is rounded. -/
def roundable (v : Value) : Read Float :=
  match v.float? with
  | some x => pure x
  | none => throw (.invalid .roundNumber)

/-- The number of decimal places asked for. -/
def precision (given : Arguments) : Read Int64 :=
  match given.param? 0 "precision" with
  | some p => integer p
  | none => pure 0

/-- Rounds a number to a number of decimal places. -/
def round (a : Access) (v : Value) (given : Arguments) : Read Value := do
  let x ← roundable (← v.defined)
  let places ← precision given
  let method ← given.textOr a 1 "method" "common"
  let scale := Number.tenPower (narrow places)
  match roundingOf? method with
  | some f => pure (.float (f (x * scale) / scale))
  | none => throw (.invalid (.roundMethod method))

/-- Adds a value to a total as floating-point numbers. -/
def addFloat (total item : Value) : Read Value :=
  match total.float?, item.float? with
  | some x, some y => pure (.float (x + y))
  | _, _ => throw (.invalid (.sumItem item.kind))

/-- Adds a value to a total. -/
def addTo (total item : Value) : Read Value :=
  match total, item with
  | .int x, .int y => Operator.exact (x.toInt + y.toInt)
  | total, item => addFloat total item

/-- The sum of the items of a value, from the argument `start` on. -/
def sum (v : Value) (given : Arguments) : Read Value := do
  let items ← v.items
  items.foldlM addTo ((given.param? 0 "start").getD (.int 0))

end Filters
end MailMerge
