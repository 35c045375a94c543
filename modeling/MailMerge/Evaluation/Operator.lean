/-
# Operators

Integer arithmetic is exact or an error, and mixes with floating-point numbers as
such.  Division and remainder follow the floor.  Every operation states its faults
before it computes.
-/

import MailMerge.Evaluation.Access
import MailMerge.Template.Tree

namespace MailMerge
namespace Operator

/-- An exact integer result, or overflow. -/
def exact (z : Int) : Read Value :=
  match Number.fit? z with
  | some n => pure (.int n)
  | none => throw (.invalid .integerOverflow)

/-- The error of an operation on kinds it does not know. -/
def unsupported (operation : String) (l r : Value) : Read Value :=
  throw (.invalid (.operands operation l.kind r.kind))

/-- An operation on two numbers as doubles. -/
def onFloats (operation : String) (f : Float → Float → Float) (l r : Value) : Read Value :=
  match l.float?, r.float? with
  | some x, some y => pure (.float (f x y))
  | _, _ => unsupported operation l r

/-- Whether a value is a number equal to zero. -/
def isZero (v : Value) : Bool :=
  match v.float? with
  | some x => x == 0
  | none => false

/-- Sums of numbers, texts and lists. -/
def add (l r : Value) : Read Value :=
  match l, r with
  | .int a, .int b => exact (a.toInt + b.toInt)
  | .str s, .str t => pure (.str (s ++ t))
  | .list xs, .list ys => pure (.list (xs ++ ys))
  | l, r => onFloats "+" (· + ·) l r

/-- Differences of numbers. -/
def sub (l r : Value) : Read Value :=
  match l, r with
  | .int a, .int b => exact (a.toInt - b.toInt)
  | l, r => onFloats "-" (· - ·) l r

/-- The most bytes that a text can have. -/
def mostBytes : Nat := Int64.maxValue.toInt.toNat

/-- A text some number of times in a row.  An empty text is not copied at all: its number of
copies may be one that no memory holds. -/
def copies (s : String) (times : Nat) : String :=
  if s.isEmpty then "" else String.join (Array.replicate times s).toList

/-- A text some number of times in a row.  Nothing asks before whether a text can have so many
bytes, and where it cannot the program breaks down. -/
def repetition (s : String) (times : Nat) : Read Value :=
  if s.utf8ByteSize * times ≤ mostBytes then pure (.str (copies s times))
  else throw (.crash s.utf8ByteSize times)

/-- Products of numbers, and repetitions of texts; a negative number of times counts as zero. -/
def mul (l r : Value) : Read Value :=
  match l, r with
  | .int a, .int b => exact (a.toInt * b.toInt)
  | .str s, .int n => repetition s n.toInt.toNat
  | .int n, .str s => repetition s n.toInt.toNat
  | l, r => onFloats "*" (· * ·) l r

/-- Quotients of numbers, always as doubles. -/
def div (l r : Value) : Read Value :=
  if isZero r then throw (.invalid .divisionByZero) else onFloats "/" (· / ·) l r

/-- Quotients rounded down. -/
def floorDiv (l r : Value) : Read Value :=
  match l, r with
  | .int a, .int b =>
    if b = 0 then throw (.invalid .divisionByZero)
    else
      match Number.floorQuotient? a b with
      | some q => pure (.int q)
      | none => throw (.invalid .integerOverflow)
  | l, r =>
    if isZero r then throw (.invalid .divisionByZero)
    else onFloats "//" (fun x y => (x / y).floor) l r

/-- Remainders with the sign of the divisor. -/
def mod (l r : Value) : Read Value :=
  match l, r with
  | .int a, .int b =>
    if b = 0 then throw (.invalid .moduloByZero) else pure (.int (Number.floorRemainder a b))
  | l, r =>
    if isZero r then throw (.invalid .moduloByZero)
    else onFloats "%" Number.floorModFloat l r

/-- The order of two values that a comparison asks for. -/
def ordering (l r : Value) : Read Ordering :=
  match l.compare r with
  | some o => pure o
  | none => throw (.invalid (.operands "comparison" l.kind r.kind))

/-- Whether `container` holds `item`: a text a part, a list an item, a mapping a key. -/
def contains (container item : Value) : Read Bool :=
  match container, item with
  | .str s, .str part => pure (Text.contains part.toList s.toList)
  | .list items, item => pure (Value.memberOf item items)
  | .map entries, .str key => pure (Dict.has entries key)
  | .lazy _ keys, .str key => pure (keys.contains key)
  | container, item => throw (.invalid (.membership item.kind container.kind))

/-- Whether two values are equal once everything lazy in them is read. -/
def equal (a : Access) (l r : Value) : Read Bool := do
  let l ← l.materialize a
  let r ← r.materialize a
  return l.beq r

/-- Applies an operator to two defined operands. -/
def apply (a : Access) (op : BinaryOp) (l r : Value) : Read Value :=
  match op with
  | .eq => return .bool (← equal a l r)
  | .ne => return .bool (!(← equal a l r))
  | .lt => return .bool ((← ordering l r) == .lt)
  | .le => return .bool ((← ordering l r) != .gt)
  | .gt => return .bool ((← ordering l r) == .gt)
  | .ge => return .bool ((← ordering l r) != .lt)
  | .isIn => return .bool (← contains r l)
  | .notIn => return .bool (!(← contains r l))
  | .add => add l r
  | .sub => sub l r
  | .mul => mul l r
  | .div => div l r
  | .floorDiv => floorDiv l r
  | .mod => mod l r
  | .concat => return .str ((← l.output a) ++ (← r.output a))

/-- The number under a minus. -/
def negate (v : Value) : Read Value :=
  match v with
  | .int n => exact (-n.toInt)
  | .float x => pure (.float (-x))
  | v => throw (.invalid (.unaryOperand v.kind))

/-- The number under a plus. -/
def affirm (v : Value) : Read Value :=
  if v.isNumber then pure v else throw (.invalid (.unaryOperand v.kind))

/-- The place in a sequence of `length` items that a subscript means; negative ones count
from the end. -/
def position? (length : Nat) (i : Int64) : Option Nat :=
  let z := if i < 0 then (length : Int) + i.toInt else i.toInt
  if 0 ≤ z ∧ z < length then some z.toNat else none

/-- The value that is undefined because a subscript lies outside. -/
def outside (i : Int64) : Value := .undefined ("[" ++ toString i.toInt ++ "]")

/-- Subscripts: a key of a mapping, a place in a list or text. -/
def index (a : Access) (base subscript : Value) : Read Value :=
  match base, subscript with
  | .map entries, .str key => Value.lookup a (.map entries) key
  | .lazy place keys, .str key => Value.lookup a (.lazy place keys) key
  | .list items, .int i =>
    pure (((position? items.length i).bind (items[·]?)).getD (outside i))
  | .list items, .str s =>
    match Number.readNat? s.toList with
    | some n =>
      match items[n]? with
      | some v => pure v
      | none => throw (.invalid (.indexOutOfBounds n))
    | none => throw (.invalid (.indexNotInteger s))
  | .str s, .int i =>
    let cs := Value.chars s
    pure (((position? cs.length i).bind (cs[·]?)).getD (outside i))
  | base, subscript => throw (.invalid (.cannotIndex base.kind subscript.kind))

end Operator
end MailMerge
