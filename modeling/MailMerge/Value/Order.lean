/-
# Equality and order of values

Numbers are equal, and compare, across their two kinds as doubles.  Lists compare
item by item, the first difference decides and a list comes after its beginnings.
Values of other kinds do not compare, and values of different kinds are not equal.
Two handles on lazy variables are equal if they name the same place.
-/

import MailMerge.Value.Basic

namespace MailMerge
namespace Value

/-- How two doubles compare; a number that is not one compares with nothing. -/
def compareFloat (x y : Float) : Option Ordering :=
  if x < y then some .lt
  else if x == y then some .eq
  else if y < x then some .gt
  else none

/-- How two texts compare: by the code points of the first difference. -/
def compareText (s t : String) : Ordering :=
  if s < t then .lt else if s = t then .eq else .gt

mutual

/-- How two values compare, if they do. -/
def compare : Value → Value → Option Ordering
  | int m, int n => some (if m < n then .lt else if m = n then .eq else .gt)
  | int m, float y => compareFloat m.toFloat y
  | float x, int n => compareFloat x n.toFloat
  | float x, float y => compareFloat x y
  | str s, str t => some (compareText s t)
  | list xs, list ys => compareLists xs ys
  | _, _ => none

/-- How two lists compare, if their items up to the first difference do. -/
def compareLists : List Value → List Value → Option Ordering
  | [], [] => some .eq
  | [], _ :: _ => some .lt
  | _ :: _, [] => some .gt
  | x :: xs, y :: ys =>
    match compare x y with
    | some .eq => compareLists xs ys
    | answer => answer

end

mutual

/-- Whether two values are equal. -/
def beq : Value → Value → Bool
  | str s, str t => s == t
  | int m, int n => m == n
  | int m, float y => m.toFloat == y
  | float x, int n => x == n.toFloat
  | float x, float y => x == y
  | bool a, bool b => a == b
  | list xs, list ys => beqLists xs ys
  | map xs, map ys => beqEntries xs ys
  | null, null => true
  | undefined a, undefined b => a == b
  | lazy a _, lazy b _ => a == b
  | _, _ => false

/-- Whether two lists have equal items in order. -/
def beqLists : List Value → List Value → Bool
  | [], [] => true
  | x :: xs, y :: ys => beq x y && beqLists xs ys
  | _, _ => false

/-- Whether two dictionaries have the same keys with equal values. -/
def beqEntries : List (String × Value) → List (String × Value) → Bool
  | [], [] => true
  | (k, x) :: xs, (l, y) :: ys => k == l && beq x y && beqEntries xs ys
  | _, _ => false

end

instance : BEq Value := ⟨beq⟩

/-- Whether a list holds an item equal to a value. -/
def memberOf (v : Value) (items : List Value) : Bool := items.any fun item => beq item v

end Value
end MailMerge
