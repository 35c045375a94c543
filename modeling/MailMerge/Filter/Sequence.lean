/-
# Filters on sequences and mappings

Sorting is insertion from the right: each item moves left past the items it is
less than.  Items that do not compare stop it there, and the first such pair is
the error.
-/

import MailMerge.Filter.Argument

namespace MailMerge
namespace Filters

/-- Two values that do not compare. -/
abbrev Clash := Kind × Kind

/-- Inserts an item into a sorted list given backwards: the new list, and the pair that did
not compare, if one was met. -/
def insertBack (x : Value) : List Value → List Value × Option Clash
  | [] => ([x], none)
  | y :: ys =>
    match x.compare y with
    | some .lt =>
      let (rest, clash) := insertBack x ys
      (y :: rest, clash)
    | some _ => (x :: y :: ys, none)
    | none => (x :: y :: ys, some (x.kind, y.kind))

/-- Inserts the next item; the first pair that did not compare stays. -/
def insertNext (before : List Value × Option Clash) (x : Value) : List Value × Option Clash :=
  let (back, clash) := insertBack x before.1
  (back, before.2.or clash)

/-- Sorts by insertion: the list backwards, and the first pair that did not compare. -/
def sortBack (items : List Value) : List Value × Option Clash := items.foldl insertNext ([], none)

/-- The items in ascending order. -/
def sorted (items : List Value) : Read (List Value) :=
  match sortBack items with
  | (back, none) => pure back.reverse
  | (_, some (l, r)) => throw (.invalid (.cannotCompare l r))

/-- The items of a value in ascending order, or in descending order if asked for. -/
def sort (v : Value) (given : Arguments) : Read Value := do
  let items ← sorted (← v.items)
  return .list (if given.flag 0 "reverse" then items.reverse else items)

/-- A text or sequence backwards. -/
def reverse (v : Value) : Read Value :=
  match v with
  | .str s => pure (.str (String.ofList s.toList.reverse))
  | v => return .list (← v.items).reverse

/-- The items that equal no item before them. -/
def distinct (items : List Value) : List Value :=
  items.foldl (fun seen x => if Value.memberOf x seen then seen else seen ++ [x]) []

/-- The number of characters, items or keys. -/
def length (v : Value) : Read Value := do
  let v ← v.defined
  match v.size? with
  | some n => pure (.int (Number.ofNat n))
  | none => throw (.invalid (.noLength v.kind))

/-- A value, or another one if it is undefined, or, if asked for, if it is false. -/
def default (v : Value) (given : Arguments) : Value :=
  if v.isUndefined || (given.flag 1 "boolean" && !v.truthy) then
    (given.param? 0 "default_value").getD (.str "")
  else v

/-- The texts of the items, with a separator between them. -/
def join (a : Access) (v : Value) (given : Arguments) : Read Value := do
  let sep ← given.textOr a 0 "d" ""
  let parts ← (← v.items).mapM (Value.output a)
  return .str (joinStrings sep parts)

/-- The first item. -/
def first (v : Value) : Read Value := do
  return ((← (← v.defined).items).head?).getD (.undefined "first")

/-- The last item. -/
def last (v : Value) : Read Value := do
  return ((← (← v.defined).items).getLast?).getD (.undefined "last")

/-- The least item. -/
def min (v : Value) : Read Value := do
  return ((← sorted (← v.items)).head?).getD (.undefined "empty sequence")

/-- The greatest item. -/
def max (v : Value) : Read Value := do
  return ((← sorted (← v.items)).getLast?).getD (.undefined "empty sequence")

/-- The value of a key that the mapping has. -/
def valueOf (a : Access) (m : Value) (key : String) : Read Value :=
  match m with
  | .map entries => pure ((Dict.find? entries key).getD .null)
  | .lazy place _ => a.entry place key
  | _ => pure .null

/-- The values of a mapping in the order of their keys. -/
def values (a : Access) (v : Value) : Read Value := do
  let m ← mapping v
  let keys ← m.items
  return .list (← keys.mapM fun key => do valueOf a m (← key.output a))

/-- The keys of a mapping in order, each in a list with its value. -/
def items (a : Access) (v : Value) : Read Value := do
  let m ← mapping v
  let keys ← m.items
  return .list (← keys.mapM fun key => do
    return .list [key, ← valueOf a m (← key.output a)])

end Filters
end MailMerge
