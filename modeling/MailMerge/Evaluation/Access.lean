/-
# Values and what lies behind them

Evaluation asks its surroundings for two things: the value of a name, and the
entry of a lazy mapping.  With these, values can be taken apart, made plain and
written out.
-/

import MailMerge.Evaluation.Memory
import MailMerge.Value.Order
import MailMerge.Value.Display

namespace MailMerge

/-- What evaluation may ask for.  `height` bounds how many lazy mappings lie one inside the
other. -/
structure Access where
  name : String → Read (Option Value)
  entry : List String → String → Read Value
  height : Nat

namespace Value

/-- A value that must not be undefined. -/
def defined : Value → Read Value
  | undefined name => throw (.undefined name)
  | v => pure v

mutual

/-- A copy of a value with every lazy mapping replaced; nothing in it may be undefined. -/
def expandWith (f : List String → List String → Read Value) : Value → Read Value
  | undefined name => throw (.undefined name)
  | list items => return list (← expandItems f items)
  | map entries => return map (← expandEntries f entries)
  | lazy place keys => f place keys
  | v => pure v

/-- `expandWith` for the items of a list in order. -/
def expandItems (f : List String → List String → Read Value) : List Value → Read (List Value)
  | [] => pure []
  | v :: rest => return (← expandWith f v) :: (← expandItems f rest)

/-- `expandWith` for the values of a mapping in order. -/
def expandEntries (f : List String → List String → Read Value) :
    List (String × Value) → Read (List (String × Value))
  | [] => pure []
  | (k, v) :: rest => return (k, ← expandWith f v) :: (← expandEntries f rest)

end

/-- Replaces lazy mappings by plain ones, reading every entry in order, through at most
`depth` mappings one inside the other. -/
def expand (a : Access) : Nat → Value → Read Value
  | 0 => expandWith fun _ _ => throw (.invalid .tooDeep)
  | depth + 1 => expandWith fun place keys => do
    let entries ← keys.mapM fun key => do
      let v ← a.entry place key
      return (key, ← expand a depth v)
    return map entries

/-- The value with all lazy mappings in it made plain.  Nothing in it may be undefined. -/
def materialize (a : Access) (v : Value) : Read Value := expand a a.height v

/-- The text of a value in the output. -/
def output (a : Access) (v : Value) : Read String :=
  match v with
  | str s => pure s
  | v => return display (← materialize a v)

/-- The items that a loop runs through: list items, keys, or characters. -/
def items : Value → Read (List Value)
  | list items => pure items
  | map entries => pure (entries.map fun e => str e.1)
  | lazy _ keys => pure (keys.map str)
  | str s => pure (chars s)
  | undefined name => throw (.undefined name)
  | v => throw (.invalid (.notIterable v.kind))

/-- The value under a key; a missing key, or a base without keys, gives undefined. -/
def lookup (a : Access) (base : Value) (key : String) : Read Value :=
  match base with
  | map entries => pure ((Dict.find? entries key).getD (undefined key))
  | lazy place _ => a.entry place key
  | _ => pure (undefined key)

/-- The keys of a mapping, each in a list with its value. -/
def pairs (a : Access) (base : Value) : Read (List Value) := do
  let keys ← items base
  keys.mapM fun key => do
    let name ← output a key
    return list [key, ← lookup a base name]

end Value

end MailMerge
