/-
# Values

The values that templates compute with.  An integer has 64 bits.  A mapping is
either at hand (`map`) or a handle on variables that are rendered when they are
read (`lazy`): its place among the variables and its keys.  A name that nothing
binds gives `undefined`, which is false and otherwise hardly usable.
-/

import MailMerge.Value.Dict

namespace MailMerge

/-- A value of the template language. -/
inductive Value where
  | str (s : String)
  | int (n : Int64)
  | float (x : Float)
  | bool (b : Bool)
  | list (items : List Value)
  | map (entries : List (String × Value))
  | null
  | undefined (name : String)
  | lazy (place : List String) (keys : List String)

instance : Inhabited Value := ⟨.null⟩

/-- The kinds of values that messages tell apart. -/
inductive Kind where
  | string | integer | float | boolean | list | mapping | none | undefined
  deriving DecidableEq, Repr

/-- The kind's name. -/
def Kind.name : Kind → String
  | string => "string"
  | integer => "integer"
  | float => "float"
  | boolean => "boolean"
  | list => "list"
  | mapping => "mapping"
  | none => "none"
  | undefined => "undefined"

namespace Value

/-- The kind of a value; both forms of mappings are of one kind. -/
def kind : Value → Kind
  | str _ => .string
  | int _ => .integer
  | float _ => .float
  | bool _ => .boolean
  | list _ => .list
  | map _ => .mapping
  | lazy _ _ => .mapping
  | null => .none
  | undefined _ => .undefined

/-- Whether a value counts as true: not empty, not zero, neither none nor undefined. -/
def truthy : Value → Bool
  | str s => !s.isEmpty
  | int n => n != 0
  | float x => x != 0
  | bool b => b
  | list items => !items.isEmpty
  | map entries => !entries.isEmpty
  | lazy _ keys => !keys.isEmpty
  | null => false
  | undefined _ => false

/-- Whether a value is undefined. -/
def isUndefined : Value → Bool
  | undefined _ => true
  | _ => false

/-- Whether a value is a mapping, at hand or lazy. -/
def isMapping : Value → Bool
  | map _ => true
  | lazy _ _ => true
  | _ => false

/-- Whether a value is a number. -/
def isNumber : Value → Bool
  | int _ => true
  | float _ => true
  | _ => false

/-- The text of a string. -/
def text? : Value → Option String
  | str s => some s
  | _ => none

/-- The number of characters, items or keys. -/
def size? : Value → Option Nat
  | str s => some s.length
  | list items => some items.length
  | map entries => some entries.length
  | lazy _ keys => some keys.length
  | _ => none

/-- A number as a double. -/
def float? : Value → Option Float
  | int n => some n.toFloat
  | float x => some x
  | _ => none

/-- The characters of a text as strings of one character. -/
def chars (s : String) : List Value := s.toList.map fun c => str c.toString

end Value

end MailMerge
