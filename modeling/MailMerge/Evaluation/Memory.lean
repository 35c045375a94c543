/-
# What reading variables may change

Variables are kept as entries.  A text that can be a template is not rendered until
it is read; while it renders, its entry is marked, so that a cycle is noticed; and
the value it gives takes its place.  A mapping among the variables is a mapping of
entries in turn.  An entry is addressed by the keys that lead to it.
-/

import MailMerge.Error

namespace MailMerge

/-- One variable. -/
inductive Entry where
  | literal (v : Value)
  | template (source : String)
  | rendering (source : String)
  | resolved (v : Value)
  | nested (entries : List (String × Entry))

instance : Inhabited Entry := ⟨.literal .null⟩

namespace Entry

/-- Whether a value is there without rendering anything. -/
def isSettled : Entry → Bool
  | literal _ => true
  | resolved _ => true
  | nested _ => true
  | template _ => false
  | rendering _ => false

mutual

/-- How many entries at or under this one are waiting to be rendered. -/
def waiting : Entry → Nat
  | template _ => 1
  | nested entries => waitingIn entries
  | _ => 0

/-- How many of these entries, at any depth, are waiting to be rendered. -/
def waitingIn : List (String × Entry) → Nat
  | [] => 0
  | (_, e) :: rest => waiting e + waitingIn rest

end

mutual

/-- How many mappings lie one inside the other under this entry, itself included. -/
def height : Entry → Nat
  | nested entries => heightOf entries + 1
  | _ => 0

/-- The greatest height of these entries. -/
def heightOf : List (String × Entry) → Nat
  | [] => 0
  | (_, e) :: rest => max (height e) (heightOf rest)

end

end Entry

/-- The variables of a context. -/
abbrev Vars := Dict Entry

namespace Vars

/-- The entry `key` of the mapping at `place`. -/
def lookup? (vars : Vars) : List String → String → Option Entry
  | [], key => Dict.find? vars key
  | p :: ps, key =>
    match Dict.find? vars p with
    | some (.nested inner) => lookup? inner ps key
    | _ => none

/-- Puts an entry under `key` into the mapping at `place`, if there is one. -/
def put (vars : Vars) : List String → String → Entry → Vars
  | [], key, e => Dict.insert key e vars
  | p :: ps, key, e =>
    match Dict.find? vars p with
    | some (.nested inner) => Dict.insert p (.nested (put inner ps key e)) vars
    | _ => vars

end Vars

/-- Where an entry is: the place of its mapping, and its key there. -/
abbrev Spot := List String × String

/-- The state that reading threads: the variables, the number of uses of probes, and the
entries whose templates were rendered to a value, the latest first. -/
structure Memory where
  vars : Vars := []
  uses : Nat := 0
  settled : List Spot := []

/-- A computation that may read variables, and so settle some of them, and may fail.  What it
settled stays settled when it fails. -/
abbrev Read (α : Type) := EStateM RenderError Memory α

end MailMerge
