/-
# Dictionaries

A dictionary maps texts to values and keeps its keys in ascending order of code
points, each key once.  It is a list of pairs; `insert` keeps the order.
-/

namespace MailMerge

/-- Pairs of a key and a value, in ascending order of their keys. -/
abbrev Dict (α : Type) := List (String × α)

namespace Dict

variable {α β : Type}

/-- The value of a key. -/
def find? (d : Dict α) (key : String) : Option α := List.lookup key d

/-- Whether a key is bound. -/
def has (d : Dict α) (key : String) : Bool := (d.find? key).isSome

/-- Binds a key to a value, in place of the value it had. -/
def insert (key : String) (value : α) : Dict α → Dict α
  | [] => [(key, value)]
  | (k, v) :: rest =>
    if key < k then (key, value) :: (k, v) :: rest
    else if key = k then (key, value) :: rest
    else (k, v) :: insert key value rest

/-- The keys in order. -/
def keys (d : Dict α) : List String := d.map Prod.fst

/-- The dictionary of a list of pairs; the last pair of a key counts. -/
def ofList (pairs : List (String × α)) : Dict α :=
  pairs.foldl (fun d p => insert p.1 p.2 d) []

end Dict

end MailMerge
