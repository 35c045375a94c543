/-
# Templates as trees

A template is a list of nodes, a tag of a template holds expressions.
-/

import MailMerge.Value.Basic

namespace MailMerge

/-- The operators that evaluate both their operands. -/
inductive BinaryOp where
  | eq | ne | lt | le | gt | ge | isIn | notIn | add | sub | mul | div | floorDiv | mod | concat
  deriving DecidableEq, Repr

/-- An expression.  A conditional expression may lack its `else`. -/
inductive Expr where
  | str (s : String)
  | int (n : Int64)
  | float (x : Float)
  | bool (b : Bool)
  | null
  | list (items : List Expr)
  | dict (pairs : List (Expr × Expr))
  | name (s : String)
  | attr (base : Expr) (key : String)
  | index (base : Expr) (subscript : Expr)
  | binary (op : BinaryOp) (left right : Expr)
  | and (left right : Expr)
  | or (left right : Expr)
  | not (operand : Expr)
  | neg (operand : Expr)
  | pos (operand : Expr)
  | filter (subject : Expr) (name : String) (args : List Expr) (kwargs : List (String × Expr))
  | test (subject : Expr) (name : String) (args : List Expr) (kwargs : List (String × Expr))
      (negated : Bool)
  | cond (value condition : Expr) (otherwise : Option Expr)

instance : Inhabited Expr := ⟨.null⟩

/-- A node of a template. -/
inductive Node where
  | text (s : String)
  | output (e : Expr)
  | set (target : String) (value : Expr)
  | branch (cases : List (Expr × List Node)) (otherwise : Option (List Node))
  | loop (targets : List String) (sequence : Expr) (body : List Node)
      (otherwise : Option (List Node))

/-- A template. -/
abbrev Template := List Node

end MailMerge
