/-
# Arguments of filters and tests

Arguments come by position or by name; position counts first.
-/

import MailMerge.Evaluation.Access

namespace MailMerge
namespace Filters

/-- What a filter or test is called with besides its input. -/
structure Arguments where
  args : List Value := []
  kwargs : Dict Value := []

namespace Arguments

/-- The argument at a position, else the one of a name. -/
def param? (given : Arguments) (position : Nat) (key : String) : Option Value :=
  match given.args[position]? with
  | some v => some v
  | none => Dict.find? given.kwargs key

/-- Whether an optional argument is given and true. -/
def flag (given : Arguments) (position : Nat) (key : String) : Bool :=
  match given.param? position key with
  | some v => v.truthy
  | none => false

/-- The text of an optional argument, or the text that stands for it. -/
def textOr (a : Access) (given : Arguments) (position : Nat) (key standIn : String) :
    Read String :=
  match given.param? position key with
  | some v => v.output a
  | none => pure standIn

/-- The argument that must come at a position; `name` is the filter's or test's. -/
def need (given : Arguments) (position : Nat) (name : String) : Read Value :=
  match given.args[position]? with
  | some v => pure v
  | none => throw (.invalid (.missingArgument name (position + 1)))

end Arguments

/-- The value of an integer. -/
def integer (v : Value) : Read Int64 :=
  match v with
  | .int n => pure n
  | .undefined name => throw (.undefined name)
  | v => throw (.invalid (.expectedInteger v.kind))

/-- A value that must be a mapping. -/
def mapping (v : Value) : Read Value :=
  match v with
  | .undefined name => throw (.undefined name)
  | v => if v.isMapping then pure v else throw (.invalid (.expectedMapping v.kind))

end Filters
end MailMerge
