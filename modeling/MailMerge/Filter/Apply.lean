/-
# Applying filters and tests
-/

import MailMerge.Filter.Name
import MailMerge.Filter.Text
import MailMerge.Filter.Numeric
import MailMerge.Filter.Sequence
import MailMerge.Filter.Pattern
import MailMerge.Environment

namespace MailMerge

namespace Filter

open Filters

/-- Returns a value and counts the use. -/
def countUse (v : Value) : Read Value := do
  modify fun m => { m with uses := m.uses + 1 }
  pure v

/-- Applies a filter to a value. -/
def apply (a : Access) (filter : Filter) (v : Value) (given : Filters.Arguments) : Read Value :=
  match filter with
  | .upper => onText a Text.upper v
  | .lower => onText a Text.lower v
  | .title => onText a (titleChars false) v
  | .capitalize => onText a capitalizeChars v
  | .trim => onText a Text.trim v
  | .string => return .str (← v.output a)
  | .length => Filters.length v
  | .default => pure (Filters.default v given)
  | .join => Filters.join a v given
  | .int => Filters.int v given
  | .float => Filters.float v given
  | .replace => Filters.replace a v given
  | .first => Filters.first v
  | .last => Filters.last v
  | .abs => Filters.abs v
  | .round => Filters.round a v given
  | .list => return .list (← v.items)
  | .sort => Filters.sort v given
  | .reverse => Filters.reverse v
  | .unique => return .list (distinct (← v.items))
  | .keys => do return .list (← (← mapping v).items)
  | .values => Filters.values a v
  | .items => Filters.items a v
  | .min => Filters.min v
  | .max => Filters.max v
  | .sum => Filters.sum v given
  | .patternEscape => onText a Pattern.escapeText v
  | .patternFindAll => Filters.patternFindAll a v given
  | .patternReplace => Filters.patternReplace a v given
  | .patternSearch => Filters.patternSearch a v given
  | .patternContains => Filters.patternContains a v given
  | .bool => toBool a v given
  | .path => onText a Path.normalizeChars v
  | .quote => onText a shellQuoteChars v
  | .probe => countUse v

end Filter

/-- The filter that a name stands for. -/
def Environment.filter? (env : Environment) (name : String) : Option Filter :=
  if env.probes.contains name then some .probe else Filter.named? name

namespace ValueTest

/-- Whether a value passes a test. -/
def holds (a : Access) (test : ValueTest) (v : Value) (given : Filters.Arguments) : Read Bool :=
  match test with
  | .defined => pure (!v.isUndefined)
  | .undefined => pure v.isUndefined
  | .none => pure (v.kind == .none)
  | .boolean => pure (v.kind == .boolean)
  | .isTrue => pure (match v with | .bool b => b | _ => false)
  | .isFalse => pure (match v with | .bool b => !b | _ => false)
  | .number => pure v.isNumber
  | .integer => pure (v.kind == .integer)
  | .float => pure (v.kind == .float)
  | .string => pure (v.kind == .string)
  | .mapping => pure v.isMapping
  | .sequence => pure v.size?.isSome
  | .iterable => pure v.size?.isSome
  | .even => return (← Filters.integer v).toInt % 2 == 0
  | .odd => return (← Filters.integer v).toInt % 2 != 0
  | .divisibleBy => do
    let n ← Filters.integer (← given.need 0 "divisibleby")
    if n = 0 then throw (.invalid .divisibleByZero)
    return (← Filters.integer v).toInt % n.toInt == 0
  | .eq => do
    let l ← v.materialize a
    let r ← (← given.need 0 "eq").materialize a
    return l.beq r
  | .isIn => do
    let container ← (← given.need 0 "in").defined
    return Value.memberOf v (← container.items)

end ValueTest

end MailMerge
