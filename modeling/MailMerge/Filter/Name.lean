/-
# Filters and tests by name

The filters and tests that every environment has, and what they are called.
-/

namespace MailMerge

/-- The filters.  A probe returns its input and counts the use. -/
inductive Filter where
  | upper | lower | title | capitalize | trim | string
  | length | default | join | int | float | replace | first | last | abs | round | list | sort
  | reverse | unique | keys | values | items | min | max | sum
  | patternEscape | patternFindAll | patternReplace | patternSearch | patternContains
  | bool | path | quote | probe
  deriving DecidableEq, Repr

/-- The filter of a name. -/
def Filter.named? : String → Option Filter
  | "upper" => some upper
  | "lower" => some lower
  | "title" => some title
  | "capitalize" => some capitalize
  | "trim" => some trim
  | "string" => some string
  | "length" => some length
  | "count" => some length
  | "default" => some default
  | "d" => some default
  | "join" => some join
  | "int" => some int
  | "float" => some float
  | "replace" => some replace
  | "first" => some first
  | "last" => some last
  | "abs" => some abs
  | "round" => some round
  | "list" => some list
  | "sort" => some sort
  | "reverse" => some reverse
  | "unique" => some unique
  | "keys" => some keys
  | "values" => some values
  | "items" => some items
  | "min" => some min
  | "max" => some max
  | "sum" => some sum
  | "regex_escape" => some patternEscape
  | "regex_findall" => some patternFindAll
  | "regex_replace" => some patternReplace
  | "regex_search" => some patternSearch
  | "regex_contains" => some patternContains
  | "bool" => some bool
  | "path" => some path
  | "quote" => some quote
  | _ => none

/-- The tests. -/
inductive ValueTest where
  | defined | undefined | none | boolean | isTrue | isFalse | number | integer | float | string
  | mapping | sequence | iterable | even | odd | divisibleBy | eq | isIn
  deriving DecidableEq, Repr

/-- The test of a name. -/
def ValueTest.named? : String → Option ValueTest
  | "defined" => some defined
  | "undefined" => some undefined
  | "none" => some none
  | "boolean" => some boolean
  | "true" => some isTrue
  | "false" => some isFalse
  | "number" => some number
  | "integer" => some integer
  | "float" => some float
  | "string" => some string
  | "mapping" => some mapping
  | "sequence" => some sequence
  | "iterable" => some iterable
  | "even" => some even
  | "odd" => some odd
  | "divisibleby" => some divisibleBy
  | "eq" => some eq
  | "in" => some isIn
  | _ => Option.none

end MailMerge
