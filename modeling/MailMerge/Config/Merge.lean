/-
# Merging variables

Variables of one source are laid over those of another.  A value laid over another
one takes its place, but where both are mappings their entries are merged, at every
depth.
-/

import MailMerge.Value.Basic

namespace MailMerge

mutual

/-- The value `over` laid over the value of a key, if it has one. -/
def Value.laidOver (old : Option Value) : Value → Value
  | .map entries =>
    match old with
    | some (.map existing) => .map (mergeEntries existing entries)
    | _ => .map entries
  | v => v

/-- Entries laid over a mapping one after the other. -/
def mergeEntries (base : Dict Value) : List (String × Value) → Dict Value
  | [] => base
  | (key, v) :: rest =>
    mergeEntries (Dict.insert key (Value.laidOver (Dict.find? base key) v) base) rest

end

/-- The variables `overlay` laid over the variables `base`. -/
def mergeVars (base overlay : Dict Value) : Dict Value := mergeEntries base overlay

end MailMerge
