/-
# What lies inside a value

A value may hold values: the items of a list, the entries of a mapping.  A handle
on variables holds none; what it stands for is read elsewhere.  `Value.every` asks
a question of a value and of all values inside, `Value.induction` proves a statement
the same way.

| word | no handle inside | nothing undefined inside | keys in order |
| --- | --- | --- | --- |
| `AtHand` | yes | | |
| `Solid` | yes | yes | |
| `InOrder` | | | yes |
-/

import MailMerge.Value.Basic
import MailMerge.Proofs.Dict

namespace MailMerge
namespace Value

mutual

/-- Whether a property holds of a value and of all values inside. -/
def every (p : Value → Bool) : Value → Bool
  | list items => p (list items) && everyItem p items
  | map entries => p (map entries) && everyEntry p entries
  | v => p v

/-- `every` for the items of a list. -/
def everyItem (p : Value → Bool) : List Value → Bool
  | [] => true
  | v :: rest => every p v && everyItem p rest

/-- `every` for the values of a mapping. -/
def everyEntry (p : Value → Bool) : List (String × Value) → Bool
  | [] => true
  | (_, v) :: rest => every p v && everyEntry p rest

end

theorem everyItem_iff {p : Value → Bool} {items : List Value} :
    everyItem p items = true ↔ ∀ v ∈ items, every p v = true := by
  induction items with
  | nil => simp [everyItem]
  | cons v rest ih => simp [everyItem, ih]

theorem everyEntry_iff {p : Value → Bool} {entries : List (String × Value)} :
    everyEntry p entries = true ↔ ∀ e ∈ entries, every p e.2 = true := by
  induction entries with
  | nil => simp [everyEntry]
  | cons e rest ih => simp [everyEntry, ih]

/-- **Induction on what lies inside a value.** -/
@[elab_as_elim]
theorem induction {motive : Value → Prop} (str : ∀ s, motive (str s)) (int : ∀ n, motive (int n))
    (float : ∀ x, motive (float x)) (bool : ∀ b, motive (bool b))
    (list : ∀ items, (∀ v ∈ items, motive v) → motive (list items))
    (map : ∀ entries, (∀ e ∈ entries, motive e.2) → motive (map entries))
    (null : motive null) (undefined : ∀ s, motive (undefined s))
    (lazy : ∀ place keys, motive (lazy place keys)) (v : Value) : motive v := by
  refine @Value.rec motive (fun items => ∀ v ∈ items, motive v)
    (fun entries => ∀ e ∈ entries, motive e.2) (fun e => motive e.2)
    str int float bool list map null undefined lazy ?_ ?_ ?_ ?_ ?_ v
  · simp
  · intro v rest hv hrest w hw
    rcases List.mem_cons.1 hw with rfl | hw
    · exact hv
    · exact hrest w hw
  · simp
  · intro e rest he hrest d hd
    rcases List.mem_cons.1 hd with rfl | hd
    · exact he
    · exact hrest d hd
  · exact fun _ _ h => h

/-- Whether a value is a handle on variables. -/
def isHandle : Value → Bool
  | lazy _ _ => true
  | _ => false

/-- Whether the keys of a mapping ascend; other values have none. -/
def hasOrderedKeys : Value → Bool
  | map entries => decide (Dict.Ordered entries)
  | _ => true

/-- No handle inside. -/
def AtHand (v : Value) : Prop := v.every (fun w => !w.isHandle) = true

/-- No handle and nothing undefined inside. -/
def Solid (v : Value) : Prop := v.every (fun w => !w.isHandle && !w.isUndefined) = true

/-- Every mapping inside has its keys in order. -/
def InOrder (v : Value) : Prop := v.every hasOrderedKeys = true

instance (v : Value) : Decidable v.AtHand := inferInstanceAs (Decidable (_ = _))
instance (v : Value) : Decidable v.Solid := inferInstanceAs (Decidable (_ = _))
instance (v : Value) : Decidable v.InOrder := inferInstanceAs (Decidable (_ = _))

@[simp] theorem atHand_list {items : List Value} :
    AtHand (list items) ↔ ∀ v ∈ items, v.AtHand := everyItem_iff

@[simp] theorem atHand_map {entries : List (String × Value)} :
    AtHand (map entries) ↔ ∀ e ∈ entries, e.2.AtHand := everyEntry_iff

@[simp] theorem not_atHand_lazy {place keys : List String} : ¬ AtHand (lazy place keys) :=
  Bool.false_ne_true

@[simp] theorem solid_list {items : List Value} :
    Solid (list items) ↔ ∀ v ∈ items, v.Solid := everyItem_iff

@[simp] theorem solid_map {entries : List (String × Value)} :
    Solid (map entries) ↔ ∀ e ∈ entries, e.2.Solid := everyEntry_iff

@[simp] theorem not_solid_lazy {place keys : List String} : ¬ Solid (lazy place keys) :=
  Bool.false_ne_true

@[simp] theorem not_solid_undefined {s : String} : ¬ Solid (undefined s) := Bool.false_ne_true

theorem inOrder_list {items : List Value} : InOrder (list items) ↔ ∀ v ∈ items, v.InOrder :=
  everyItem_iff

theorem inOrder_map {entries : List (String × Value)} :
    InOrder (map entries) ↔ Dict.Ordered entries ∧ ∀ e ∈ entries, e.2.InOrder := by
  change (decide (Dict.Ordered entries) && everyEntry hasOrderedKeys entries) = true ↔ _
  rw [Bool.and_eq_true, decide_eq_true_eq, everyEntry_iff]
  rfl

/-- A value without handles and without anything undefined is at hand. -/
theorem Solid.atHand {v : Value} : v.Solid → v.AtHand := by
  induction v using Value.induction with
  | list items ih => exact fun h => atHand_list.2 fun v hv => ih v hv (solid_list.1 h v hv)
  | map entries ih => exact fun h => atHand_map.2 fun e he => ih e he (solid_map.1 h e he)
  | lazy => exact fun h => absurd h not_solid_lazy
  | _ => exact fun _ => rfl

end Value
end MailMerge
