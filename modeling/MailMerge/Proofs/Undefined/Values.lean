/-
# Undefined at the top or not at all

A value is whole if nothing in it is undefined, at any depth, and its handles are on mappings
of whole values; it is loose if it is whole or undefined itself.  Loose values are all that an
evaluation meets (`Ensures.eval`): what is put into a list or mapping has been asked to be
defined before, and a defined loose value is whole.

Which handles are on mappings of whole values is for the surroundings to say: `Access.Defined`
states it of an access, for the handles in `H`, as long as the memory has the invariant `J`.
This module takes values apart: texts, items, entries.
-/

import MailMerge.Proofs.Evaluation.Parallel
import MailMerge.Proofs.Undefined.Ensures

namespace MailMerge

/-- Handles on mappings: their places and keys. -/
abbrev Handles := List String → List String → Prop

namespace Value

/-- Nothing is undefined, at any depth, and the handles are in `H`. -/
inductive Whole (H : Handles) : Value → Prop
  | str (s : String) : Whole H (.str s)
  | int (n : Int64) : Whole H (.int n)
  | float (x : Float) : Whole H (.float x)
  | bool (b : Bool) : Whole H (.bool b)
  | null : Whole H .null
  | list {items : List Value} : (∀ v ∈ items, Whole H v) → Whole H (.list items)
  | map {entries : Dict Value} : (∀ e ∈ entries, Whole H e.2) → Whole H (.map entries)
  | handle {place keys : List String} : H place keys → Whole H (.lazy place keys)

/-- Undefined itself, or with nothing undefined in it. -/
def Loose (H : Handles) (v : Value) : Prop := v.isUndefined = true ∨ v.Whole H

variable {H : Handles} {v : Value}

theorem Whole.loose (h : v.Whole H) : v.Loose H := .inr h

theorem loose_undefined (s : String) : (undefined s).Loose H := .inl rfl

theorem Loose.whole (h : v.Loose H) (hv : v.isUndefined = false) : v.Whole H :=
  h.resolve_left (by simp [hv])

theorem whole_list {items : List Value} : (list items).Whole H ↔ ∀ v ∈ items, v.Whole H :=
  ⟨fun | .list h => h, .list⟩

theorem whole_map {entries : Dict Value} : (map entries).Whole H ↔ ∀ e ∈ entries, e.2.Whole H :=
  ⟨fun | .map h => h, .map⟩

/-- What has no handle and nothing undefined inside is whole. -/
theorem Solid.whole (h : v.Solid) : v.Whole H := by
  induction v using Value.induction with
  | list items ih => exact .list fun v hv => ih v hv (solid_list.1 h v hv)
  | map entries ih => exact .map fun e he => ih e he (solid_map.1 h e he)
  | undefined s => exact absurd h not_solid_undefined
  | lazy place keys => exact absurd h not_solid_lazy
  | _ => constructor

/-- A value that is present or stands in for one. -/
theorem loose_getD {o : Option Value} (ho : ∀ v, o = some v → v.Whole H) (s : String) :
    (o.getD (undefined s)).Loose H := by
  cases o with
  | none => exact loose_undefined s
  | some v => exact (ho v rfl).loose

theorem whole_find? {entries : Dict Value} (h : ∀ e ∈ entries, e.2.Whole H) {key : String}
    (hv : Dict.find? entries key = some v) : v.Whole H := h (key, v) (Dict.mem_of_find? hv)

/-- A mapping is run through by its keys. -/
theorem items_of_isMapping (h : v.isMapping = true) :
    v.items = pure (v.keyNames.map str) := by
  cases v with
  | map entries => rw [items, keyNames, map_str_keys]
  | lazy place keys => rfl
  | _ => cases h

end Value

open Value (Whole Loose)

/-- An access to whole values, as long as the memory has the invariant `J`: those of names, and
those behind the handles in `H`, whose other keys may be undefined. -/
structure Access.Defined (J : Memory → Prop) (H : Handles) (a : Access) : Prop where
  count : ∀ m, J m → J { m with uses := m.uses + 1 }
  name : ∀ s, Ensures J (fun o => ∀ v, o = some v → v.Whole H) (a.name s)
  entry : ∀ {place keys} key, H place keys →
    Ensures J (fun v => v.Loose H ∧ (key ∈ keys → v.Whole H)) (a.entry place key)

namespace Ensures

variable {J : Memory → Prop} {H : Handles} {a : Access} {v : Value}

/-- **A defined loose value is whole.** -/
theorem defined (hv : v.Loose H) : Ensures J (Whole H) v.defined := by
  cases v with
  | undefined s => exact .throw _
  | _ => exact .pure (hv.whole rfl)

/-! ### Expansion -/

/-- Expansion keeps the invariant if the replacing of handles does. -/
theorem expandWith {f : List String → List String → Read Value}
    (hf : ∀ place keys, H place keys → Keeps J (f place keys)) (hv : v.Loose H) :
    Keeps J (Value.expandWith f v) := by
  induction v using Value.induction with
  | list items ih =>
    have hitems := Value.whole_list.1 (hv.whole rfl)
    have hexpand : Keeps J (Value.expandItems f items) := by
      induction items with
      | nil => exact .pure trivial
      | cons w rest ihr =>
        obtain ⟨hw, hrest⟩ := List.forall_mem_cons.1 hitems
        exact (ih w List.mem_cons_self hw.loose).bind fun _ _ =>
          (ihr (fun x hx => ih x (List.mem_cons_of_mem _ hx)) (Whole.list hrest).loose
            hrest).bind fun _ _ => .pure trivial
    exact hexpand.bind fun _ _ => .pure trivial
  | map entries ih =>
    have hentries := Value.whole_map.1 (hv.whole rfl)
    have hexpand : Keeps J (Value.expandEntries f entries) := by
      induction entries with
      | nil => exact .pure trivial
      | cons e rest ihr =>
        obtain ⟨he, hrest⟩ := List.forall_mem_cons.1 hentries
        exact (ih e List.mem_cons_self he.loose).bind fun _ _ =>
          (ihr (fun x hx => ih x (List.mem_cons_of_mem _ hx)) (Whole.map hrest).loose
            hrest).bind fun _ _ => .pure trivial
    exact hexpand.bind fun _ _ => .pure trivial
  | lazy place keys =>
    cases hv.whole rfl with
    | handle h => exact hf place keys h
  | undefined s => exact .throw _
  | _ => exact .pure trivial

variable (ha : a.Defined J H)
include ha

theorem expand (depth : Nat) (hv : v.Loose H) : Keeps J (Value.expand a depth v) := by
  induction depth generalizing v with
  | zero => exact expandWith (fun _ _ _ => .throw _) hv
  | succ depth ih =>
    refine expandWith (fun place keys h => ?_) hv
    refine Ensures.bind (P := fun _ => True) ?_ fun _ _ => .pure trivial
    refine (mapM (Q := fun _ => True) fun key _ => ?_).keeps
    exact (ha.entry key h).bind fun w hw => (ih hw.1).bind fun _ _ => .pure trivial

theorem materialize (hv : v.Loose H) : Keeps J (v.materialize a) := expand ha a.height hv

theorem output (hv : v.Loose H) : Keeps J (v.output a) := by
  have hm := materialize ha hv
  cases v with
  | str s => exact .pure trivial
  | _ => exact hm.bind fun _ _ => .pure trivial

/-! ### Items and entries -/

omit ha in
theorem items (hv : v.Loose H) : Ensures J (fun xs => ∀ x ∈ xs, x.Whole H) v.items := by
  have hstrs : ∀ ss : List String, ∀ x ∈ ss.map Value.str, x.Whole H := fun ss x hx => by
    obtain ⟨s, -, rfl⟩ := List.mem_map.1 hx
    exact .str s
  cases v with
  | list items => exact .pure (Value.whole_list.1 (hv.whole rfl))
  | map entries => exact .pure (Value.map_str_keys entries ▸ hstrs _)
  | lazy place keys => exact .pure (hstrs keys)
  | str s =>
    refine .pure fun x hx => ?_
    obtain ⟨c, -, rfl⟩ := List.mem_map.1 hx
    exact .str _
  | _ => exact .throw _

/-- The value of a key, undefined at the top if the mapping does not have it. -/
theorem lookup (hv : v.Whole H) (key : String) : Ensures J (Loose H) (v.lookup a key) := by
  cases hv with
  | map h => exact .pure (Value.loose_getD (fun w hw => Value.whole_find? h hw) key)
  | handle h => exact (ha.entry key h).imp fun _ hw => hw.1
  | _ => exact .pure (Value.loose_undefined key)

/-- The value of a key that the mapping has. -/
theorem lookup_key (hv : v.Whole H) {key : String} (hkey : key ∈ v.keyNames) :
    Ensures J (Whole H) (v.lookup a key) := by
  cases hv with
  | @map entries h =>
    rcases hfind : Dict.find? entries key with _ | w
    · exact absurd hkey (Dict.find?_eq_none_iff.1 hfind)
    · rw [Value.lookup, hfind]
      exact .pure (Value.whole_find? h hfind)
  | handle h => exact (ha.entry key h).imp fun _ hw => hw.2 hkey
  | _ => exact absurd hkey List.not_mem_nil

omit ha in
/-- Whatever is made of the keys of a mapping, one after the other. -/
theorem mapKeys {Q : Value → Prop} {f : Value → Read Value}
    (hf : ∀ key ∈ v.keyNames, Ensures J Q (f (.str key))) :
    Ensures J (fun xs => ∀ x ∈ xs, Q x) ((v.keyNames.map .str).mapM f) := by
  refine mapM fun x hx => ?_
  obtain ⟨key, hkey, rfl⟩ := List.mem_map.1 hx
  exact hf key hkey

theorem pairs (hv : v.Whole H) (hm : v.isMapping = true) :
    Ensures J (fun xs => ∀ x ∈ xs, x.Whole H) (v.pairs a) := by
  rw [Value.pairs, Value.items_of_isMapping hm, pure_bind]
  refine mapKeys fun key hkey => (lookup_key ha hv hkey).bind fun w hw => .pure (.list ?_)
  exact List.forall_mem_cons.2 ⟨.str key, List.forall_mem_singleton.2 hw⟩

end Ensures
end MailMerge
