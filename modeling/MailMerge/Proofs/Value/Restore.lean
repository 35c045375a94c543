/-
# Written values read back

A value of constants, integers, texts, lists and mappings is written in a form that denotes
that value again, at any depth (`Value.restores`).  Two things do not come back:
floating-point numbers, whose digits are not treated here, and the least integer, whose
magnitude fits no integer.
-/

import MailMerge.Proofs.Evaluation.Parallel
import MailMerge.Proofs.Value.Literal

namespace MailMerge
namespace Value

/-- Whether a value on its own comes back: floating-point numbers are left out, and the
magnitude of the least integer is too large. -/
def comesBack : Value → Bool
  | int n => n != Int64.minValue
  | float _ => false
  | undefined _ => false
  | lazy _ _ => false
  | _ => true

/-- Built of constants, texts, integers but the least, lists and mappings. -/
def Restorable (v : Value) : Prop := v.every comesBack = true

instance (v : Value) : Decidable v.Restorable := inferInstanceAs (Decidable (_ = _))

@[simp] theorem restorable_list {items : List Value} :
    Restorable (list items) ↔ ∀ v ∈ items, v.Restorable := by
  simp [Restorable, every, comesBack, everyItem_iff]

@[simp] theorem restorable_map {entries : List (String × Value)} :
    Restorable (map entries) ↔ ∀ e ∈ entries, e.2.Restorable := by
  simp only [Restorable, every, comesBack, everyEntry_iff, Bool.true_and]

theorem Restorable.ne_minValue {n : Int64} (h : (int n).Restorable) : n ≠ Int64.minValue := by
  simpa [Restorable, every, comesBack] using h

theorem Restorable.solid {v : Value} : v.Restorable → v.Solid := by
  induction v using Value.induction with
  | list items ih => exact fun h => solid_list.2 fun v hv => ih v hv (restorable_list.1 h v hv)
  | map entries ih => exact fun h => solid_map.2 fun e he => ih e he (restorable_map.1 h e he)
  | undefined => exact fun h => by cases h
  | lazy => exact fun h => by cases h
  | _ => exact fun _ => rfl

namespace Literal

theorem writeItems_eq_map (vs : List Value) : writeItems vs = vs.map repr := by
  induction vs with
  | nil => rfl
  | cons v vs ih => rw [writeItems, ih, List.map_cons, repr]

theorem map_writeEntries (es : List (String × Value)) :
    (writeEntries es).map String.toList = es.map entryText := by
  induction es with
  | nil => rfl
  | cons e es ih =>
    obtain ⟨k, v⟩ := e
    rw [writeEntries, List.map_cons, ih, List.map_cons, entryText, String.toList_append,
      String.toList_append, List.append_assoc]
    rfl

/-- A list is its items between brackets. -/
theorem repr_list (vs : List Value) : (list vs).repr.toList =
    '[' :: (List.intercalate [',', ' '] (vs.map fun v => v.repr.toList) ++ [']']) := by
  rw [repr, write, String.toList_append, String.toList_append, toList_joinStrings,
    writeItems_eq_map, List.map_map]
  rfl

/-- A mapping is its entries between braces. -/
theorem repr_map (es : List (String × Value)) : (map es).repr.toList =
    '\x7b' :: (List.intercalate [',', ' '] (es.map entryText) ++ ['\x7d']) := by
  rw [repr, write, String.toList_append, String.toList_append, toList_joinStrings,
    map_writeEntries]
  rfl

theorem opens_repr {v : Value} (hv : v.Restorable) : Opens v.repr.toList := by
  cases v with
  | str s => exact opens_quoteText s
  | int n => exact opens_int n
  | bool b => cases b <;> exact ⟨_, _, rfl, rfl⟩
  | list vs => exact ⟨_, _, repr_list vs, rfl⟩
  | map es => exact ⟨_, _, repr_map es, rfl⟩
  | null => exact ⟨_, _, rfl, rfl⟩
  | _ => cases hv

/-- **Every value is read back from what is written of it,** in front of what may follow. -/
theorem value?_repr {v : Value} {fuel : Nat} {rest : List Char} (hv : v.Restorable)
    (ho : v.InOrder) (hrest : Closes rest) (hfuel : v.repr.toList.length < fuel) :
    value? fuel (v.repr.toList ++ rest) = some (v, rest) := by
  induction v using Value.induction generalizing fuel rest with
  | str s =>
    obtain ⟨fuel, rfl⟩ := Nat.exists_eq_add_one.2 (Nat.zero_lt_of_lt hfuel)
    exact value?_quoteText fuel s rest
  | int n =>
    have hpos := List.length_pos_iff.2 (opens_repr hv).ne_nil
    obtain ⟨fuel, rfl⟩ := Nat.exists_eq_add_of_le' (show 2 ≤ fuel by omega)
    exact value?_int hv.ne_minValue hrest
  | bool b =>
    obtain ⟨fuel, rfl⟩ := Nat.exists_eq_add_one.2 (Nat.zero_lt_of_lt hfuel)
    exact value?_bool b hrest
  | null =>
    obtain ⟨fuel, rfl⟩ := Nat.exists_eq_add_one.2 (Nat.zero_lt_of_lt hfuel)
    exact value?_null hrest
  | list vs ih =>
    obtain ⟨fuel, rfl⟩ := Nat.exists_eq_add_one.2 (Nat.zero_lt_of_lt hfuel)
    rw [restorable_list] at hv
    rw [inOrder_list] at ho
    rw [repr_list, List.length_cons, List.length_append, List.length_singleton] at hfuel
    have hparts := length_le_intercalate [',', ' '] (vs.map fun v => v.repr.toList)
      (List.forall_mem_map.2 fun v h => (opens_repr (hv v h)).ne_nil)
    rw [List.length_map] at hparts
    have htakes : ∀ v ∈ vs, Takes (value? fuel) v := by
      intro v h rest hrest
      have hpart := part_le_intercalate [',', ' ']
        (List.mem_map_of_mem (f := fun v => v.repr.toList) h)
      exact ih v h (hv v h) (ho v h) hrest (by omega)
    rw [repr_list, List.cons_append, value?_cons fuel (by decide), if_neg (by decide),
      if_pos rfl, List.append_assoc, List.singleton_append,
      items?_written (value?_blank fuel) (fun v h => opens_repr (hv v h)) htakes (by omega)]
    rfl
  | map es ih =>
    obtain ⟨fuel, rfl⟩ := Nat.exists_eq_add_one.2 (Nat.zero_lt_of_lt hfuel)
    rw [restorable_map] at hv
    rw [inOrder_map] at ho
    rw [repr_map, List.length_cons, List.length_append, List.length_singleton] at hfuel
    have hparts := length_le_intercalate [',', ' '] (es.map entryText)
      (List.forall_mem_map.2 fun e _ => by simp [entryText])
    rw [List.length_map] at hparts
    have hkeys : ∀ e ∈ es, ∀ rest,
        value? fuel ((quoteText e.1).toList ++ rest) = some (.str e.1, rest) := by
      intro e h rest
      obtain ⟨fuel, rfl⟩ := Nat.exists_eq_add_one.2 (show 0 < fuel by omega)
      exact value?_quoteText fuel e.1 rest
    have htakes : ∀ e ∈ es, Takes (value? fuel) e.2 := by
      intro e h rest hrest
      have hpart := part_le_intercalate [',', ' '] (List.mem_map_of_mem (f := entryText) h)
      have hvalue : e.2.repr.toList.length ≤ (entryText e).length := by
        rw [entryText, List.length_append, List.length_cons, List.length_cons]
        omega
      exact ih e h (hv e h) (ho.2 e h) hrest (by omega)
    rw [repr_map, List.cons_append, value?_cons fuel (by decide), if_neg (by decide),
      if_neg (by decide), if_neg (by decide), if_pos rfl, List.append_assoc,
      List.singleton_append,
      entries?_written (value?_blank fuel) [] hkeys htakes ho.1 (by omega)]
    rfl
  | _ => cases hv

/-- A text that ends as a value does, with no blank. -/
def Ends (cs : List Char) : Prop := ∃ before c, cs = before ++ [c] ∧ Text.isBlank c = false

theorem ends_repr {v : Value} (hv : v.Restorable) : Ends v.repr.toList := by
  cases v with
  | str s =>
    refine ⟨_, quoteFor s.toList, String.toList_ofList, ?_⟩
    obtain h | h := quoteFor_eq s.toList <;> rw [h] <;> rfl
  | int n =>
    -- the last character is a digit, behind a minus or not
    have hdigits : Ends (Nat.toDigits 10 n.toInt.natAbs) := by
      refine ⟨_, _, (List.dropLast_append_getLast Nat.toDigits_ne_nil).symm, ?_⟩
      exact Number.forall_isDigit (p := fun c => Text.isBlank c = false) (by decide)
        (Number.isDigit_of_mem_toDigits (List.getLast_mem _))
    obtain ⟨before, c, hcs, hc⟩ := hdigits
    have hrepr : (int n).repr.toList = _ := Number.toList_toString n
    rw [hrepr]
    split_ifs
    · exact ⟨'-' :: before, c, by rw [hcs, List.cons_append], hc⟩
    · exact ⟨before, c, hcs, hc⟩
  | bool b =>
    cases b
    · exact ⟨['F', 'a', 'l', 's'], 'e', rfl, rfl⟩
    · exact ⟨['T', 'r', 'u'], 'e', rfl, rfl⟩
  | list vs => exact ⟨'[' :: _, ']', repr_list vs, rfl⟩
  | map es => exact ⟨'\x7b' :: _, '\x7d', repr_map es, rfl⟩
  | null => exact ⟨['N', 'o', 'n'], 'e', rfl, rfl⟩
  | _ => cases hv

/-- There is no blank around what is written of a value. -/
theorem trim_repr {v : Value} (hv : v.Restorable) : Text.trim v.repr.toList = v.repr.toList := by
  have hstart : Text.trimStart v.repr.toList = v.repr.toList := by
    obtain ⟨c, rest, hcs, hc⟩ := opens_repr hv
    simp only [isOpener, Bool.and_eq_true, Bool.not_eq_true'] at hc
    rw [hcs, Text.trimStart, List.dropWhile_cons_of_neg (by simp [hc.1.1])]
  obtain ⟨before, c, hcs, hc⟩ := ends_repr hv
  rw [Text.trim, hstart, Text.trimEnd, hcs, List.reverse_append, List.reverse_singleton,
    List.singleton_append, List.dropWhile_cons_of_neg (by simp [hc]), List.reverse_cons,
    List.reverse_reverse]

end Literal

/-- **A value is the literal that is written of it.** -/
theorem ofLiteral?_repr {v : Value} (hv : v.Restorable) (ho : v.InOrder) :
    ofLiteral? v.repr = some v := by
  have hread := Literal.value?_repr hv ho Literal.closes_nil
    (Nat.lt_succ_self v.repr.toList.length)
  rw [List.append_nil] at hread
  rw [ofLiteral?, hread]
  rfl

/-- On its own a value is written as inside a list, unless it is a text. -/
theorem display_eq_repr {v : Value} (hs : ∀ s, v ≠ str s) : v.display = v.repr := by
  cases v with
  | str s => exact absurd rfl (hs s)
  | bool b => cases b <;> rfl
  | _ => rfl

/-- **A value comes back from its text in the output,** unless it is a text. -/
theorem coerce_display {v : Value} (hv : v.Restorable) (ho : v.InOrder) (hs : ∀ s, v ≠ str s)
    {source : String} (hsource : source ≠ v.display) : coerce source v.display = v := by
  rw [coerce, if_neg hsource.symm, display_eq_repr hs, Literal.trim_repr hv, String.ofList_toList]
  dsimp only
  rw [ofLiteral?_repr hv ho]

/-- There is nothing to read in a solid value. -/
theorem output_of_solid {v : Value} (h : v.Solid) (a : Access) : v.output a = pure v.display := by
  cases v with
  | str s => rfl
  | _ =>
    change (materialize a _ >>= fun w => pure w.display) = _
    rw [materialize, expand_of_solid h, pure_bind]

/-- What a value that is written and read again amounts to. -/
structure Restores (v : Value) : Prop where
  /-- Read as a literal, what is written of the value inside a list or mapping is the value. -/
  literal : ofLiteral? v.repr = some v
  /-- In the output the value has its text, whatever there is to read. -/
  output : ∀ a : Access, v.output a = pure v.display
  /-- The text that a template rendered from the value stands for it, unless it is a text
  itself or the template is that very text. -/
  coerce : (∀ s, v ≠ str s) → ∀ source ≠ v.display, Value.coerce source v.display = v

/-- **Every value comes back from its text,** but for floating-point numbers and the least
integer. -/
theorem restores {v : Value} (hv : v.Restorable) (ho : v.InOrder) : v.Restores where
  literal := ofLiteral?_repr hv ho
  output a := output_of_solid hv.solid a
  coerce hs _ hsource := coerce_display hv ho hs hsource

/-- A mapping with quotes, line breaks and backslashes in keys and texts, with numbers at both
ends of their range, and with empty lists and mappings inside. -/
def nested : Value :=
  map [("", list [list [], map [], null]), ("it's", str "a \"b\" isn't\n\\\t\r"),
    ("\x7d'", map [("\"", bool false), ("'", str "yes")]),
    ("ключ", list [int Int64.maxValue, int (-9223372036854775807), int 0, bool true])]

theorem restores_nested : nested.Restorable ∧ nested.InOrder ∧ nested.Restores := by
  have hv : nested.Restorable := by decide
  have ho : nested.InOrder := by decide
  exact ⟨hv, ho, restores hv ho⟩

/-- The least integer does not come back. -/
example : (ofLiteral? (int Int64.minValue).repr).isNone = true := by decide

end Value
end MailMerge
