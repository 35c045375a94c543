/-
# Equality of values

Equality is symmetric (`Value.beq_comm`), and looks at lists and mappings item by item.  Handles
are equal by their places alone, so it is not equality of what they stand for.
`Value.SameHandles` says that two values have their handles at corresponding positions, on the
same variables; values that are equal do (`Value.SameHandles.of_beq`).
-/

import MailMerge.Proofs.Evaluation.Related

namespace MailMerge

theorem Dict.related_iff {α β : Type} {R : α → β → Prop} {d : Dict α} {e : Dict β} :
    Dict.Related R d e ↔ List.Forall₂ (fun p q => p.1 = q.1 ∧ R p.2 q.2) d e := by
  constructor
  · intro h
    induction h with
    | nil => exact .nil
    | cons hx _ ih => exact .cons ⟨rfl, hx⟩ ih
  · intro h
    induction h with
    | nil => exact .nil
    | @cons p q _ _ hpq _ ih =>
      obtain ⟨k, x⟩ := p
      obtain ⟨l, y⟩ := q
      obtain ⟨rfl, hx⟩ : k = l ∧ R x y := hpq
      exact .cons hx ih

namespace Number

open Float.Model (UnpackedFloat)

theorem compare_unpacked_swap (x y : UnpackedFloat) :
    y.compare x = (x.compare y).map Ordering.swap := by
  cases x with
  | notANumber => cases y <;> rfl
  | infinity s =>
    cases y with
    | infinity t => cases s <;> cases t <;> rfl
    | _ => cases s <;> rfl
  | zero s =>
    cases y with
    | infinity t => cases t <;> rfl
    | finite t n f hn => cases t <;> rfl
    | _ => rfl
  | finite s m e hm =>
    cases y with
    | infinity t => cases s <;> cases t <;> rfl
    | finite t n f hn =>
      have hswap : (compare f e).then (compare n m) =
          ((compare e f).then (compare m n)).swap := by
        rw [Ordering.swap_then, ← Std.OrientedCmp.eq_swap, ← Std.OrientedCmp.eq_swap]
      cases s <;> cases t
      · exact congrArg (fun o => some o.swap) hswap
      · rfl
      · rfl
      · exact congrArg some hswap
    | _ => cases s <;> rfl

theorem beq_float_comm (x y : Float) : (x == y) = (y == x) := by
  change (UnpackedFloat.compare _ _ == some .eq) = (UnpackedFloat.compare _ _ == some .eq)
  rw [compare_unpacked_swap]
  rcases UnpackedFloat.compare _ _ with _ | (_ | _ | _) <;> rfl

end Number

namespace Value

/-- Two values have their handles at corresponding positions, on the same variables. -/
inductive SameHandles : Value → Value → Prop
  | atHand {v w : Value} : v.AtHand → w.AtHand → SameHandles v w
  | handle (place keys keys' : List String) : SameHandles (.lazy place keys) (.lazy place keys')
  | list {vs ws : List Value} : List.Forall₂ SameHandles vs ws → SameHandles (.list vs) (.list ws)
  | map {vs ws : Dict Value} : Dict.Related SameHandles vs ws → SameHandles (.map vs) (.map ws)

theorem beqLists_iff {vs ws : List Value} :
    beqLists vs ws = true ↔ List.Forall₂ (fun v w => beq v w = true) vs ws := by
  induction vs generalizing ws with
  | nil => cases ws <;> simp [beqLists]
  | cons v vs ih => cases ws <;> simp [beqLists, ih]

theorem beqEntries_iff {vs ws : Dict Value} :
    beqEntries vs ws = true ↔
      List.Forall₂ (fun e d => e.1 = d.1 ∧ beq e.2 d.2 = true) vs ws := by
  induction vs generalizing ws with
  | nil => cases ws <;> simp [beqEntries]
  | cons e vs ih => cases ws <;> simp [beqEntries, ih]

/-- **Equality is symmetric.** -/
theorem beq_comm (v w : Value) : beq v w = beq w v := by
  induction v using Value.induction generalizing w with
  | list vs ih =>
    cases w with
    | list ws =>
      change beqLists vs ws = beqLists ws vs
      induction vs generalizing ws with
      | nil => cases ws <;> rfl
      | cons v vs ihr =>
        cases ws with
        | nil => rfl
        | cons w ws =>
          rw [beqLists, beqLists, ih v List.mem_cons_self,
            ihr fun v hv => ih v (List.mem_cons_of_mem _ hv)]
    | _ => rfl
  | map vs ih =>
    cases w with
    | map ws =>
      change beqEntries vs ws = beqEntries ws vs
      induction vs generalizing ws with
      | nil => cases ws <;> rfl
      | cons e vs ihr =>
        cases ws with
        | nil => rfl
        | cons d ws =>
          rw [beqEntries, beqEntries, ih e List.mem_cons_self, Bool.beq_comm,
            ihr fun e he => ih e (List.mem_cons_of_mem _ he)]
    | _ => rfl
  | float x =>
    cases w with
    | int n => exact Number.beq_float_comm _ _
    | float y => exact Number.beq_float_comm _ _
    | _ => rfl
  | int n =>
    cases w with
    | int k => exact Bool.beq_comm
    | float y => exact Number.beq_float_comm _ _
    | _ => rfl
  | _ =>
    cases w with
    | str | bool | undefined | lazy => first | rfl | exact Bool.beq_comm
    | _ => rfl

/-- Values that are equal have the same handles. -/
theorem SameHandles.of_beq {v w : Value} (h : beq v w = true) : SameHandles v w := by
  induction v using Value.induction generalizing w with
  | list vs ih =>
    cases w with
    | list ws =>
      have hitems := (List.forall₂_and_left _ _).2 ⟨fun v hv w => @ih v hv w, beqLists_iff.1 h⟩
      exact .list (hitems.imp fun v w ⟨ihv, hvw⟩ => ihv w hvw)
    | _ => cases h
  | map vs ih =>
    cases w with
    | map ws =>
      have hentries := (List.forall₂_and_left _ _).2
        ⟨fun e he w => @ih e he w, beqEntries_iff.1 h⟩
      exact .map (Dict.related_iff.2 (hentries.imp fun e d ⟨ihe, hkey, hed⟩ =>
        ⟨hkey, ihe d.2 hed⟩))
    | _ => cases h
  | lazy place keys =>
    cases w with
    | lazy place' keys' =>
      obtain rfl : place = place' := by simpa [beq] using h
      exact .handle place keys keys'
    | _ => cases h
  | _ =>
    cases w with
    | list | map | lazy => cases h
    | _ => exact .atHand rfl rfl

end Value
end MailMerge
