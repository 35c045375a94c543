/-
# Values on two sides

Two evaluations of one template are compared through a relation of their values.  It
is equality but for handles on variables: a bridge says which handles both sides may
hold (`same`), and which handles of the left side stand for which mapping at hand on
the right side (`flat`).  Either condition comes with a height, which bounds how many
lazy mappings lie one inside the other below the handle.

Whatever does not read variables cannot tell related values apart: kind, truth, size,
number and order agree.
-/

import MailMerge.Evaluation.Operator
import MailMerge.Proofs.Value.Inside
import Mathlib.Data.List.Forall2
import Mathlib.Data.Option.Basic

namespace MailMerge

namespace Dict

/-- Two dictionaries with the same keys and related values. -/
inductive Related {α β : Type} (R : α → β → Prop) : Dict α → Dict β → Prop
  | nil : Related R [] []
  | cons {k : String} {x : α} {y : β} {d : Dict α} {e : Dict β} :
    R x y → Related R d e → Related R ((k, x) :: d) ((k, y) :: e)

namespace Related

variable {α β : Type} {R : α → β → Prop} {d : Dict α} {e : Dict β}

theorem keys_eq (h : Related R d e) : keys d = keys e := by
  induction h with
  | nil => rfl
  | cons _ _ ih => exact congrArg₂ _ rfl ih

theorem length_eq (h : Related R d e) : d.length = e.length := by
  simpa [keys] using congrArg List.length h.keys_eq

theorem isEmpty_eq (h : Related R d e) : d.isEmpty = e.isEmpty := by
  cases h <;> rfl

theorem find? (h : Related R d e) (key : String) :
    Option.Rel R (Dict.find? d key) (Dict.find? e key) := by
  induction h with
  | nil => exact .none
  | cons hx _ ih =>
    rw [find?_cons, find?_cons]
    split_ifs
    · exact .some hx
    · exact ih

theorem insert (h : Related R d e) (key : String) {x : α} {y : β} (hx : R x y) :
    Related R (Dict.insert key x d) (Dict.insert key y e) := by
  induction h with
  | nil => exact .cons hx .nil
  | cons hz hd ih =>
    rw [Dict.insert, Dict.insert]
    split_ifs
    · exact .cons hx (.cons hz hd)
    · exact .cons hx hd
    · exact .cons hz ih

theorem refl {R : α → α → Prop} {d : Dict α} (h : ∀ p ∈ d, R p.2 p.2) : Related R d d := by
  induction d with
  | nil => exact .nil
  | cons p d ih =>
    exact .cons (h p List.mem_cons_self) (ih fun q hq => h q (List.mem_cons_of_mem _ hq))

end Related
end Dict

namespace RenderError

/-- An error that evaluation raises by itself, rather than a variable it reads or the limit
on their nesting.  It breaks down over copies that have too many bytes, and over no others. -/
def isOwn : RenderError → Bool
  | cyclic _ => false
  | inVariable _ _ => false
  | invalid .tooDeep => false
  | crash bytes times => decide (Operator.mostBytes < bytes * times)
  | _ => true

theorem rootCause_of_isOwn {e : RenderError} (h : e.isOwn = true) : e.rootCause = e := by
  cases e <;> first | rfl | cases h

/-- If it is a breakdown, it is one over copies that have too many bytes. -/
def Justified (e : RenderError) : Prop :=
  ∀ bytes times, e.rootCause = .crash bytes times → Operator.mostBytes < bytes * times

theorem justified_of_isOwn {e : RenderError} (h : e.isOwn = true) : e.Justified := by
  intro bytes times hcrash
  rw [rootCause_of_isOwn h] at hcrash
  rw [hcrash] at h
  exact of_decide_eq_true h

end RenderError

/-- What two evaluations that run in parallel may hold: handles on both sides, handles on the
left for mappings on the right, and errors.  `left` and `right` are the heights that the two
sides start from. -/
structure Bridge where
  same : Nat → List String → List String → Prop
  flat : Nat → List String → List String → Dict Value → Prop
  fault : RenderError → Prop
  left : Nat
  right : Nat
  same_succ : ∀ {n place keys}, same n place keys → same (n + 1) place keys
  flat_succ : ∀ {n place keys entries}, flat n place keys entries → flat (n + 1) place keys entries
  even : ∀ {n place keys}, same n place keys → left = right
  same_zero : ∀ {place keys}, same 0 place keys → fault (.invalid .tooDeep)
  flat_zero : ∀ {place keys entries}, ¬ flat 0 place keys entries
  flat_keys : ∀ {n place keys entries}, flat n place keys entries → Dict.keys entries = keys
  flat_ordered : ∀ {n place keys entries}, flat n place keys entries → Dict.Ordered entries
  flat_solid : ∀ {n place keys entries}, flat n place keys entries → (Value.map entries).Solid
  fault_of_isOwn : ∀ {e : RenderError}, e.isOwn = true → fault e

/-- No handle stands for a mapping at hand. -/
def Bridge.Exact (B : Bridge) : Prop := ∀ n place keys entries, ¬ B.flat n place keys entries

/-- A bridge between two sides that hold the same handles. -/
def Bridge.level (same : Nat → List String → List String → Prop) (fault : RenderError → Prop)
    (height : Nat)
    (same_succ : ∀ {n place keys}, same n place keys → same (n + 1) place keys)
    (same_zero : ∀ {place keys}, same 0 place keys → fault (.invalid .tooDeep))
    (fault_of_isOwn : ∀ {e : RenderError}, e.isOwn = true → fault e) : Bridge where
  same := same
  flat _ _ _ _ := False
  fault := fault
  left := height
  right := height
  same_succ := same_succ
  flat_succ h := h
  even _ := rfl
  same_zero := same_zero
  flat_zero h := h
  flat_keys h := h.elim
  flat_ordered h := h.elim
  flat_solid h := h.elim
  fault_of_isOwn := fault_of_isOwn

/-- The bridge on which everything is related to itself. -/
def Bridge.all (height : Nat) : Bridge :=
  .level (fun _ _ _ => True) (fun _ => True) height id (fun _ => trivial) fun _ => trivial

theorem Bridge.all_exact (height : Nat) : (Bridge.all height).Exact := fun _ _ _ _ h => h

namespace Value

/-- Two values that a bridge relates, with handles up to a height. -/
inductive Related (B : Bridge) (n : Nat) : Value → Value → Prop
  | str (s : String) : Related B n (.str s) (.str s)
  | int (k : Int64) : Related B n (.int k) (.int k)
  | float (x : Float) : Related B n (.float x) (.float x)
  | bool (b : Bool) : Related B n (.bool b) (.bool b)
  | list {xs ys : List Value} :
    List.Forall₂ (Related B n) xs ys → Related B n (.list xs) (.list ys)
  | map {xs ys : Dict Value} :
    Dict.Related (Related B n) xs ys → Related B n (.map xs) (.map ys)
  | null : Related B n .null .null
  | undefined (s : String) : Related B n (.undefined s) (.undefined s)
  | handle {place keys : List String} :
    B.same n place keys → Related B n (.lazy place keys) (.lazy place keys)
  | opened {place keys : List String} {entries : Dict Value} :
    B.flat n place keys entries → Related B n (.lazy place keys) (.map entries)

namespace Related

variable {B : Bridge} {n : Nat} {v w v' w' : Value}

/-- A value without handles is related to itself. -/
theorem of_atHand (h : v.AtHand) : Related B n v v := by
  induction v using Value.induction with
  | list xs ih => exact .list (List.forall₂_same.2 fun x hx => ih x hx (atHand_list.1 h x hx))
  | map xs ih => exact .map (.refl fun p hp => ih p hp (atHand_map.1 h p hp))
  | lazy => exact absurd h not_atHand_lazy
  | _ => constructor

/-- **Where no handle stands for a mapping, related values are equal.** -/
theorem eq_of_exact (hB : B.Exact) (h : Related B n v w) : v = w := by
  induction v using Value.induction generalizing w with
  | list xs ih =>
    cases h with
    | list h =>
      congr 1
      induction h with
      | nil => rfl
      | cons hx _ ihl =>
        rw [ih _ List.mem_cons_self hx, ihl fun x hx => ih x (List.mem_cons_of_mem _ hx)]
  | map xs ih =>
    cases h with
    | map h =>
      congr 1
      induction h with
      | nil => rfl
      | cons hx _ ihd =>
        obtain rfl := ih _ List.mem_cons_self hx
        rw [ihd fun e he => ih e (List.mem_cons_of_mem _ he)]
  | lazy place keys =>
    cases h with
    | handle h => rfl
    | opened h => exact absurd h (hB _ _ _ _)
  | _ => cases h; rfl

theorem refl_of_same (h : ∀ place keys, B.same n place keys) : Related B n v v := by
  induction v using Value.induction with
  | list xs ih => exact .list (List.forall₂_same.2 ih)
  | map xs ih => exact .map (.refl ih)
  | lazy => exact .handle (h _ _)
  | _ => constructor

theorem refl_all {height : Nat} : Related (.all height) n v v := refl_of_same fun _ _ => trivial

theorem kind_eq (h : Related B n v w) : v.kind = w.kind := by cases h <;> rfl

theorem isUndefined_eq (h : Related B n v w) : v.isUndefined = w.isUndefined := by cases h <;> rfl

theorem isMapping_eq (h : Related B n v w) : v.isMapping = w.isMapping := by cases h <;> rfl

theorem isNumber_eq (h : Related B n v w) : v.isNumber = w.isNumber := by cases h <;> rfl

theorem float?_eq (h : Related B n v w) : v.float? = w.float? := by cases h <;> rfl

theorem truthy_eq (h : Related B n v w) : v.truthy = w.truthy := by
  cases h with
  | list h => cases h <;> rfl
  | map h => exact congrArg (!·) h.isEmpty_eq
  | @opened place keys entries h =>
    rw [truthy, truthy, ← B.flat_keys h]
    cases entries <;> rfl
  | _ => rfl

theorem size?_eq (h : Related B n v w) : v.size? = w.size? := by
  cases h with
  | list h => exact congrArg some h.length_eq
  | map h => exact congrArg some h.length_eq
  | opened h => rw [size?, size?, ← B.flat_keys h, Dict.keys, List.length_map]
  | _ => rfl

/-- **Related values compare alike.** -/
theorem compare_eq (h : Related B n v w) (h' : Related B n v' w') :
    v.compare v' = w.compare w' := by
  induction v using Value.induction generalizing w v' w' with
  | list xs ih =>
    cases h with
    | list h =>
      cases h' with
      | @list ys ys' h' =>
        rw [compare, compare]
        induction h generalizing ys ys' with
        | nil => cases h' <;> rfl
        | cons hx _ ihl =>
          cases h' with
          | nil => rfl
          | cons hy hl =>
            rw [compareLists, compareLists, ih _ List.mem_cons_self hx hy,
              ihl (fun x hx => ih x (List.mem_cons_of_mem _ hx)) hl]
      | _ => rfl
  | _ => cases h <;> cases h' <;> rfl

end Related

/-- Lists of related values. -/
abbrev RelatedLists (B : Bridge) (n : Nat) : List Value → List Value → Prop :=
  List.Forall₂ (Related B n)

theorem relatedLists_eq_of_exact {B : Bridge} {n : Nat} {xs ys : List Value} (hB : B.Exact)
    (h : RelatedLists B n xs ys) : xs = ys := by
  induction h with
  | nil => rfl
  | cons hx _ ih => rw [hx.eq_of_exact hB, ih]

end Value
end MailMerge
