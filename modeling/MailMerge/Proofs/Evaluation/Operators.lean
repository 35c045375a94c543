/-
# Operators in parallel

Operators take related operands to related results, and fail with the same errors.
The kinds of the operands decide which rule applies, and related operands are of one
kind.  Membership is the exception: it compares without looking behind handles, so it
runs in step only where related values are equal.
-/

import MailMerge.Evaluation.Operator
import MailMerge.Proofs.Evaluation.Parallel

namespace MailMerge
namespace Parallel

open Operator

variable {B : Bridge} {n : Nat} {l l' r r' v w : Value}

theorem exactInteger (z : Int) :
    Parallel B (Value.Related B n) (fun _ => Operator.exact z) (fun _ => Operator.exact z) := by
  unfold Operator.exact
  cases Number.fit? z with
  | some k => exact .pure (.int k)
  | none => exact .throw (B.fault_of_isOwn rfl)

/-- A text is repeated as it is on both sides, or both break down. -/
theorem repetition (s : String) (times : Nat) : Parallel B (Value.Related B n)
    (fun _ => Operator.repetition s times) (fun _ => Operator.repetition s times) := by
  unfold Operator.repetition
  split
  · exact .pure (.str _)
  · next hmost => exact .throw (B.fault_of_isOwn (decide_eq_true (Nat.not_le.1 hmost)))

/-- Operations on doubles depend on numbers and kinds alone. -/
theorem onFloats (operation : String) (f : Float → Float → Float)
    (hl : Value.Related B n l l') (hr : Value.Related B n r r') :
    Parallel B (Value.Related B n) (fun _ => Operator.onFloats operation f l r)
      (fun _ => Operator.onFloats operation f l' r') := by
  unfold Operator.onFloats unsupported
  rw [hl.float?_eq, hr.float?_eq, hl.kind_eq, hr.kind_eq]
  split
  · exact .pure (.float _)
  · exact .throw (B.fault_of_isOwn rfl)

theorem isZero_eq (h : Value.Related B n v w) : isZero v = isZero w := by
  rw [isZero, isZero, h.float?_eq]

section Arithmetic

variable (hl : Value.Related B n l l') (hr : Value.Related B n r r')
include hl hr

theorem add : Parallel B (Value.Related B n) (fun _ => Operator.add l r)
    (fun _ => Operator.add l' r') := by
  have hf := onFloats "+" (· + ·) hl hr
  cases hl with
  | int a =>
    cases hr with
    | int b => exact exactInteger _
    | _ => exact hf
  | str s =>
    cases hr with
    | str t => exact .pure (.str _)
    | _ => exact hf
  | list hx =>
    cases hr with
    | list hy => exact .pure (.list (List.rel_append hx hy))
    | _ => exact hf
  | _ => cases hr <;> exact hf

theorem sub : Parallel B (Value.Related B n) (fun _ => Operator.sub l r)
    (fun _ => Operator.sub l' r') := by
  have hf := onFloats "-" (· - ·) hl hr
  cases hl with
  | int a =>
    cases hr with
    | int b => exact exactInteger _
    | _ => exact hf
  | _ => cases hr <;> exact hf

theorem mul : Parallel B (Value.Related B n) (fun _ => Operator.mul l r)
    (fun _ => Operator.mul l' r') := by
  have hf := onFloats "*" (· * ·) hl hr
  cases hl with
  | int a =>
    cases hr with
    | int b => exact exactInteger _
    | str t => exact repetition t _
    | _ => exact hf
  | str s =>
    cases hr with
    | int b => exact repetition s _
    | _ => exact hf
  | _ => cases hr <;> exact hf

theorem div : Parallel B (Value.Related B n) (fun _ => Operator.div l r)
    (fun _ => Operator.div l' r') := by
  unfold Operator.div
  rw [isZero_eq hr]
  split
  · exact .throw (B.fault_of_isOwn rfl)
  · exact onFloats _ _ hl hr

/-- A quotient or remainder of values that are not both integers. -/
theorem byNonzero (operation : String) (f : Float → Float → Float) {e : RenderError}
    (he : e.isOwn = true) :
    Parallel B (Value.Related B n)
      (fun _ => if isZero r then throw e else Operator.onFloats operation f l r)
      (fun _ => if isZero r' then throw e else Operator.onFloats operation f l' r') := by
  rw [isZero_eq hr]
  split
  · exact .throw (B.fault_of_isOwn he)
  · exact onFloats _ _ hl hr

theorem floorDiv : Parallel B (Value.Related B n) (fun _ => Operator.floorDiv l r)
    (fun _ => Operator.floorDiv l' r') := by
  have hf := byNonzero hl hr "//" (fun x y => (x / y).floor) (e := .invalid .divisionByZero) rfl
  cases hl with
  | int a =>
    cases hr with
    | int b =>
      unfold Operator.floorDiv
      dsimp only
      split
      · exact .throw (B.fault_of_isOwn rfl)
      · split
        · exact .pure (.int _)
        · exact .throw (B.fault_of_isOwn rfl)
    | _ => exact hf
  | _ => cases hr <;> exact hf

theorem mod : Parallel B (Value.Related B n) (fun _ => Operator.mod l r)
    (fun _ => Operator.mod l' r') := by
  have hf := byNonzero hl hr "%" Number.floorModFloat (e := .invalid .moduloByZero) rfl
  cases hl with
  | int a =>
    cases hr with
    | int b =>
      unfold Operator.mod
      dsimp only
      split
      · exact .throw (B.fault_of_isOwn rfl)
      · exact .pure (.int _)
    | _ => exact hf
  | _ => cases hr <;> exact hf

theorem ordering : Parallel B Eq (fun _ => Operator.ordering l r)
    (fun _ => Operator.ordering l' r') := by
  unfold Operator.ordering
  rw [hl.compare_eq hr, hl.kind_eq, hr.kind_eq]
  split
  · exact .pure rfl
  · exact .throw (B.fault_of_isOwn rfl)

/-- Where related values are equal, membership is the same question on both sides. -/
theorem contains (hB : B.Exact) : Parallel B Eq (fun _ => Operator.contains l r)
    (fun _ => Operator.contains l' r') := by
  obtain rfl := hl.eq_of_exact hB
  obtain rfl := hr.eq_of_exact hB
  unfold Operator.contains
  split <;> first | exact .pure rfl | exact .throw (B.fault_of_isOwn rfl)

end Arithmetic

section Apply

variable (hl : Value.Related B B.left l l') (hr : Value.Related B B.left r r')
include hl hr

theorem equal : Parallel B Eq (fun a => Operator.equal a l r)
    (fun a => Operator.equal a l' r') :=
  (materialize hl).bind fun x x' hx => (materialize hr).bind fun y y' hy =>
    .pure (by rw [hx.1, hy.1])

/-- **Operators run in step**, membership where related values are equal. -/
theorem apply {op : BinaryOp} (hop : B.Exact ∨ (op ≠ .isIn ∧ op ≠ .notIn)) :
    Parallel B (Value.Related B B.left) (fun a => Operator.apply a op l r)
      (fun a => Operator.apply a op l' r') := by
  have hord := ordering hl hr
  have hcompare : ∀ f : Ordering → Bool, Parallel B (Value.Related B B.left)
      (fun _ => do return .bool (f (← Operator.ordering l r)))
      (fun _ => do return .bool (f (← Operator.ordering l' r'))) := fun f =>
    hord.bind fun o o' ho => .pure (ho ▸ .bool (f o))
  cases op with
  | eq => exact (equal hl hr).bind fun b b' hb => .pure (hb ▸ .bool b)
  | ne => exact (equal hl hr).bind fun b b' hb => .pure (hb ▸ .bool (!b))
  | lt => exact hcompare (· == .lt)
  | le => exact hcompare (· != .gt)
  | gt => exact hcompare (· == .gt)
  | ge => exact hcompare (· != .lt)
  | isIn =>
    have hB := hop.resolve_right fun h => h.1 rfl
    exact (contains hr hl hB).bind fun b b' hb => .pure (hb ▸ .bool b)
  | notIn =>
    have hB := hop.resolve_right fun h => h.2 rfl
    exact (contains hr hl hB).bind fun b b' hb => .pure (hb ▸ .bool (!b))
  | add => exact add hl hr
  | sub => exact sub hl hr
  | mul => exact mul hl hr
  | div => exact div hl hr
  | floorDiv => exact floorDiv hl hr
  | mod => exact mod hl hr
  | concat =>
    exact (output hl).bind fun s s' hs => (output hr).bind fun t t' ht =>
      .pure (hs ▸ ht ▸ .str (s ++ t))

end Apply

theorem negate (h : Value.Related B n v w) : Parallel B (Value.Related B n)
    (fun _ => Operator.negate v) (fun _ => Operator.negate w) := by
  cases h with
  | int k => exact exactInteger _
  | float x => exact .pure (.float _)
  | _ => exact .throw (B.fault_of_isOwn rfl)

theorem affirm (h : Value.Related B n v w) : Parallel B (Value.Related B n)
    (fun _ => Operator.affirm v) (fun _ => Operator.affirm w) := by
  unfold Operator.affirm
  rw [h.isNumber_eq, h.kind_eq]
  split
  · exact .pure h
  · exact .throw (B.fault_of_isOwn rfl)

/-- Related lists have related items in each position. -/
theorem getElem?_rel {xs ys : List Value} (h : Value.RelatedLists B n xs ys) (i : Nat) :
    Option.Rel (Value.Related B n) xs[i]? ys[i]? := by
  induction h generalizing i with
  | nil => exact .none
  | cons hx _ ih =>
    cases i with
    | zero => exact .some hx
    | succ i => exact ih i

/-- Subscripts of related lists give related items. -/
theorem position_rel {xs ys : List Value} (h : Value.RelatedLists B n xs ys) (i : Int64) :
    Option.Rel (Value.Related B n) ((position? xs.length i).bind (xs[·]?))
      ((position? ys.length i).bind (ys[·]?)) := by
  rw [h.length_eq]
  cases position? ys.length i with
  | none => exact .none
  | some j => exact getElem?_rel h j

theorem index (hv : Value.Related B n v w) (hs : Value.Related B n l r) :
    Parallel B (Value.Related B n) (fun a => Operator.index a v l)
      (fun a => Operator.index a w r) := by
  have hlookup := lookup hv
  cases hv with
  | @list xs ys h =>
    cases hs with
    | int i => exact .pure (related_getD (position_rel h i) (.undefined _))
    | str s =>
      unfold Operator.index
      dsimp only
      split
      · rename_i j _
        exact ofOption (fun _ _ hx => .pure hx) (.throw (B.fault_of_isOwn rfl)) (getElem?_rel h j)
      · exact .throw (B.fault_of_isOwn rfl)
    | _ => exact .throw (B.fault_of_isOwn rfl)
  | map h =>
    cases hs with
    | str s => exact hlookup s
    | _ => exact .throw (B.fault_of_isOwn rfl)
  | handle h =>
    cases hs with
    | str s => exact hlookup s
    | _ => exact .throw (B.fault_of_isOwn rfl)
  | opened h =>
    cases hs with
    | str s => exact hlookup s
    | _ => exact .throw (B.fault_of_isOwn rfl)
  | str s =>
    cases hs with
    | int i => exact .pure (related_getD (position_rel (relatedLists_chars s) i) (.undefined _))
    | _ => exact .throw (B.fault_of_isOwn rfl)
  | _ => cases hs <;> exact .throw (B.fault_of_isOwn rfl)

end Parallel
end MailMerge
