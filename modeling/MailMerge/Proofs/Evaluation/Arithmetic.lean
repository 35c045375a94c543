/-
# Integer arithmetic is exact

On integers, every operator and filter of arithmetic gives the exact integer if that has 64
bits, and fails with an overflow if not (`Computes`); nothing wraps on the way.  Division goes
by the floor, so that quotient and remainder put the dividend together again and the remainder
lies between zero and the divisor.  A sum is exact as long as its totals are
(`Filters.foldlM_addTo`), since it stops at the first one that does not fit.
-/

import MailMerge.Proofs.Evaluation.Operands
import MailMerge.Proofs.Number.Division
import MailMerge.Proofs.Reading.Run

namespace MailMerge

open Number (Fits)

/-- A run ends in the integer `z` if it has 64 bits, and in an overflow if not. -/
def Computes (r : Finish Value) (z : Int) (m : Memory) : Prop :=
  (Fits z ∧ ∃ n : Int64, n.toInt = z ∧ r = .ok (.int n) m) ∨
    (¬Fits z ∧ r = .error (.invalid .integerOverflow) m)

theorem computes_exact (z : Int) (m : Memory) : Computes (Operator.exact z m) z m := by
  unfold Operator.exact
  cases hz : Number.fit? z with
  | some n =>
    rw [Number.fit?_eq_some_iff] at hz
    exact .inl ⟨hz ▸ Number.fits_toInt n, n, hz, rfl⟩
  | none => exact .inr ⟨Number.fit?_eq_none_iff.1 hz, rfl⟩

/-- What the operators of arithmetic make of two integers. -/
structure OperatesExactly (apply : BinaryOp → Finish Value) (x y : Int64) (m : Memory) :
    Prop where
  add : Computes (apply .add) (x.toInt + y.toInt) m
  sub : Computes (apply .sub) (x.toInt - y.toInt) m
  mul : Computes (apply .mul) (x.toInt * y.toInt) m
  floorDiv : y ≠ 0 → Computes (apply .floorDiv) (x.toInt.fdiv y.toInt) m
  mod : y ≠ 0 → ∃ n : Int64, n.toInt = x.toInt.fmod y.toInt ∧ apply .mod = .ok (.int n) m
  /-- Quotient and remainder put the dividend together, and the remainder lies between zero and
  the divisor. -/
  floor : x.toInt.fdiv y.toInt * y.toInt + x.toInt.fmod y.toInt = x.toInt ∧
    (0 < y.toInt → 0 ≤ x.toInt.fmod y.toInt ∧ x.toInt.fmod y.toInt < y.toInt) ∧
    (y.toInt < 0 → y.toInt < x.toInt.fmod y.toInt ∧ x.toInt.fmod y.toInt ≤ 0)
  byZero : y = 0 → apply .floorDiv = .error (.invalid .divisionByZero) m ∧
    apply .mod = .error (.invalid .moduloByZero) m
  /-- The steps of a division are exact: the rest, and both corrections. -/
  steps : (x % y).toInt = x.toInt.tmod y.toInt ∧
    (∀ q, y ≠ 0 → Number.fit? (x.toInt.tdiv y.toInt) = some q → x % y ≠ 0 →
      (q - 1).toInt = q.toInt - 1) ∧
    (Number.signsDiffer (x % y) y = true → (x % y + y).toInt = (x % y).toInt + y.toInt)

/-- The remainder of a floor division lies between zero and the divisor. -/
theorem fmod_between (x : Int) {y : Int} :
    (0 < y → 0 ≤ x.fmod y ∧ x.fmod y < y) ∧ (y < 0 → y < x.fmod y ∧ x.fmod y ≤ 0) := by
  refine ⟨fun hy => ⟨Int.fmod_nonneg_of_pos x hy, Int.fmod_lt_of_pos x hy⟩, fun hy => ?_⟩
  have hnonneg := Int.fmod_nonneg_of_pos (-x) (Int.neg_pos.2 hy)
  have hlt := Int.fmod_lt_of_pos (-x) (Int.neg_pos.2 hy)
  rw [Int.neg_fmod_neg] at hnonneg hlt
  omega

namespace Operator

variable (a : Access) (x y : Int64) (m : Memory)

theorem operatesExactly :
    OperatesExactly (fun op => apply a op (.int x) (.int y) m) x y m where
  add := computes_exact _ m
  sub := computes_exact _ m
  mul := computes_exact _ m
  floorDiv hy := by
    have hexact := computes_exact (x.toInt.fdiv y.toInt) m
    rw [exact, ← Number.floorQuotient?_eq hy] at hexact
    change Computes (floorDiv (.int x) (.int y) m) _ m
    rw [floorDiv, if_neg hy]
    exact hexact
  mod hy := by
    refine ⟨Number.floorRemainder x y, Number.toInt_floorRemainder hy, ?_⟩
    change mod (.int x) (.int y) m = _
    rw [mod, if_neg hy]
    rfl
  floor := ⟨Int.fdiv_mul_add_fmod _ _, fmod_between _⟩
  byZero hy := by
    subst hy
    exact ⟨rfl, rfl⟩
  steps := ⟨Int64.toInt_mod x y, fun _ hy hq => Number.toInt_sub_one hy
    (Number.fit?_eq_some_iff.1 hq), Number.toInt_add_divisor⟩

end Operator

namespace Filters

/-- The exact total of integers. -/
def total (start : Int64) (xs : List Int64) : Int := start.toInt + (xs.map Int64.toInt).sum

theorem total_nil (start : Int64) : total start [] = start.toInt := Int.add_zero _

theorem total_cons {start x n : Int64} (h : n.toInt = start.toInt + x.toInt) (xs : List Int64) :
    total start (x :: xs) = total n xs := by
  rw [total, total, h, List.map_cons, List.sum_cons, Int.add_assoc]

/-- **A sum is exact if all its totals fit,** and fails at the first one that does not. -/
theorem foldlM_addTo (start : Int64) (xs : List Int64) (m : Memory) :
    (∀ before, before <+: xs → Fits (total start before)) ∧ (∃ n : Int64, n.toInt = total start xs ∧
        (xs.map Value.int).foldlM addTo (.int start) m = .ok (.int n) m) ∨
      (∃ before, before <+: xs ∧ ¬Fits (total start before)) ∧
        (xs.map Value.int).foldlM addTo (.int start) m =
          .error (.invalid .integerOverflow) m := by
  induction xs generalizing start with
  | nil =>
    refine .inl ⟨fun before hbefore => ?_, start, (total_nil start).symm, rfl⟩
    rw [List.prefix_nil.1 hbefore, total_nil]
    exact Number.fits_toInt start
  | cons x xs ih =>
    have hfold : ((x :: xs).map Value.int).foldlM addTo (.int start) =
        addTo (.int start) (.int x) >>= fun v => (xs.map Value.int).foldlM addTo v :=
      List.foldlM_cons
    rw [hfold]
    rcases computes_exact (start.toInt + x.toInt) m with ⟨-, n, hn, hadd⟩ | ⟨hfits, hadd⟩
    · rw [Read.bind_of_ok (show addTo (.int start) (.int x) m = .ok (.int n) m from hadd)]
      rcases ih n with ⟨hall, k, hk, hend⟩ | ⟨⟨before, hbefore, hnot⟩, hend⟩
      · refine .inl ⟨fun before hbefore => ?_, k, hk.trans (total_cons hn xs).symm, hend⟩
        rcases List.prefix_cons_iff.1 hbefore with rfl | ⟨rest, rfl, hrest⟩
        · exact (total_nil start).symm ▸ Number.fits_toInt start
        · exact (total_cons hn rest).symm ▸ hall rest hrest
      · exact .inr ⟨⟨x :: before, (List.prefix_cons_inj x).2 hbefore,
          (total_cons hn before).symm ▸ hnot⟩, hend⟩
    · exact .inr ⟨⟨[x], ⟨xs, rfl⟩, by simpa [total] using hfits⟩, Read.bind_of_error hadd⟩

end Filters

namespace Evaluation

/-- Integer arithmetic in templates is exact or an overflow. -/
structure ExactIntegers (env : Environment) (a : Access) (scopes : Scopes) : Prop where
  binary : ∀ {l r : Expr} {x y : Int64} {m m₁ m₂ : Memory},
    eval env a scopes l m = .ok (.int x) m₁ → eval env a scopes r m₁ = .ok (.int y) m₂ →
    OperatesExactly (fun op => eval env a scopes (.binary op l r) m) x y m₂
  neg : ∀ {e : Expr} {x : Int64} {m m₁ : Memory}, eval env a scopes e m = .ok (.int x) m₁ →
    Computes (eval env a scopes (.neg e) m) (-x.toInt) m₁
  abs : ∀ {e : Expr} {x : Int64} {m m₁ : Memory}, eval env a scopes e m = .ok (.int x) m₁ →
    Computes (eval env a scopes (.filter e "abs" [] []) m) x.toInt.natAbs m₁
  /-- The start of a sum is given by position or by name, or it is zero. -/
  sum : ∀ {e : Expr} {args : List Expr} {kwargs : List (String × Expr)} {xs : List Int64}
    {start : Int64} {vs : List Value} {ks : Dict Value} {m m₁ m₂ m₃ : Memory},
    eval env a scopes e m = .ok (.list (xs.map .int)) m₁ →
    evalArgs env a scopes args m₁ = .ok vs m₂ → evalKwargs env a scopes [] kwargs m₂ = .ok ks m₃ →
    ((Filters.Arguments.param? ⟨vs, ks⟩ 0 "start").getD (.int 0)) = .int start →
    ((∀ before, before <+: xs → Fits (Filters.total start before)) →
      ∃ n : Int64, n.toInt = Filters.total start xs ∧
        eval env a scopes (.filter e "sum" args kwargs) m = .ok (.int n) m₃) ∧
    ((∃ before, before <+: xs ∧ ¬Fits (Filters.total start before)) →
      eval env a scopes (.filter e "sum" args kwargs) m =
        .error (.invalid .integerOverflow) m₃)
  overflow : (RenderError.invalid .integerOverflow).message = "integer overflow"

/-- **Integer arithmetic is exact or an overflow,** in any environment that leaves the filters
`abs` and `sum` their meaning. -/
theorem exactIntegers (env : Environment) (a : Access) (scopes : Scopes)
    (habs : env.filter? "abs" = some .abs) (hsum : env.filter? "sum" = some .sum) :
    ExactIntegers env a scopes where
  binary {l r x y m m₁ m₂} hl hr := by
    have hop : (fun op => eval env a scopes (.binary op l r) m) =
        fun op => Operator.apply a op (.int x) (.int y) m₂ :=
      funext fun op => eval_binary hl hr rfl rfl op
    rw [hop]
    exact Operator.operatesExactly a x y m₂
  neg he := by
    rw [eval_neg he rfl]
    exact computes_exact _ _
  abs he := by
    rw [eval_filter he rfl rfl habs]
    exact computes_exact _ _
  sum {e args kwargs xs start vs ks m m₁ m₂ m₃} he hargs hkwargs hstart := by
    have hrun : eval env a scopes (.filter e "sum" args kwargs) m =
        (xs.map Value.int).foldlM Filters.addTo (.int start) m₃ := by
      rw [eval_filter he hargs hkwargs hsum, ← hstart]
      rfl
    rw [hrun]
    rcases Filters.foldlM_addTo start xs m₃ with ⟨hall, n, hn, hend⟩ | ⟨hnot, hend⟩
    · refine ⟨fun _ => ⟨n, hn, hend⟩, fun ⟨before, hbefore, hnot⟩ => ?_⟩
      exact absurd (hall before hbefore) hnot
    · obtain ⟨before, hbefore, hfits⟩ := hnot
      exact ⟨fun hall => absurd (hall before hbefore) hfits, fun _ => hend⟩
  overflow := rfl

/-- Division with a rest between different signs, of the least integer by minus one, and a sum
that leaves the range in between. -/
theorem exactIntegers_edges :
    let ints := fun zs : List Int64 => Expr.list (zs.map .int)
    let run := fun e => eval {} (Reading.plain []) [[]] e {}
    Environment.filter? {} "abs" = some .abs ∧ Environment.filter? {} "sum" = some .sum ∧
    Computes (run (.binary .floorDiv (.int (-7)) (.int 2))) (-4) {} ∧
    run (.binary .mod (.int Int64.minValue) (.int (-1))) = .ok (.int 0) {} ∧
    run (.binary .floorDiv (.int Int64.minValue) (.int (-1))) =
      .error (.invalid .integerOverflow) {} ∧
    run (.filter (ints [1, -1]) "sum" [.int Int64.maxValue] []) =
      .error (.invalid .integerOverflow) {} := by
  intro ints run
  have hexact := exactIntegers {} (Reading.plain []) [[]] rfl rfl
  refine ⟨rfl, rfl, ?_, ?_, ?_, ?_⟩
  · exact (hexact.binary (l := .int (-7)) (r := .int 2) (m := {}) rfl rfl).floorDiv (by decide)
  · obtain ⟨n, hn, hrun⟩ := (hexact.binary (l := .int Int64.minValue) (r := .int (-1)) (m := {})
      rfl rfl).mod (by decide)
    obtain rfl : n = 0 := Int64.toInt_inj.1 (hn.trans (by decide))
    exact hrun
  · rcases (hexact.binary (l := .int Int64.minValue) (r := .int (-1)) (m := {})
      rfl rfl).floorDiv (by decide) with ⟨hfits, -⟩ | ⟨-, hrun⟩
    · exact absurd hfits (by decide)
    · exact hrun
  · have hlist : run (ints [1, -1]) = .ok (.list ([1, -1].map .int)) {} := rfl
    have hargs : evalArgs {} (Reading.plain []) [[]] [.int Int64.maxValue] {} =
      .ok [.int Int64.maxValue] {} := rfl
    exact (hexact.sum hlist hargs rfl rfl).2 ⟨[1], ⟨[-1], rfl⟩, by decide⟩

end Evaluation
end MailMerge
