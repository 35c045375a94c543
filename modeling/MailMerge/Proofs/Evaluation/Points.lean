/-
# Points of an evaluation

`ComesTo` follows the evaluation of an expression into its parts, however deep, each with the
memory that the parts before it have left; `Evaluates` has done so for templates, down to their
expressions.  An invariant of all computations that do nothing to the memory but ask for names
and entries (`Access.Upholds`) therefore holds at each point of a template where an expression
is evaluated, or a part of one (`Evaluation.Evaluates.upheld`, `Evaluation.ComesTo.upheld`).
-/

import MailMerge.Proofs.Undefined.Reach
import MailMerge.Proofs.Evaluation.Templates

namespace MailMerge

theorem Scopes.related_all {height : Nat} (scopes : Scopes) :
    scopes.Related (.all height) scopes :=
  List.forall₂_same.2 fun _ _ => .refl fun _ _ => .refl_all

namespace Evaluation

/-- Evaluating an expression in the memory `m` comes, in the memory `m'`, to an expression in
it. -/
inductive ComesTo (env : Environment) (a : Access) (scopes : Scopes) :
    Expr → Memory → Expr → Memory → Prop
  | here {e : Expr} {m : Memory} : ComesTo env a scopes e m e m
  | item {before after : List Expr} {e part : Expr} {m m₁ m' : Memory} {vs : List Value} :
    evalItems env a scopes before m = .ok vs m₁ → ComesTo env a scopes e m₁ part m' →
    ComesTo env a scopes (.list (before ++ e :: after)) m part m'
  | key {before after : List (Expr × Expr)} {k e part : Expr} {m m₁ m' : Memory}
    {d : Dict Value} :
    evalPairs env a scopes [] before m = .ok d m₁ → ComesTo env a scopes k m₁ part m' →
    ComesTo env a scopes (.dict (before ++ (k, e) :: after)) m part m'
  | value {before after : List (Expr × Expr)} {k e part : Expr} {m m₁ m₂ m₃ m' : Memory}
    {d : Dict Value} {v : Value} {key : String} :
    evalPairs env a scopes [] before m = .ok d m₁ → eval env a scopes k m₁ = .ok v m₂ →
    v.output a m₂ = .ok key m₃ → ComesTo env a scopes e m₃ part m' →
    ComesTo env a scopes (.dict (before ++ (k, e) :: after)) m part m'
  | attr {base part : Expr} {key : String} {m m' : Memory} :
    ComesTo env a scopes base m part m' → ComesTo env a scopes (.attr base key) m part m'
  | base {base subscript part : Expr} {m m' : Memory} :
    ComesTo env a scopes base m part m' → ComesTo env a scopes (.index base subscript) m part m'
  | subscript {base subscript part : Expr} {m m₁ m' : Memory} {v : Value} :
    eval env a scopes base m = .ok v m₁ → v.isUndefined = false →
    ComesTo env a scopes subscript m₁ part m' →
    ComesTo env a scopes (.index base subscript) m part m'
  | left {op : BinaryOp} {left right part : Expr} {m m' : Memory} :
    ComesTo env a scopes left m part m' → ComesTo env a scopes (.binary op left right) m part m'
  | right {op : BinaryOp} {left right part : Expr} {m m₁ m' : Memory} {v : Value} :
    eval env a scopes left m = .ok v m₁ → v.isUndefined = false →
    ComesTo env a scopes right m₁ part m' →
    ComesTo env a scopes (.binary op left right) m part m'
  | andLeft {left right part : Expr} {m m' : Memory} :
    ComesTo env a scopes left m part m' → ComesTo env a scopes (.and left right) m part m'
  | andRight {left right part : Expr} {m m₁ m' : Memory} {v : Value} :
    eval env a scopes left m = .ok v m₁ → v.truthy = true →
    ComesTo env a scopes right m₁ part m' → ComesTo env a scopes (.and left right) m part m'
  | orLeft {left right part : Expr} {m m' : Memory} :
    ComesTo env a scopes left m part m' → ComesTo env a scopes (.or left right) m part m'
  | orRight {left right part : Expr} {m m₁ m' : Memory} {v : Value} :
    eval env a scopes left m = .ok v m₁ → v.truthy = false →
    ComesTo env a scopes right m₁ part m' → ComesTo env a scopes (.or left right) m part m'
  | not {operand part : Expr} {m m' : Memory} :
    ComesTo env a scopes operand m part m' → ComesTo env a scopes (.not operand) m part m'
  | neg {operand part : Expr} {m m' : Memory} :
    ComesTo env a scopes operand m part m' → ComesTo env a scopes (.neg operand) m part m'
  | pos {operand part : Expr} {m m' : Memory} :
    ComesTo env a scopes operand m part m' → ComesTo env a scopes (.pos operand) m part m'
  | filtered {subject part : Expr} {label : String} {args : List Expr}
    {kwargs : List (String × Expr)} {m m' : Memory} :
    (env.filter? label).isSome = true → ComesTo env a scopes subject m part m' →
    ComesTo env a scopes (.filter subject label args kwargs) m part m'
  | filterArg {subject e part : Expr} {label : String} {before after : List Expr}
    {kwargs : List (String × Expr)} {m m₁ m₂ m' : Memory} {v : Value} {vs : List Value} :
    (env.filter? label).isSome = true → eval env a scopes subject m = .ok v m₁ →
    evalArgs env a scopes before m₁ = .ok vs m₂ → ComesTo env a scopes e m₂ part m' →
    ComesTo env a scopes (.filter subject label (before ++ e :: after) kwargs) m part m'
  | filterNamed {subject e part : Expr} {label name : String} {args : List Expr}
    {before after : List (String × Expr)} {m m₁ m₂ m₃ m' : Memory} {v : Value} {vs : List Value}
    {d : Dict Value} :
    (env.filter? label).isSome = true → eval env a scopes subject m = .ok v m₁ →
    evalArgs env a scopes args m₁ = .ok vs m₂ → evalKwargs env a scopes [] before m₂ = .ok d m₃ →
    ComesTo env a scopes e m₃ part m' →
    ComesTo env a scopes (.filter subject label args (before ++ (name, e) :: after)) m part m'
  | tested {subject part : Expr} {label : String} {args : List Expr}
    {kwargs : List (String × Expr)} {negated : Bool} {m m' : Memory} :
    (ValueTest.named? label).isSome = true → ComesTo env a scopes subject m part m' →
    ComesTo env a scopes (.test subject label args kwargs negated) m part m'
  | testArg {subject e part : Expr} {label : String} {before after : List Expr}
    {kwargs : List (String × Expr)} {negated : Bool} {m m₁ m₂ m' : Memory} {v : Value}
    {vs : List Value} :
    (ValueTest.named? label).isSome = true → eval env a scopes subject m = .ok v m₁ →
    evalArgs env a scopes before m₁ = .ok vs m₂ → ComesTo env a scopes e m₂ part m' →
    ComesTo env a scopes (.test subject label (before ++ e :: after) kwargs negated) m part m'
  | testNamed {subject e part : Expr} {label name : String} {args : List Expr}
    {before after : List (String × Expr)} {negated : Bool} {m m₁ m₂ m₃ m' : Memory} {v : Value}
    {vs : List Value} {d : Dict Value} :
    (ValueTest.named? label).isSome = true → eval env a scopes subject m = .ok v m₁ →
    evalArgs env a scopes args m₁ = .ok vs m₂ → evalKwargs env a scopes [] before m₂ = .ok d m₃ →
    ComesTo env a scopes e m₃ part m' →
    ComesTo env a scopes (.test subject label args (before ++ (name, e) :: after) negated) m part
      m'
  | condition {value condition part : Expr} {otherwise : Option Expr} {m m' : Memory} :
    ComesTo env a scopes condition m part m' →
    ComesTo env a scopes (.cond value condition otherwise) m part m'
  | chosen {value condition part : Expr} {otherwise : Option Expr} {m m₁ m' : Memory}
    {v : Value} :
    eval env a scopes condition m = .ok v m₁ → v.truthy = true →
    ComesTo env a scopes value m₁ part m' →
    ComesTo env a scopes (.cond value condition otherwise) m part m'
  | otherwise {value condition e part : Expr} {m m₁ m' : Memory} {v : Value} :
    eval env a scopes condition m = .ok v m₁ → v.truthy = false →
    ComesTo env a scopes e m₁ part m' →
    ComesTo env a scopes (.cond value condition (some e)) m part m'

end Evaluation

/-- An invariant of all computations that do no more to the memory than they can by asking for
names and entries. -/
def Access.Upholds (a : Access) (height : Nat) (J : Memory → Prop) : Prop :=
  ∀ ⦃α β : Type⦄ ⦃P : α → β → Prop⦄ ⦃f : Access → Read α⦄ ⦃g : Access → Read β⦄,
    Parallel (.all height) P f g → Keeps J (f a)

namespace Access.Upholds

variable {env : Environment} {a : Access} {height : Nat} {J : Memory → Prop} {scopes : Scopes}
  {m m' : Memory}

theorem behind (h : a.Upholds height J) {α β : Type} {P : α → β → Prop} {f : Access → Read α}
    {g : Access → Read β} (hf : Parallel (.all height) P f g) {x : α} (hm : J m)
    (hrun : f a m = .ok x m') : J m' := (h hf m x m' hm hrun).2

theorem eval (h : a.Upholds height J) {e : Expr} {v : Value} (hm : J m)
    (hrun : Evaluation.eval env a scopes e m = .ok v m') : J m' :=
  h.behind (Parallel.eval scopes.related_all (.inl (Bridge.all_exact _))) hm hrun

theorem evalItems (h : a.Upholds height J) {es : List Expr} {vs : List Value} (hm : J m)
    (hrun : Evaluation.evalItems env a scopes es m = .ok vs m') : J m' :=
  h.behind (Parallel.evalItems scopes.related_all (.inl (Bridge.all_exact _))) hm hrun

theorem evalPairs (h : a.Upholds height J) {ps : List (Expr × Expr)} {d : Dict Value} (hm : J m)
    (hrun : Evaluation.evalPairs env a scopes [] ps m = .ok d m') : J m' :=
  h.behind (Parallel.evalPairs scopes.related_all .nil (.inl (Bridge.all_exact _))) hm hrun

theorem evalArgs (h : a.Upholds height J) {es : List Expr} {vs : List Value} (hm : J m)
    (hrun : Evaluation.evalArgs env a scopes es m = .ok vs m') : J m' :=
  h.behind (Parallel.evalArgs scopes.related_all (.inl (Bridge.all_exact _))) hm hrun

theorem evalKwargs (h : a.Upholds height J) {ps : List (String × Expr)} {d : Dict Value}
    (hm : J m) (hrun : Evaluation.evalKwargs env a scopes [] ps m = .ok d m') : J m' :=
  h.behind (Parallel.evalKwargs scopes.related_all .nil (.inl (Bridge.all_exact _))) hm hrun

theorem output (h : a.Upholds height J) {v : Value} {text : String} (hm : J m)
    (hrun : v.output a m = .ok text m') : J m' :=
  h.behind (Parallel.output (B := .all height) .refl_all) hm hrun

theorem loopItems (h : a.Upholds height J) {targets : Nat} {v : Value} {items : List Value}
    (hm : J m) (hrun : Evaluation.loopItems a targets v m = .ok items m') : J m' :=
  h.behind (Parallel.loopItems (B := .all height) targets .refl_all) hm hrun

theorem bindTargets (h : a.Upholds height J) {targets : List String} {item : Value}
    {inner : Scopes} (hm : J m)
    (hrun : Evaluation.bindTargets targets item scopes m = .ok inner m') : J m' :=
  h.behind (Parallel.bindTargets (B := .all height) targets .refl_all scopes.related_all) hm hrun

theorem turns (h : a.Upholds height J) {body : List Node} {targets : List String} {n i : Nat}
    {items : List Value} {text : String} (hm : J m)
    (hrun : Evaluation.turns (Evaluation.renderNodes env a body) targets scopes n i items m =
      .ok text m') : J m' :=
  h.behind (Parallel.turns (B := .all height) scopes.related_all n
    (fun hs => Parallel.renderNodes hs (.inl (Bridge.all_exact _)))
    (List.forall₂_same.2 fun _ _ => .refl_all) i) hm hrun

theorem renderCases (h : a.Upholds height J) {cases : List (Expr × List Node)}
    {o : Option (String × Scopes)} (hm : J m)
    (hrun : Evaluation.renderCases env a cases scopes m = .ok o m') : J m' :=
  h.behind (Parallel.renderCases scopes.related_all (.inl (Bridge.all_exact _))) hm hrun

theorem renderNode (h : a.Upholds height J) {node : Node} {r : String × Scopes} (hm : J m)
    (hrun : Evaluation.renderNode env a node scopes m = .ok r m') : J m' :=
  h.behind (Parallel.renderNode scopes.related_all (.inl (Bridge.all_exact _))) hm hrun

end Access.Upholds

namespace Evaluation

variable {env : Environment} {a : Access} {height : Nat} {J : Memory → Prop} {s s' : Scopes}
  {m m' : Memory} {e part : Expr}

/-- **Invariants hold wherever the evaluation of an expression comes to.** -/
theorem ComesTo.upheld (ha : a.Upholds height J) (h : ComesTo env a s e m part m') (hm : J m) :
    J m' := by
  induction h with
  | here => exact hm
  | item hbefore _ ih => exact ih (ha.evalItems hm hbefore)
  | key hbefore _ ih => exact ih (ha.evalPairs hm hbefore)
  | value hbefore hk hkey _ ih =>
    exact ih (ha.output (ha.eval (ha.evalPairs hm hbefore) hk) hkey)
  | attr _ ih => exact ih hm
  | base _ ih => exact ih hm
  | subscript hbase _ _ ih => exact ih (ha.eval hm hbase)
  | left _ ih => exact ih hm
  | right hleft _ _ ih => exact ih (ha.eval hm hleft)
  | andLeft _ ih => exact ih hm
  | andRight hleft _ _ ih => exact ih (ha.eval hm hleft)
  | orLeft _ ih => exact ih hm
  | orRight hleft _ _ ih => exact ih (ha.eval hm hleft)
  | not _ ih => exact ih hm
  | neg _ ih => exact ih hm
  | pos _ ih => exact ih hm
  | filtered _ _ ih => exact ih hm
  | filterArg _ hsubject hbefore _ ih => exact ih (ha.evalArgs (ha.eval hm hsubject) hbefore)
  | filterNamed _ hsubject hargs hbefore _ ih =>
    exact ih (ha.evalKwargs (ha.evalArgs (ha.eval hm hsubject) hargs) hbefore)
  | tested _ _ ih => exact ih hm
  | testArg _ hsubject hbefore _ ih => exact ih (ha.evalArgs (ha.eval hm hsubject) hbefore)
  | testNamed _ hsubject hargs hbefore _ ih =>
    exact ih (ha.evalKwargs (ha.evalArgs (ha.eval hm hsubject) hargs) hbefore)
  | condition _ ih => exact ih hm
  | chosen hcondition _ _ ih => exact ih (ha.eval hm hcondition)
  | otherwise hcondition _ _ ih => exact ih (ha.eval hm hcondition)

/-- **Invariants hold wherever a template evaluates an expression.** -/
theorem Evaluates.upheld {needed : Bool} {nodes : List Node} (ha : a.Upholds height J)
    (h : Evaluates env a needed nodes s m e s' m') (hm : J m) : J m' := by
  induction h with
  | output => exact hm
  | set => exact hm
  | condition hbefore => exact ha.renderCases hm hbefore
  | case hbefore hc _ _ ih => exact ih (ha.eval (ha.renderCases hm hbefore) hc)
  | otherwise hcases _ ih => exact ih (ha.renderCases hm hcases)
  | sequence => exact hm
  | turn hsequence hitems _ hbefore hbind _ ih =>
    have hm₂ := ha.loopItems (ha.eval hm hsequence) hitems
    exact ih (ha.bindTargets (ha.turns hm₂ hbefore) hbind)
  | empty hsequence hitems _ ih => exact ih (ha.loopItems (ha.eval hm hsequence) hitems)
  | later hnode _ ih => exact ih (ha.renderNode hm hnode)

end Evaluation
end MailMerge
