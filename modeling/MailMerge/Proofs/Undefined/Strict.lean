/-
# Undefined values are refused

Most places of an expression need a defined value: an undefined one there is an error, and the
evaluation around it has no result (`Needs.fails`).  `Needs` lists these places, each with the
memory that the evaluation has come to when it gets there.  The filters are among them, all but
`default` under its two names (`Filter.fails_apply`).
-/

import MailMerge.Evaluation.Render
import MailMerge.Proofs.Undefined.Ensures

namespace MailMerge

variable {a : Access} {env : Environment} {scopes : Scopes} {m m' : Memory} {n : String}

namespace Value

theorem fails_defined : Fails (undefined n).defined m := .throw _

/-- The memory behind the question whether a value is defined is the one before. -/
theorem fails_of_defined {α : Type} {v : Value} {f : Value → Read α} (h : Fails (f v) m) :
    Fails (v.defined >>= f) m := by
  cases v with
  | undefined n => exact fails_defined.bind_left
  | _ => exact h

theorem fails_materialize : Fails ((undefined n).materialize a) m := by
  unfold materialize
  cases a.height <;> exact .throw _

theorem fails_output : Fails ((undefined n).output a) m := fails_materialize.bind_left

theorem fails_items : Fails (undefined n).items m := .throw _

end Value

open Value (fails_defined fails_output fails_items)

namespace Filter

open Filters

theorem fails_mapping : Fails (Filters.mapping (.undefined n)) m := .throw _

theorem fails_patternOf {pattern : Value} {given : Arguments} {position : Nat} :
    Fails (patternOf a (.undefined n) pattern given position) m := fails_output.bind_left

/-- **Filters refuse undefined values,** whatever their arguments are. -/
theorem fails_apply {filter : Filter} (hd : filter ≠ .default) (hp : filter ≠ .probe)
    (given : Arguments) : Fails (filter.apply a (.undefined n) given) m := by
  cases filter with
  | default => exact absurd rfl hd
  | probe => exact absurd rfl hp
  | string => exact fails_output.bind_left
  | length => exact fails_defined.bind_left
  | join => exact .bind_right fun _ _ => fails_items.bind_left
  | int => exact fails_defined.bind_left
  | float => exact fails_defined.bind_left
  | replace => exact fails_output.bind_left
  | first => exact fails_defined.bind_left
  | last => exact fails_defined.bind_left
  | abs => exact fails_defined.bind_left
  | round => exact fails_defined.bind_left
  | list => exact fails_items.bind_left
  | sort => exact fails_items.bind_left
  | reverse => exact fails_items.bind_left
  | unique => exact fails_items.bind_left
  | keys => exact fails_mapping.bind_left
  | values => exact fails_mapping.bind_left
  | items => exact fails_mapping.bind_left
  | min => exact fails_items.bind_left
  | max => exact fails_items.bind_left
  | sum => exact fails_items.bind_left
  | patternFindAll => exact .bind_right fun _ _ => fails_patternOf.bind_left
  | patternReplace => exact .bind_right fun _ _ => .bind_right fun _ _ => fails_patternOf.bind_left
  | patternSearch => exact .bind_right fun _ _ => fails_patternOf.bind_left
  | patternContains => exact .bind_right fun _ _ => fails_patternOf.bind_left
  | bool => exact fails_defined.bind_left
  | _ => exact fails_output.bind_left

/-- `default` has two names. -/
theorem eq_of_named?_default {label : String} (h : named? label = some .default) :
    label = "default" ∨ label = "d" := by
  unfold named? at h
  split at h <;> first | exact .inl rfl | exact .inr rfl | cases h

/-- No probe is built in. -/
theorem named?_ne_probe (label : String) : named? label ≠ some .probe := by
  unfold named?
  split <;> nofun

end Filter

namespace Evaluation

/-- A computation gives an undefined value from a memory. -/
def GivesUndefined (x : Read Value) (m : Memory) : Prop := ∃ n m', x m = .ok (.undefined n) m'

/-- What needs a defined value does not get one. -/
theorem GivesUndefined.fails {α : Type} {x : Read Value} {f : Value → Read α}
    (h : GivesUndefined x m) (hf : ∀ n m', Fails (f (.undefined n)) m') : Fails (x >>= f) m := by
  obtain ⟨n, m', hx⟩ := h
  exact .bind_ok hx (hf n m')

/-- Evaluating an expression in the memory `m` comes, in the memory `m'`, to a part of it whose
value must not be undefined. -/
inductive Needs (env : Environment) (a : Access) (scopes : Scopes) :
    Expr → Memory → Expr → Memory → Prop
  | attr {base : Expr} {key : String} {m : Memory} : Needs env a scopes (.attr base key) m base m
  | base {base subscript : Expr} {m : Memory} :
    Needs env a scopes (.index base subscript) m base m
  | subscript {base subscript : Expr} {m m' : Memory} {v : Value} :
    eval env a scopes base m = .ok v m' →
    Needs env a scopes (.index base subscript) m subscript m'
  | left {op : BinaryOp} {left right : Expr} {m : Memory} :
    Needs env a scopes (.binary op left right) m left m
  | right {op : BinaryOp} {left right : Expr} {m m' : Memory} {v : Value} :
    eval env a scopes left m = .ok v m' →
    Needs env a scopes (.binary op left right) m right m'
  | neg {operand : Expr} {m : Memory} : Needs env a scopes (.neg operand) m operand m
  | pos {operand : Expr} {m : Memory} : Needs env a scopes (.pos operand) m operand m
  | item {before after : List Expr} {e : Expr} {m m' : Memory} {vs : List Value} :
    evalItems env a scopes before m = .ok vs m' →
    Needs env a scopes (.list (before ++ e :: after)) m e m'
  | key {before after : List (Expr × Expr)} {k e : Expr} {m m' : Memory} {d : Dict Value} :
    evalPairs env a scopes [] before m = .ok d m' →
    Needs env a scopes (.dict (before ++ (k, e) :: after)) m k m'
  | value {before after : List (Expr × Expr)} {k e : Expr} {m m₁ m₂ m' : Memory} {d : Dict Value}
    {v : Value} {key : String} :
    evalPairs env a scopes [] before m = .ok d m₁ → eval env a scopes k m₁ = .ok v m₂ →
    v.output a m₂ = .ok key m' → Needs env a scopes (.dict (before ++ (k, e) :: after)) m e m'
  | subject {subject : Expr} {label : String} {args : List Expr} {kwargs : List (String × Expr)}
    {m : Memory} :
    env.probes.contains label = false → label ≠ "default" → label ≠ "d" →
    Needs env a scopes (.filter subject label args kwargs) m subject m

/-- The items behind a part of a list that succeeds. -/
theorem fails_evalItems {before after : List Expr} {vs : List Value}
    (h : evalItems env a scopes before m = .ok vs m')
    (hafter : Fails (evalItems env a scopes after) m') :
    Fails (evalItems env a scopes (before ++ after)) m := by
  induction before generalizing m vs with
  | nil =>
    obtain ⟨-, rfl⟩ := EStateM.Result.ok.inj h
    exact hafter
  | cons e rest ih =>
    obtain ⟨v, m₁, hv, h⟩ := Read.exists_of_bind_ok h
    obtain ⟨w, m₂, hw, h⟩ := Read.exists_of_bind_ok h
    obtain ⟨ws, m₃, hws, h⟩ := Read.exists_of_bind_ok h
    obtain ⟨-, rfl⟩ := EStateM.Result.ok.inj h
    exact .bind_ok hv (.bind_ok hw (ih hws).bind_left)

/-- The entries behind a part of a mapping that succeeds. -/
theorem fails_evalPairs {before after : List (Expr × Expr)} {c d : Dict Value}
    (h : evalPairs env a scopes c before m = .ok d m')
    (hafter : Fails (evalPairs env a scopes d after) m') :
    Fails (evalPairs env a scopes c (before ++ after)) m := by
  induction before generalizing m c with
  | nil =>
    obtain ⟨rfl, rfl⟩ := EStateM.Result.ok.inj h
    exact hafter
  | cons p rest ih =>
    obtain ⟨v, m₁, hv, h⟩ := Read.exists_of_bind_ok h
    obtain ⟨key, m₂, hkey, h⟩ := Read.exists_of_bind_ok h
    obtain ⟨w, m₃, hw, h⟩ := Read.exists_of_bind_ok h
    obtain ⟨x, m₄, hx, h⟩ := Read.exists_of_bind_ok h
    exact .bind_ok hv (.bind_ok hkey (.bind_ok hw (.bind_ok hx (ih h))))

/-- **An undefined value where a defined one is needed is an error.** -/
theorem Needs.fails {e part : Expr} (h : Needs env a scopes e m part m')
    (hu : GivesUndefined (eval env a scopes part) m') : Fails (eval env a scopes e) m := by
  have hdefined : ∀ {α : Type} {f : Value → Read α},
      Fails (eval env a scopes part >>= fun v => v.defined >>= f) m' :=
    hu.fails fun _ _ => fails_defined.bind_left
  cases h with
  | attr => exact hdefined
  | base => exact hdefined
  | subscript hbase => exact .bind_ok hbase (Value.fails_of_defined hdefined)
  | left => exact hdefined
  | right hleft => exact .bind_ok hleft (Value.fails_of_defined hdefined)
  | neg => exact hdefined
  | pos => exact hdefined
  | @item _ after _ _ _ _ hbefore =>
    have hitem : Fails (evalItems env a scopes (part :: after)) m' := hdefined
    exact (fails_evalItems hbefore hitem).bind_left
  | key hbefore =>
    exact (fails_evalPairs hbefore (hu.fails fun _ _ => fails_output.bind_left)).bind_left
  | value hbefore hk hkey =>
    exact (fails_evalPairs hbefore (.bind_ok hk (.bind_ok hkey hdefined))).bind_left
  | @subject _ label _ _ _ hprobe hdefault hd =>
    simp only [eval, Environment.filter?, hprobe, Bool.false_eq_true, if_false]
    cases hfilter : Filter.named? label with
    | none => exact .throw _
    | some filter =>
      have hne : filter ≠ .default := by
        rintro rfl
        exact (Filter.eq_of_named?_default hfilter).elim hdefault hd
      have hne' : filter ≠ .probe := by
        rintro rfl
        exact Filter.named?_ne_probe label hfilter
      exact hu.fails fun _ _ => .bind_right fun _ _ => .bind_right fun _ _ =>
        Filter.fails_apply hne hne' _

/-! ### Statements -/

theorem fails_renderNode_output {e : Expr} (h : GivesUndefined (eval env a scopes e) m) :
    Fails (renderNode env a (.output e) scopes) m := h.fails fun _ _ => fails_output.bind_left

theorem fails_renderNode_loop {targets : List String} {sequence : Expr} {body : List Node}
    {otherwise : Option (List Node)} (h : GivesUndefined (eval env a scopes sequence) m) :
    Fails (renderNode env a (.loop targets sequence body otherwise) scopes) m :=
  h.fails fun _ _ => Fails.bind_left fails_items

end Evaluation
end MailMerge
