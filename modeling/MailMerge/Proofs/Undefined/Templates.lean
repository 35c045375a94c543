/-
# Templates meet loose values only

The scopes of a template hold loose values: a loop binds items, which are whole, and only an
assignment binds what an expression gives.  So an expression gives a loose value again
(`Ensures.eval`), and a node leaves scopes of loose values behind it (`Ensures.renderNode`).
`Evaluates` follows the render of a template to each of its expressions; all of them are
evaluated in such scopes (`Evaluates.loose`).
-/

import MailMerge.Evaluation.Render
import MailMerge.Proofs.Undefined.Filters

namespace MailMerge

open Value (Whole Loose)

namespace Scopes

/-- All that is bound is undefined or whole. -/
def Loose (H : Handles) (scopes : Scopes) : Prop :=
  ∀ scope ∈ scopes, ∀ e ∈ scope, e.2.Loose H

variable {H : Handles} {scopes : Scopes} {v : Value}

theorem loose_new : Scopes.Loose H [[]] := by simp [Scopes.Loose]

theorem Loose.find? (hs : scopes.Loose H) {s : String} (hv : scopes.find? s = some v) :
    v.Loose H := by
  induction scopes with
  | nil => cases hv
  | cons scope outer ih =>
    obtain ⟨hscope, houter⟩ := List.forall_mem_cons.1 hs
    rw [Scopes.find?] at hv
    split at hv
    · rename_i hfind
      exact hscope (s, v) (Dict.mem_of_find? (hfind.trans hv))
    · exact ih houter hv

theorem Loose.set (hs : scopes.Loose H) (s : String) (hv : v.Loose H) :
    (scopes.set s v).Loose H := by
  cases scopes with
  | nil => exact hs
  | cons scope outer =>
    obtain ⟨hscope, houter⟩ := List.forall_mem_cons.1 hs
    refine List.forall_mem_cons.2 ⟨fun e he => ?_, houter⟩
    rcases Dict.mem_insert he with rfl | he
    · exact hv
    · exact hscope e he

/-- Binding targets to the parts of a list. -/
theorem Loose.setAll {pairs : List (String × Value)} (hp : ∀ p ∈ pairs, p.2.Loose H)
    (hs : scopes.Loose H) : (pairs.foldl (fun s p => s.set p.1 p.2) scopes).Loose H :=
  List.foldlRecOn pairs _ hs fun _ hs p hpin => hs.set p.1 (hp p hpin)

/-- A turn of a loop begins with a scope of its own. -/
theorem Loose.push (hs : scopes.Loose H) : Scopes.Loose H ([] :: scopes) :=
  List.forall_mem_cons.2 ⟨by simp, hs⟩

end Scopes

namespace Ensures

variable {J : Memory → Prop} {H : Handles} {a : Access} {v : Value} {env : Environment}
  {scopes : Scopes}

/-! ### Expressions -/

theorem name (ha : a.Defined J H) (hs : scopes.Loose H) (s : String) :
    Ensures J (Loose H) (Evaluation.name a scopes s) := by
  unfold Evaluation.name
  split
  · exact .pure (hs.find? ‹_›)
  · exact (ha.name s).bind fun _ ho => .pure (Value.loose_getD ho s)

mutual

/-- **Expressions give loose values.** -/
theorem eval (ha : a.Defined J H) (hs : scopes.Loose H) (e : Expr) :
    Ensures J (Loose H) (Evaluation.eval env a scopes e) := by
  match e with
  | .str s => exact .pure (Whole.str s).loose
  | .int n => exact .pure (Whole.int n).loose
  | .float x => exact .pure (Whole.float x).loose
  | .bool b => exact .pure (Whole.bool b).loose
  | .null => exact .pure Whole.null.loose
  | .name s => exact name ha hs s
  | .list es => exact (evalItems ha hs es).bind fun _ hvs => .pure (Whole.list hvs).loose
  | .dict ps =>
    exact (evalPairs ha hs ps (by simp)).bind fun _ hvs => .pure (Whole.map hvs).loose
  | .attr base key =>
    exact (eval ha hs base).bind fun _ hv => (defined hv).bind fun _ hv => lookup ha hv key
  | .index base subscript =>
    exact (eval ha hs base).bind fun _ hv => (defined hv).bind fun _ hv =>
      (eval ha hs subscript).bind fun _ hi => (defined hi).bind fun i _ => index ha hv i
  | .binary op left right =>
    exact (eval ha hs left).bind fun _ hl => (defined hl).bind fun _ hl =>
      (eval ha hs right).bind fun _ hr => (defined hr).bind fun _ hr =>
        (applyOperator ha op hl hr).imp fun _ => Whole.loose
  | .and left right =>
    refine (eval ha hs left).bind fun l hl => ?_
    split
    · exact eval ha hs right
    · exact .pure hl
  | .or left right =>
    refine (eval ha hs left).bind fun l hl => ?_
    split
    · exact .pure hl
    · exact eval ha hs right
  | .not operand => exact (eval ha hs operand).bind fun _ _ => .pure (Whole.bool _).loose
  | .neg operand =>
    exact (eval ha hs operand).bind fun _ hv => (defined hv).bind fun v _ =>
      (negate v).imp fun _ => Whole.loose
  | .pos operand =>
    exact (eval ha hs operand).bind fun _ hv => (defined hv).bind fun _ hv =>
      (affirm hv).imp fun _ => Whole.loose
  | .filter subject label args kwargs =>
    simp only [Evaluation.eval]
    split
    · exact .throw _
    · exact (eval ha hs subject).bind fun _ hv => (evalArgs ha hs args).bind fun _ hxs =>
        (evalKwargs ha hs kwargs (by simp)).bind fun _ hks => applyFilter ha _ hv ⟨hxs, hks⟩
  | .test subject label args kwargs negated =>
    simp only [Evaluation.eval]
    split
    · exact .throw _
    · exact (eval ha hs subject).bind fun _ hv => (evalArgs ha hs args).bind fun _ hxs =>
        (evalKwargs ha hs kwargs (by simp)).bind fun _ hks => (holds ha _ hv ⟨hxs, hks⟩).bind
          fun _ _ => .pure (Whole.bool _).loose
  | .cond value condition otherwise =>
    refine (eval ha hs condition).bind fun c _ => ?_
    split
    · exact eval ha hs value
    · exact evalElse ha hs otherwise

theorem evalElse (ha : a.Defined J H) (hs : scopes.Loose H) (o : Option Expr) :
    Ensures J (Loose H) (Evaluation.evalElse env a scopes o) := by
  match o with
  | some e => exact eval ha hs e
  | none => exact .pure (Value.loose_undefined _)

theorem evalItems (ha : a.Defined J H) (hs : scopes.Loose H) (es : List Expr) :
    Ensures J (fun vs => ∀ v ∈ vs, v.Whole H) (Evaluation.evalItems env a scopes es) := by
  match es with
  | [] => exact .pure (by simp)
  | e :: rest =>
    exact (eval ha hs e).bind fun _ hv => (defined hv).bind fun _ hv =>
      (evalItems ha hs rest).bind fun _ hvs => .pure (List.forall_mem_cons.2 ⟨hv, hvs⟩)

theorem evalPairs (ha : a.Defined J H) (hs : scopes.Loose H) (ps : List (Expr × Expr))
    {before : Dict Value} (hb : ∀ e ∈ before, e.2.Whole H) :
    Ensures J (fun d => ∀ e ∈ d, e.2.Whole H) (Evaluation.evalPairs env a scopes before ps) := by
  match ps with
  | [] => exact .pure hb
  | (k, e) :: rest =>
    refine (eval ha hs k).bind fun _ hk => (output ha hk).bind fun key _ =>
      (eval ha hs e).bind fun _ hv => (defined hv).bind fun v hv =>
        evalPairs ha hs rest fun d hd => ?_
    rcases Dict.mem_insert hd with rfl | hd
    · exact hv
    · exact hb d hd

theorem evalArgs (ha : a.Defined J H) (hs : scopes.Loose H) (es : List Expr) :
    Ensures J (fun vs => ∀ v ∈ vs, v.Loose H) (Evaluation.evalArgs env a scopes es) := by
  match es with
  | [] => exact .pure (by simp)
  | e :: rest =>
    exact (eval ha hs e).bind fun _ hv => (evalArgs ha hs rest).bind fun _ hvs =>
      .pure (List.forall_mem_cons.2 ⟨hv, hvs⟩)

theorem evalKwargs (ha : a.Defined J H) (hs : scopes.Loose H) (ps : List (String × Expr))
    {before : Dict Value} (hb : ∀ e ∈ before, e.2.Loose H) :
    Ensures J (fun d => ∀ e ∈ d, e.2.Loose H) (Evaluation.evalKwargs env a scopes before ps) := by
  match ps with
  | [] => exact .pure hb
  | (key, e) :: rest =>
    refine (eval ha hs e).bind fun v hv => evalKwargs ha hs rest fun d hd => ?_
    rcases Dict.mem_insert hd with rfl | hd
    · exact hv
    · exact hb d hd

end

/-! ### Statements -/

theorem loopItems (ha : a.Defined J H) (targets : Nat) (hv : v.Loose H) :
    Ensures J (fun xs => ∀ x ∈ xs, x.Whole H) (Evaluation.loopItems a targets v) := by
  unfold Evaluation.loopItems
  split
  · exact .pure (by simp)
  · split
    · rename_i hcond
      obtain ⟨hm, -⟩ := Bool.and_eq_true_iff.1 hcond
      have hdefined : v.isUndefined = false := by cases v <;> first | rfl | cases hm
      exact pairs ha (hv.whole hdefined) hm
    · exact items hv

theorem bindTargets (targets : List String) (hv : v.Whole H) (hs : scopes.Loose H) :
    Ensures J (Scopes.Loose H) (Evaluation.bindTargets targets v scopes) := by
  unfold Evaluation.bindTargets
  split
  · exact .pure (hs.set _ hv.loose)
  · split
    · refine .pure (hs.setAll fun p hp => ?_)
      exact (Value.whole_list.1 hv p.2 (List.of_mem_zip hp).2).loose
    · exact .throw _
  · exact .throw _

theorem loose_turn {inner : Scopes} (hs : inner.Loose H) (i n : Nat) :
    (inner.set "loop" (Evaluation.loopInfo i n)).Loose H := by
  refine hs.set _ (Whole.map fun e he => ?_).loose
  simp only [Dict.ofList, List.foldl_cons, List.foldl_nil] at he
  repeat' rcases Dict.mem_insert he with rfl | he
  all_goals first | constructor | exact absurd he List.not_mem_nil

theorem turns {body : Scopes → Read (String × Scopes)}
    (hbody : ∀ {s : Scopes}, s.Loose H → Ensures J (fun r => r.2.Loose H) (body s))
    (targets : List String) (hs : scopes.Loose H) (n : Nat) {xs : List Value}
    (hxs : ∀ x ∈ xs, x.Whole H) (i : Nat) :
    Keeps J (Evaluation.turns body targets scopes n i xs) := by
  induction xs generalizing i with
  | nil => exact .pure trivial
  | cons x xs ih =>
    obtain ⟨hx, hxs⟩ := List.forall_mem_cons.1 hxs
    exact (bindTargets targets hx hs.push).bind fun inner hinner =>
      (hbody (loose_turn hinner i n)).bind fun r _ => (ih hxs (i + 1)).bind fun _ _ =>
        .pure trivial

mutual

/-- **Nodes leave scopes of loose values behind them.** -/
theorem renderNode (ha : a.Defined J H) (node : Node) {scopes : Scopes} (hs : scopes.Loose H) :
    Ensures J (fun r => r.2.Loose H) (Evaluation.renderNode env a node scopes) := by
  match node with
  | .text s => exact .pure hs
  | .output e => exact (eval ha hs e).bind fun _ hv => (output ha hv).bind fun _ _ => .pure hs
  | .set target e => exact (eval ha hs e).bind fun _ hv => .pure (hs.set target hv)
  | .branch cases otherwise =>
    refine (renderCases ha cases hs).bind fun o ho => ?_
    split
    · exact .pure (ho _ rfl)
    · exact renderElse ha otherwise hs
  | .loop targets sequence body otherwise =>
    refine (eval ha hs sequence).bind fun v hv =>
      (loopItems ha targets.length hv).bind fun xs hxs => ?_
    split
    · exact renderElse ha otherwise hs
    · exact (turns (fun hs => renderNodes ha body hs) targets hs _ hxs 0).bind fun _ _ => .pure hs

theorem renderCases (ha : a.Defined J H) (cases : List (Expr × List Node)) {scopes : Scopes}
    (hs : scopes.Loose H) :
    Ensures J (fun o => ∀ r, o = some r → r.2.Loose H)
      (Evaluation.renderCases env a cases scopes) := by
  match cases with
  | [] => exact .pure nofun
  | (condition, body) :: rest =>
    refine (eval ha hs condition).bind fun c _ => ?_
    split
    · refine (renderNodes ha body hs).bind fun r hr => .pure ?_
      rintro _ ⟨⟩
      exact hr
    · exact renderCases ha rest hs

theorem renderElse (ha : a.Defined J H) (otherwise : Option (List Node)) {scopes : Scopes}
    (hs : scopes.Loose H) :
    Ensures J (fun r => r.2.Loose H) (Evaluation.renderElse env a otherwise scopes) := by
  match otherwise with
  | some body => exact renderNodes ha body hs
  | none => exact .pure hs

theorem renderNodes (ha : a.Defined J H) (nodes : List Node) {scopes : Scopes}
    (hs : scopes.Loose H) :
    Ensures J (fun r => r.2.Loose H) (Evaluation.renderNodes env a nodes scopes) := by
  match nodes with
  | [] => exact .pure hs
  | node :: rest =>
    exact (renderNode ha node hs).bind fun _ hr => (renderNodes ha rest hr).bind fun _ hr =>
      .pure hr

end

end Ensures
end MailMerge
