/-
# Templates in parallel

The last step of the judgement: scopes on two sides, and an expression, a node and a
template evaluated in both.  The cases follow the constructors; each asks for the parts
first and then for what the operator, filter, test or statement does with their values.
-/

import MailMerge.Evaluation.Render
import MailMerge.Proofs.Evaluation.Filters
import MailMerge.Proofs.Template.Parts

namespace MailMerge

namespace Bridge

/-- A condition that matters only where related values may differ. -/
def Admits (B : Bridge) (b : Bool) : Prop := B.Exact ∨ b = true

theorem admits_and {B : Bridge} {b c : Bool} : B.Admits (b && c) ↔ B.Admits b ∧ B.Admits c := by
  rw [Admits, Bool.and_eq_true, or_and_left]
  rfl

end Bridge

namespace Scopes

/-- Scopes on two sides. -/
abbrev Related (B : Bridge) : Scopes → Scopes → Prop :=
  List.Forall₂ (Dict.Related (Value.Related B B.left))

namespace Related

variable {B : Bridge} {scopes scopes' : Scopes}

theorem find? (h : Related B scopes scopes') (s : String) :
    Option.Rel (Value.Related B B.left) (scopes.find? s) (scopes'.find? s) := by
  induction h with
  | nil => exact .none
  | cons hd _ ih =>
    have hs := hd.find? s
    rw [Scopes.find?, Scopes.find?]
    revert hs
    generalize Dict.find? _ s = o
    generalize Dict.find? _ s = o'
    intro hs
    cases hs with
    | some hv => exact .some hv
    | none => exact ih

theorem set (h : Related B scopes scopes') (s : String) {v w : Value}
    (hv : Value.Related B B.left v w) : Related B (scopes.set s v) (scopes'.set s w) := by
  cases h with
  | nil => exact .nil
  | cons hd hs => exact .cons (hd.insert s hv) hs

/-- Binding targets to the parts of related lists. -/
theorem setAll {parts parts' : List Value} (hp : Value.RelatedLists B B.left parts parts')
    (targets : List String) (h : Related B scopes scopes') :
    Related B ((targets.zip parts).foldl (fun s p => s.set p.1 p.2) scopes)
      ((targets.zip parts').foldl (fun s p => s.set p.1 p.2) scopes') := by
  induction hp generalizing targets scopes scopes' with
  | nil => simpa using h
  | cons hv _ ih =>
    cases targets with
    | nil => exact h
    | cons t ts => exact ih ts (h.set t hv)

end Related
end Scopes

/-- `unique` is the name of one filter. -/
theorem Filter.eq_of_named?_unique {name : String} (h : Filter.named? name = some .unique) :
    name = "unique" := by
  unfold Filter.named? at h
  split at h <;> first | rfl | cases h

/-- `in` is the name of one test. -/
theorem ValueTest.eq_of_named?_isIn {name : String} (h : ValueTest.named? name = some .isIn) :
    name = "in" := by
  unfold ValueTest.named? at h
  split at h <;> first | rfl | cases h

theorem Environment.eq_of_filter?_unique {env : Environment} {name : String}
    (h : env.filter? name = some .unique) : name = "unique" := by
  unfold Environment.filter? at h
  split_ifs at h
  · cases h
  · exact Filter.eq_of_named?_unique h

namespace Parallel

variable {B : Bridge} {env : Environment} {scopes scopes' : Scopes}

/-! ### Expressions -/

theorem inScope (hs : scopes.Related B scopes') (s : String) :
    Parallel B (Value.Related B B.left) (fun a => Evaluation.name a scopes s)
      (fun a => Evaluation.name a scopes' s) :=
  ofOption (fun _ _ hv => .pure hv)
    ((Parallel.name s).bind fun _ _ ho => .pure (related_getD ho (.undefined s)))
    (Scopes.Related.find? hs s)

mutual

/-- **Expressions run in step**, membership where related values are equal. -/
theorem eval (hs : scopes.Related B scopes') {e : Expr} (he : B.Admits (e.every Expr.looksBehind)) :
    Parallel B (Value.Related B B.left) (fun a => Evaluation.eval env a scopes e)
      (fun a => Evaluation.eval env a scopes' e) := by
  match e with
  | .str s => exact .pure (.str s)
  | .int k => exact .pure (.int k)
  | .float x => exact .pure (.float x)
  | .bool b => exact .pure (.bool b)
  | .null => exact .pure .null
  | .name s => exact inScope hs s
  | .list es =>
    rw [Expr.every, Bridge.admits_and] at he
    exact (evalItems hs he.2).bind fun _ _ hvs => .pure (.list hvs)
  | .dict ps =>
    rw [Expr.every, Bridge.admits_and] at he
    exact (evalPairs hs .nil he.2).bind fun _ _ hvs => .pure (.map hvs)
  | .attr base key =>
    rw [Expr.every, Bridge.admits_and] at he
    exact (eval hs he.2).bind fun _ _ hv => (defined hv).bind fun _ _ hv => lookup hv key
  | .index base subscript =>
    rw [Expr.every, Bridge.admits_and, Bridge.admits_and] at he
    obtain ⟨⟨-, hbase⟩, hsubscript⟩ := he
    exact (eval hs hbase).bind fun _ _ hv => (defined hv).bind fun _ _ hv =>
      (eval hs hsubscript).bind fun _ _ hi => (defined hi).bind fun _ _ hi => index hv hi
  | .binary op left right =>
    rw [Expr.every, Bridge.admits_and, Bridge.admits_and] at he
    obtain ⟨⟨hop, hleft⟩, hright⟩ := he
    have hop : B.Exact ∨ (op ≠ .isIn ∧ op ≠ .notIn) :=
      hop.imp_right fun h => by constructor <;> rintro rfl <;> cases h
    exact (eval hs hleft).bind fun _ _ hl => (defined hl).bind fun _ _ hl =>
      (eval hs hright).bind fun _ _ hr => (defined hr).bind fun _ _ hr => apply hl hr hop
  | .and left right =>
    rw [Expr.every, Bridge.admits_and, Bridge.admits_and] at he
    refine (eval hs he.1.2).bind fun l l' hl => ?_
    rw [hl.truthy_eq]
    split
    · exact eval hs he.2
    · exact .pure hl
  | .or left right =>
    rw [Expr.every, Bridge.admits_and, Bridge.admits_and] at he
    refine (eval hs he.1.2).bind fun l l' hl => ?_
    rw [hl.truthy_eq]
    split
    · exact .pure hl
    · exact eval hs he.2
  | .not operand =>
    rw [Expr.every, Bridge.admits_and] at he
    exact (eval hs he.2).bind fun _ _ hv => .pure (hv.truthy_eq ▸ .bool _)
  | .neg operand =>
    rw [Expr.every, Bridge.admits_and] at he
    exact (eval hs he.2).bind fun _ _ hv => (defined hv).bind fun _ _ hv => negate hv
  | .pos operand =>
    rw [Expr.every, Bridge.admits_and] at he
    exact (eval hs he.2).bind fun _ _ hv => (defined hv).bind fun _ _ hv => affirm hv
  | .filter subject label args kwargs =>
    rw [Expr.every, Bridge.admits_and, Bridge.admits_and, Bridge.admits_and] at he
    obtain ⟨⟨⟨hlabel, hsubject⟩, hargs⟩, hkwargs⟩ := he
    simp only [Evaluation.eval]
    cases hfilter : env.filter? label with
    | none => exact .throw (B.fault_of_isOwn rfl)
    | some filter =>
      have hfree : B.Exact ∨ filter ≠ .unique := hlabel.imp_right fun h hn => by
        rw [hn] at hfilter
        rw [Environment.eq_of_filter?_unique hfilter] at h
        exact absurd h Bool.false_ne_true
      exact (eval hs hsubject).bind fun _ _ hv => (evalArgs hs hargs).bind fun _ _ hxs =>
        (evalKwargs hs .nil hkwargs).bind fun _ _ hks => applyFilter hfree hv ⟨hxs, hks⟩
  | .test subject label args kwargs negated =>
    rw [Expr.every, Bridge.admits_and, Bridge.admits_and, Bridge.admits_and] at he
    obtain ⟨⟨⟨hlabel, hsubject⟩, hargs⟩, hkwargs⟩ := he
    simp only [Evaluation.eval]
    cases htest : ValueTest.named? label with
    | none => exact .throw (B.fault_of_isOwn rfl)
    | some test =>
      have hfree : B.Exact ∨ test ≠ .isIn := hlabel.imp_right fun h hn => by
        rw [hn] at htest
        rw [ValueTest.eq_of_named?_isIn htest] at h
        exact absurd h Bool.false_ne_true
      exact (eval hs hsubject).bind fun _ _ hv => (evalArgs hs hargs).bind fun _ _ hxs =>
        (evalKwargs hs .nil hkwargs).bind fun _ _ hks =>
          (holds hfree hv ⟨hxs, hks⟩).bind fun _ _ hb => .pure (hb ▸ .bool _)
  | .cond value condition otherwise =>
    rw [Expr.every, Bridge.admits_and, Bridge.admits_and, Bridge.admits_and] at he
    obtain ⟨⟨⟨-, hvalue⟩, hcondition⟩, hotherwise⟩ := he
    refine (eval hs hcondition).bind fun c c' hc => ?_
    rw [hc.truthy_eq]
    split
    · exact eval hs hvalue
    · exact evalElse hs hotherwise

theorem evalElse (hs : scopes.Related B scopes') {o : Option Expr}
    (ho : B.Admits (Expr.everyElse Expr.looksBehind o)) :
    Parallel B (Value.Related B B.left) (fun a => Evaluation.evalElse env a scopes o)
      (fun a => Evaluation.evalElse env a scopes' o) := by
  match o with
  | some e => exact eval hs ho
  | none => exact .pure (.undefined _)

theorem evalItems (hs : scopes.Related B scopes') {es : List Expr}
    (hes : B.Admits (Expr.everyItem Expr.looksBehind es)) :
    Parallel B (Value.RelatedLists B B.left) (fun a => Evaluation.evalItems env a scopes es)
      (fun a => Evaluation.evalItems env a scopes' es) := by
  match es with
  | [] => exact .pure .nil
  | e :: rest =>
    rw [Expr.everyItem, Bridge.admits_and] at hes
    exact (eval hs hes.1).bind fun _ _ hv => (defined hv).bind fun _ _ hv =>
      (evalItems hs hes.2).bind fun _ _ hvs => .pure (.cons hv hvs)

theorem evalPairs (hs : scopes.Related B scopes') {before before' : Dict Value}
    (hb : Dict.Related (Value.Related B B.left) before before') {ps : List (Expr × Expr)}
    (hps : B.Admits (Expr.everyPair Expr.looksBehind ps)) :
    Parallel B (Dict.Related (Value.Related B B.left))
      (fun a => Evaluation.evalPairs env a scopes before ps)
      (fun a => Evaluation.evalPairs env a scopes' before' ps) := by
  match ps with
  | [] => exact .pure hb
  | (k, e) :: rest =>
    rw [Expr.everyPair, Bridge.admits_and, Bridge.admits_and] at hps
    obtain ⟨⟨hk, he⟩, hrest⟩ := hps
    refine (eval hs hk).bind fun _ _ hv => (output hv).bind fun key _ hkey =>
      (eval hs he).bind fun _ _ hv => (defined hv).bind fun _ _ hv => ?_
    subst hkey
    exact evalPairs hs (hb.insert key hv) hrest

theorem evalArgs (hs : scopes.Related B scopes') {es : List Expr}
    (hes : B.Admits (Expr.everyItem Expr.looksBehind es)) :
    Parallel B (Value.RelatedLists B B.left) (fun a => Evaluation.evalArgs env a scopes es)
      (fun a => Evaluation.evalArgs env a scopes' es) := by
  match es with
  | [] => exact .pure .nil
  | e :: rest =>
    rw [Expr.everyItem, Bridge.admits_and] at hes
    exact (eval hs hes.1).bind fun _ _ hv =>
      (evalArgs hs hes.2).bind fun _ _ hvs => .pure (.cons hv hvs)

theorem evalKwargs (hs : scopes.Related B scopes') {before before' : Dict Value}
    (hb : Dict.Related (Value.Related B B.left) before before') {ps : List (String × Expr)}
    (hps : B.Admits (Expr.everyNamed Expr.looksBehind ps)) :
    Parallel B (Dict.Related (Value.Related B B.left))
      (fun a => Evaluation.evalKwargs env a scopes before ps)
      (fun a => Evaluation.evalKwargs env a scopes' before' ps) := by
  match ps with
  | [] => exact .pure hb
  | (key, e) :: rest =>
    rw [Expr.everyNamed, Bridge.admits_and] at hps
    exact (eval hs hps.1).bind fun _ _ hv => evalKwargs hs (hb.insert key hv) hps.2

end

/-! ### Statements -/

theorem loopItems {v w : Value} (targets : Nat) (h : Value.Related B B.left v w) :
    Parallel B (Value.RelatedLists B B.left) (fun a => Evaluation.loopItems a targets v)
      (fun a => Evaluation.loopItems a targets w) := by
  have hrest : Parallel B (Value.RelatedLists B B.left)
      (fun a => if v.isMapping && targets == 2 then v.pairs a else v.items)
      (fun a => if w.isMapping && targets == 2 then w.pairs a else w.items) := by
    rw [h.isMapping_eq]
    split
    · exact pairs h
    · exact items h
  cases h with
  | null => exact .pure .nil
  | _ => exact hrest

theorem bindTargets {v w : Value} (targets : List String) (h : Value.Related B B.left v w)
    (hs : scopes.Related B scopes') :
    Parallel B (Scopes.Related B) (fun _ => Evaluation.bindTargets targets v scopes)
      (fun _ => Evaluation.bindTargets targets w scopes') := by
  have hlist : ∀ {parts parts' : List Value}, Value.RelatedLists B B.left parts parts' →
      Parallel B (Scopes.Related B)
        (fun _ => if parts.length = targets.length then
            pure ((targets.zip parts).foldl (fun s p => s.set p.1 p.2) scopes)
          else throw (.invalid (.cannotUnpack .list targets.length)))
        (fun _ => if parts'.length = targets.length then
            pure ((targets.zip parts').foldl (fun s p => s.set p.1 p.2) scopes')
          else throw (.invalid (.cannotUnpack .list targets.length))) := by
    intro parts parts' hp
    rw [hp.length_eq]
    split
    · exact .pure (hs.setAll hp targets)
    · exact .throw (B.fault_of_isOwn rfl)
  rcases targets with _ | ⟨target, _ | ⟨_, _⟩⟩
  · cases h with
    | list hp => exact hlist hp
    | _ => exact .throw (B.fault_of_isOwn rfl)
  · exact .pure (hs.set target h)
  · cases h with
    | list hp => exact hlist hp
    | _ => exact .throw (B.fault_of_isOwn rfl)

theorem loopInfo_atHand (i n : Nat) : (Evaluation.loopInfo i n).AtHand := by
  rw [Evaluation.loopInfo, Value.atHand_map]
  intro e he
  simp only [Dict.ofList, List.foldl_cons, List.foldl_nil] at he
  repeat' rcases Dict.mem_insert he with rfl | he
  all_goals first | rfl | exact absurd he List.not_mem_nil

/-- The text of a node and the scopes behind it, on two sides. -/
def Rendered (B : Bridge) (r r' : String × Scopes) : Prop := r.1 = r'.1 ∧ r.2.Related B r'.2

theorem turns {body body' : Access → Scopes → Read (String × Scopes)} {targets : List String}
    (hs : scopes.Related B scopes') (n : Nat)
    (hbody : ∀ {s s' : Scopes}, s.Related B s' →
      Parallel B (Rendered B) (fun a => body a s) (fun a => body' a s'))
    {xs ys : List Value} (h : Value.RelatedLists B B.left xs ys) (i : Nat) :
    Parallel B Eq (fun a => Evaluation.turns (body a) targets scopes n i xs)
      (fun a => Evaluation.turns (body' a) targets scopes' n i ys) := by
  induction h generalizing i with
  | nil => exact .pure rfl
  | cons hx _ ih =>
    refine (bindTargets targets hx (.cons .nil hs)).bind fun inner inner' hinner => ?_
    refine (hbody (hinner.set "loop" (.of_atHand (loopInfo_atHand i n)))).bind fun r r' hr => ?_
    exact (ih (i + 1)).bind fun t t' ht => .pure (by rw [hr.1, ht])

mutual

/-- **Nodes run in step.** -/
theorem renderNode {scopes scopes' : Scopes} (hs : scopes.Related B scopes') {node : Node}
    (hn : B.Admits (node.every Expr.looksBehind)) :
    Parallel B (Rendered B) (fun a => Evaluation.renderNode env a node scopes)
      (fun a => Evaluation.renderNode env a node scopes') := by
  match node with
  | .text s => exact .pure ⟨rfl, hs⟩
  | .output e =>
    exact (eval hs hn).bind fun _ _ hv => (output hv).bind fun _ _ ht => .pure ⟨ht, hs⟩
  | .set target e => exact (eval hs hn).bind fun _ _ hv => .pure ⟨rfl, hs.set target hv⟩
  | .branch cases otherwise =>
    rw [Node.every, Bridge.admits_and] at hn
    refine (renderCases hs hn.1).bind fun r r' hr => ?_
    cases hr with
    | some hr => exact .pure hr
    | none => exact renderElse hs hn.2
  | .loop targets sequence body otherwise =>
    rw [Node.every, Bridge.admits_and, Bridge.admits_and] at hn
    obtain ⟨⟨hsequence, hbody⟩, hotherwise⟩ := hn
    refine (eval hs hsequence).bind fun v w hv => (loopItems targets.length hv).bind
      fun xs ys hxs => ?_
    have hlength := hxs.length_eq
    cases hxs with
    | nil => exact renderElse hs hotherwise
    | @cons x y xs ys hx hxs =>
      dsimp only
      rw [hlength]
      exact (turns hs _ (fun h => renderNodes h hbody) (.cons hx hxs) 0).bind
        fun _ _ ht => .pure ⟨ht, hs⟩

theorem renderCases {scopes scopes' : Scopes} (hs : scopes.Related B scopes')
    {cases : List (Expr × List Node)}
    (hc : B.Admits (Node.everyCase Expr.looksBehind cases)) :
    Parallel B (Option.Rel (Rendered B)) (fun a => Evaluation.renderCases env a cases scopes)
      (fun a => Evaluation.renderCases env a cases scopes') := by
  match cases with
  | [] => exact .pure .none
  | (condition, body) :: rest =>
    rw [Node.everyCase, Bridge.admits_and, Bridge.admits_and] at hc
    obtain ⟨⟨hcondition, hbody⟩, hrest⟩ := hc
    refine (eval hs hcondition).bind fun c c' hv => ?_
    rw [hv.truthy_eq]
    split
    · exact (renderNodes hs hbody).bind fun _ _ hr => .pure (.some hr)
    · exact renderCases hs hrest

theorem renderElse {scopes scopes' : Scopes} (hs : scopes.Related B scopes')
    {otherwise : Option (List Node)}
    (ho : B.Admits (Node.everyElse Expr.looksBehind otherwise)) :
    Parallel B (Rendered B) (fun a => Evaluation.renderElse env a otherwise scopes)
      (fun a => Evaluation.renderElse env a otherwise scopes') := by
  match otherwise with
  | some body => exact renderNodes hs ho
  | none => exact .pure ⟨rfl, hs⟩

theorem renderNodes {scopes scopes' : Scopes} (hs : scopes.Related B scopes') {nodes : List Node}
    (hn : B.Admits (Node.everyNode Expr.looksBehind nodes)) :
    Parallel B (Rendered B) (fun a => Evaluation.renderNodes env a nodes scopes)
      (fun a => Evaluation.renderNodes env a nodes scopes') := by
  match nodes with
  | [] => exact .pure ⟨rfl, hs⟩
  | node :: rest =>
    rw [Node.everyNode, Bridge.admits_and] at hn
    exact (renderNode hs hn.1).bind fun r r' hr => (renderNodes hr.2 hn.2).bind
      fun t t' ht => .pure ⟨by rw [hr.1, ht.1], ht.2⟩

end

/-- **Templates run in step.** -/
theorem renderTemplate (env : Environment) (template : Template)
    (ht : B.Admits (Node.everyNode Expr.looksBehind template)) :
    Parallel B Eq (fun a => Evaluation.renderTemplate env a template)
      (fun a => Evaluation.renderTemplate env a template) :=
  (renderNodes (.cons .nil .nil) ht).bind fun _ _ hr => .pure hr.1

/-- **Sources run in step** where related values are equal. -/
theorem renderSource (env : Environment) (source : String) (hB : B.Exact)
    (hfault : ∀ e, env.parse source = .error e → B.fault e) :
    Parallel B Eq (fun a => Evaluation.renderSource env a source)
      (fun a => Evaluation.renderSource env a source) := by
  unfold Evaluation.renderSource
  split
  · exact renderTemplate env _ (.inl hB)
  · exact .throw (hfault _ ‹_›)

end Parallel
end MailMerge
