/-
# Membership in lists

The operator `in` looks for an item of a list by the equality of values, which takes lazy
mappings for equal if they are the same one.  The operator `==` reads them and compares what is
in them.  So the two agree as long as no lazy mapping is opposite a different mapping
(`Value.SameHandles`), and every lazy mapping that is sought equals itself, which it does unless
there is a number in it that is not one.
-/

import MailMerge.Proofs.Context.Cycles
import MailMerge.Proofs.Context.Opened
import MailMerge.Proofs.Evaluation.Operands
import MailMerge.Proofs.Undefined.Values
import MailMerge.Proofs.Value.Equality

namespace MailMerge
namespace Context

open Value (SameHandles)

variable {c : Context} {v w : Value}

/-! ### Parts of an expression -/

/-- Operators give what they give on the values of their operands. -/
theorem AtRest.eval_binary (h : c.AtRest) {l r : Expr} (hl : (c.eval l).1 = .ok v)
    (hr : (c.eval r).1 = .ok w) (hv : v.isUndefined = false) (hw : w.isUndefined = false)
    (op : BinaryOp) :
    (c.eval (.binary op l r)).1 = (c.run fun a => Operator.apply a op v w).1 := by
  refine (h.run_bind (steady_eval c l) (steady_applyTo c op r)).trans ?_
  rw [show (c.run fun a => Evaluation.eval c.env a [[]] l).1 = .ok v from hl]
  change (c.run fun a => v.defined >>= fun u => Evaluation.eval c.env a [[]] r >>= fun u' =>
    u'.defined >>= fun u' => Operator.apply a op u u').1 = _
  simp only [Value.defined_of_not_isUndefined hv, pure_bind]
  refine (h.run_bind (steady_eval c r) (steady_applyDefined c op v)).trans ?_
  rw [show (c.run fun a => Evaluation.eval c.env a [[]] r).1 = .ok w from hr]
  change (c.run fun a => w.defined >>= fun u' => Operator.apply a op v u').1 = _
  simp only [Value.defined_of_not_isUndefined hw, pure_bind]

/-- Values of expressions have handles on mappings among the variables only. -/
theorem Plain.related_eval (h : c.Plain Value.AtHand) {e : Expr} (hr : (c.eval e).1 = .ok v) :
    v.Related (.ground c.vars) (Entry.heightOf c.vars) v := by
  have heval : Parallel (.ground c.vars) (Value.Related (.ground c.vars) (Entry.heightOf c.vars))
      (fun a => Evaluation.eval c.env a [[]] e) (fun a => Evaluation.eval c.env a [[]] e) :=
    Parallel.eval (.cons .nil .nil) (.inl (Bridge.ground_exact c.vars))
  have hfollows := heval.follows h.simulates_access ⟨rfl, .refl h.atRest.order⟩
  rw [eval, run_result] at hr
  rcases hrun : Evaluation.eval c.env c.access [[]] e c.memory with ⟨u, m⟩ | ⟨d, m⟩ <;>
    rw [hrun] at hr hfollows
  · obtain rfl := Except.ok.inj hr
    exact hfollows.1
  · cases hr

/-! ### Two equalities -/

/-- The lazy mapping equals itself. -/
def EqualsItself (c : Context) : Handles := fun place keys =>
  c.Equates (.lazy place keys) (.lazy place keys)

section

variable (hc : c.AtRest) (hv : c.Opens v) (hw : c.Opens w)
include hc

theorem beq_opened_list {vs ws : List Value} (hv : c.Opens (.list vs)) (hw : c.Opens (.list ws)) :
    (c.opened (.list vs)).beq (c.opened (.list ws)) = true ↔
      List.Forall₂ (fun v w => (c.opened v).beq (c.opened w) = true) vs ws := by
  rw [(hv.list hc).2, (hw.list hc).2, Value.beq, Value.beqLists_iff, List.forall₂_map_left_iff,
    List.forall₂_map_right_iff]

theorem beq_opened_map {vs ws : Dict Value} (hv : c.Opens (.map vs)) (hw : c.Opens (.map ws)) :
    (c.opened (.map vs)).beq (c.opened (.map ws)) = true ↔
      List.Forall₂ (fun e d => e.1 = d.1 ∧ (c.opened e.2).beq (c.opened d.2) = true) vs ws := by
  rw [(hv.map hc).2, (hw.map hc).2, Value.beq, Value.beqEntries_iff, List.forall₂_map_left_iff,
    List.forall₂_map_right_iff]

include hv hw

/-- Values that are equal when opened are equal, if their handles are the same. -/
theorem beq_of_opened (hsame : SameHandles v w)
    (heq : (c.opened v).beq (c.opened w) = true) : v.beq w = true := by
  induction v using Value.induction generalizing w with
  | list vs ih =>
    cases hsame with
    | atHand hv' hw' => rwa [hv.of_atHand hc hv', hw.of_atHand hc hw'] at heq
    | list hitems =>
      have hopened := (beq_opened_list hc hv hw).1 heq
      refine Value.beqLists_iff.2 (List.forall₂_iff_zip.2 ⟨hitems.length_eq, fun {v w} hmem => ?_⟩)
      obtain ⟨hvmem, hwmem⟩ := List.of_mem_zip hmem
      exact ih v hvmem ((hv.list hc).1 v hvmem) ((hw.list hc).1 w hwmem)
        ((List.forall₂_iff_zip.1 hitems).2 hmem) ((List.forall₂_iff_zip.1 hopened).2 hmem)
  | map vs ih =>
    cases hsame with
    | atHand hv' hw' => rwa [hv.of_atHand hc hv', hw.of_atHand hc hw'] at heq
    | map hentries =>
      have hopened := (beq_opened_map hc hv hw).1 heq
      have hsame := Dict.related_iff.1 hentries
      refine Value.beqEntries_iff.2
        (List.forall₂_iff_zip.2 ⟨hsame.length_eq, fun {e d} hmem => ?_⟩)
      obtain ⟨hemem, hdmem⟩ := List.of_mem_zip hmem
      obtain ⟨hkey, hed⟩ := (List.forall₂_iff_zip.1 hsame).2 hmem
      exact ⟨hkey, ih e hemem ((hv.map hc).1 e hemem) ((hw.map hc).1 d hdmem) hed
        ((List.forall₂_iff_zip.1 hopened).2 hmem).2⟩
  | lazy place keys =>
    cases hsame with
    | atHand hv' => exact absurd hv' Value.not_atHand_lazy
    | handle => simp [Value.beq]
  | _ =>
    cases hsame with
    | atHand hv' hw' => rwa [hv.of_atHand hc hv', hw.of_atHand hc hw'] at heq

/-- Values that are equal are so when opened, if the lazy mappings in them equal themselves. -/
theorem beq_opened {n : Nat} (hgv : v.Related (.ground c.vars) n v)
    (hgw : w.Related (.ground c.vars) n w) (hself : v.Whole c.EqualsItself)
    (heq : v.beq w = true) : (c.opened v).beq (c.opened w) = true := by
  induction v using Value.induction generalizing w with
  | list vs ih =>
    cases w with
    | list ws =>
      cases hgv with
      | list hgvs =>
        cases hgw with
        | list hgws =>
          have hitems := Value.beqLists_iff.1 heq
          refine (beq_opened_list hc hv hw).2
            (List.forall₂_iff_zip.2 ⟨hitems.length_eq, fun {v w} hmem => ?_⟩)
          obtain ⟨hvmem, hwmem⟩ := List.of_mem_zip hmem
          exact ih v hvmem ((hv.list hc).1 v hvmem) ((hw.list hc).1 w hwmem)
            (List.forall₂_same.1 hgvs v hvmem) (List.forall₂_same.1 hgws w hwmem)
            (Value.whole_list.1 hself v hvmem) ((List.forall₂_iff_zip.1 hitems).2 hmem)
    | _ => cases heq
  | map vs ih =>
    cases w with
    | map ws =>
      cases hgv with
      | map hgvs =>
        cases hgw with
        | map hgws =>
          rw [Dict.related_iff] at hgvs hgws
          have hentries := Value.beqEntries_iff.1 heq
          refine (beq_opened_map hc hv hw).2
            (List.forall₂_iff_zip.2 ⟨hentries.length_eq, fun {e d} hmem => ?_⟩)
          obtain ⟨hemem, hdmem⟩ := List.of_mem_zip hmem
          obtain ⟨hkey, hed⟩ := (List.forall₂_iff_zip.1 hentries).2 hmem
          exact ⟨hkey, ih e hemem ((hv.map hc).1 e hemem) ((hw.map hc).1 d hdmem)
            (List.forall₂_same.1 hgvs e hemem).2 (List.forall₂_same.1 hgws d hdmem).2
            (Value.whole_map.1 hself e hemem) hed⟩
    | _ => cases heq
  | lazy place keys =>
    cases w with
    | lazy place' keys' =>
      obtain rfl : place = place' := by simpa [Value.beq] using heq
      -- a place determines the keys of the mapping there
      obtain ⟨inner, hinner, rfl, -⟩ : c.vars.Fits n place keys := by cases hgv; assumption
      obtain ⟨inner', hinner', rfl, -⟩ : c.vars.Fits n place keys' := by cases hgw; assumption
      obtain rfl := Option.some.inj (hinner.symm.trans hinner')
      cases hself with
      | handle hequal => exact (hv.equates_iff hv hc).1 hequal
    | _ => cases heq
  | _ =>
    cases w with
    | list | map | lazy => cases heq
    | _ => simpa only [hv.of_atHand hc rfl, hw.of_atHand hc rfl] using heq

end

/-! ### Membership -/

/-- What the operators `in` and `not in` say of a value and a list, measured by `==`. -/
structure MembershipFollows (c : Context) (l r : Expr) (x : Value) (xs : List Value) : Prop where
  answer : ∃ found, (c.eval (.binary .isIn l r)).1 = .ok (.bool found) ∧
    (c.eval (.binary .notIn l r)).1 = .ok (.bool !found)
  /-- An item that is equal is found if it has the same handles. -/
  finds : ∀ y ∈ xs, c.Equates x y → x.SameHandles y →
    (c.eval (.binary .isIn l r)).1 = .ok (.bool true)
  /-- What is found is equal, unless there is a lazy mapping in it that does not equal itself. -/
  found : (c.eval (.binary .isIn l r)).1 = .ok (.bool true) →
    ∃ y ∈ xs, x.SameHandles y ∧ (x.Whole c.EqualsItself → c.Equates x y)
  /-- Without lazy mappings there is no difference. -/
  atHand : x.AtHand → (∀ y ∈ xs, y.AtHand) →
    ((c.eval (.binary .isIn l r)).1 = .ok (.bool true) ↔ ∃ y ∈ xs, c.Equates x y)

/-- **Membership in lists follows equality,** in any context of values at hand, whatever was done
to it, and for all values and items that can be read. -/
theorem membershipFollows_performAll (env : Environment) (parent values : Dict Value)
    (hv : (Value.map values).InOrder ∧ (Value.map values).AtHand)
    (hp : (Value.map parent).AtHand) (hg : (Value.map env.globals).AtHand) (ops : List Operation)
    (hops : ∀ op ∈ ops, op.Brings Value.InOrder ∧ op.Brings Value.AtHand) (c : Context)
    (hc : c = (ofValues env parent values).performAll ops) {l r : Expr} {x : Value}
    {xs : List Value} (hl : (c.eval l).1 = .ok x) (hr : (c.eval r).1 = .ok (.list xs))
    (hx : c.Opens x) (hxs : ∀ y ∈ xs, c.Opens y) : c.MembershipFollows l r x xs := by
  have hplain : c.Plain Value.AtHand := by
    rw [hc]
    exact .ofValues_performAll (fun _ => Value.atHand_map.1)
      (fun s text => (Value.coerce_solid s text).atHand) hv hp hg hops
  have hrest := hplain.atRest
  have hisIn : (c.eval (.binary .isIn l r)).1 = .ok (.bool (Value.memberOf x xs)) := by
    rw [hrest.eval_binary hl hr hx.isUndefined_eq_false rfl, run_result]
    rfl
  have hnotIn : (c.eval (.binary .notIn l r)).1 = .ok (.bool !(Value.memberOf x xs)) := by
    rw [hrest.eval_binary hl hr hx.isUndefined_eq_false rfl, run_result]
    rfl
  have hin : (c.eval (.binary .isIn l r)).1 = .ok (.bool true) ↔ ∃ y ∈ xs, x.beq y = true := by
    rw [hisIn, Except.ok.injEq, Value.bool.injEq, Value.memberOf, List.any_eq_true]
    simp only [Value.beq_comm x]
  refine ⟨⟨_, hisIn, hnotIn⟩, fun y hy hequal hsame => hin.2 ⟨y, hy, ?_⟩, fun h => ?_,
    fun hxhand hxshand => ?_⟩
  · exact beq_of_opened hrest hx (hxs y hy) hsame ((hx.equates_iff (hxs y hy) hrest).1 hequal)
  · obtain ⟨y, hy, heq⟩ := hin.1 h
    refine ⟨y, hy, .of_beq heq, fun hself => (hx.equates_iff (hxs y hy) hrest).2 ?_⟩
    have hgxs := hplain.related_eval hr
    cases hgxs with
    | list hgys =>
      exact beq_opened hrest hx (hxs y hy) (hplain.related_eval hl)
        (List.forall₂_same.1 hgys y hy) hself heq
  · rw [hin]
    refine exists_congr fun y => and_congr_right fun hy => ?_
    rw [hx.equates_iff (hxs y hy) hrest, hx.of_atHand hrest hxhand,
      (hxs y hy).of_atHand hrest (hxshand y hy)]

/-- A lazy mapping that is sought among another one and itself. -/
theorem membershipFollows_lazy :
    let c := (ofValues {} [] [("m", .map [("a", .int 1)])]).performAll
      [.set "n" (.map [("a", .int 1)])]
    let m := Value.lazy ["m"] ["a"]
    let n := Value.lazy ["n"] ["a"]
    (c.eval (.name "m")).1 = .ok m ∧ (c.eval (.list [.name "n", .name "m"])).1 = .ok (.list [n, m]) ∧
    (∀ y ∈ [n, m], c.Opens y) ∧
    (c.eval (.binary .isIn (.name "m") (.list [.name "n", .name "m"]))).1 = .ok (.bool true) ∧
    (c.eval (.binary .notIn (.name "m") (.list [.name "n", .name "m"]))).1 = .ok (.bool false) := by
  intro c m n
  have hopens : ∀ y ∈ [n, m], c.Opens y := by
    simp only [List.forall_mem_cons, List.not_mem_nil, false_implies, implies_true, and_true]
    exact ⟨⟨_, rfl⟩, ⟨_, rfl⟩⟩
  have hr : (c.eval (.list [.name "n", .name "m"])).1 = .ok (.list [n, m]) := rfl
  have hfollows := membershipFollows_performAll {} [] [("m", .map [("a", .int 1)])]
    (by decide) (by decide) (by decide) [.set "n" (.map [("a", .int 1)])] (by decide) c rfl
    (l := .name "m") (x := m) rfl hr (hopens m (by simp)) hopens
  have hin := hfollows.finds m (by simp) rfl (.handle ["m"] ["a"] ["a"])
  obtain ⟨found, hfound, hnot⟩ := hfollows.answer
  obtain rfl := Value.bool.inj (Except.ok.inj (hfound.symm.trans hin))
  exact ⟨rfl, hr, hopens, hin, hnot⟩

/-- A lazy mapping is not found in a list of another one that it equals. -/
theorem render_in_equal :
    ((ofValues {} [] [("m", .map [("a", .int 1)]), ("n", .map [("a", .int 1)])]).render
      "{{ m in [n] }} {{ m == n }}").1 = .ok "False True" := by
  decide +kernel

end Context
end MailMerge
