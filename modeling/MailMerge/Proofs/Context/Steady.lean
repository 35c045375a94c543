/-
# What an expression gives depends on its parts

In a context at rest, reads do not depend on one another, so an expression gives what its parts
give on their own, put together.  Parts with the same value may therefore stand for one another
under operators (`Context.AtRest.eval_swaps`), and the keys of a path may be followed one by one
to the entry that it leads to (`Context.AtRest.eval_path`).
-/

import MailMerge.Proofs.Context.Name

namespace MailMerge

/-- One expression is another one with some occurrences of `x` under operators replaced by `y`. -/
inductive Expr.Swaps (x y : Expr) : Expr → Expr → Prop
  | here : Swaps x y x y
  | same (e : Expr) : Swaps x y e e
  | binary (op : BinaryOp) {l l' r r' : Expr} : Swaps x y l l' → Swaps x y r r' →
    Swaps x y (.binary op l r) (.binary op l' r')
  | neg {e e' : Expr} : Swaps x y e e' → Swaps x y (.neg e) (.neg e')
  | pos {e e' : Expr} : Swaps x y e e' → Swaps x y (.pos e) (.pos e')

/-- The expression that leads to an entry: the name of its variable, and the keys below it. -/
def Expr.path : Spot → Expr
  | ([], key) => .name key
  | (p :: ps, key) => (ps ++ [key]).foldl .attr (.name p)

theorem Expr.path_snoc (place : List String) (q key : String) :
    path (place ++ [q], key) = .attr (path (place, q)) key := by
  cases place with
  | nil => rfl
  | cons p ps =>
    simp only [path, List.cons_append, List.foldl_append, List.foldl_cons, List.foldl_nil]

/-- What is at a place lies in a mapping there. -/
theorem Vars.exists_nested_of_snoc {vars : Vars} {place : List String} {q key : String} {e : Entry}
    (h : vars.lookup? (place ++ [q]) key = some e) :
    ∃ inner, vars.lookup? place q = some (.nested inner) := by
  induction place generalizing vars with
  | nil =>
    obtain ⟨inner, hq, -⟩ := exists_nested_of_lookup? h
    exact ⟨inner, hq⟩
  | cons p ps ih =>
    obtain ⟨deep, hp, he⟩ := exists_nested_of_lookup? h
    obtain ⟨inner, hinner⟩ := ih he
    refine ⟨inner, ?_⟩
    rw [lookup?, hp]
    exact hinner

namespace Context

variable {c : Context}

/-! ### Parts of expressions -/

theorem steady_entry (c : Context) (spot : Spot) : c.Steady fun a => a.entry spot.1 spot.2 := by
  have hsame : (Bridge.all (Entry.heightOf c.vars)).same (0 + 1) spot.1 [] := trivial
  exact (Parallel.entry spot.2 hsame).imp fun _ _ h => h.eq_of_exact (Bridge.all_exact _)

theorem steady_eval (c : Context) (e : Expr) :
    c.Steady fun a => Evaluation.eval c.env a [[]] e :=
  (Parallel.eval (.cons .nil .nil) (.inl (Bridge.all_exact _))).imp
    fun _ _ h => h.eq_of_exact (Bridge.all_exact _)

theorem steady_defined (c : Context) (v : Value) : c.Steady fun _ => v.defined :=
  (Parallel.defined (n := 0) Value.Related.refl_all).imp
    fun _ _ h => h.eq_of_exact (Bridge.all_exact _)

theorem steady_apply (c : Context) (op : BinaryOp) (l r : Value) :
    c.Steady fun a => Operator.apply a op l r :=
  (Parallel.apply Value.Related.refl_all Value.Related.refl_all (.inl (Bridge.all_exact _))).imp
    fun _ _ h => h.eq_of_exact (Bridge.all_exact _)

theorem steady_applyDefined (c : Context) (op : BinaryOp) (u v : Value) :
    c.Steady fun a => v.defined >>= fun v => Operator.apply a op u v :=
  (steady_defined c v).bind fun v => steady_apply c op u v

theorem steady_applyEval (c : Context) (op : BinaryOp) (r : Expr) (u : Value) :
    c.Steady fun a => Evaluation.eval c.env a [[]] r >>= fun v => v.defined >>= fun v =>
      Operator.apply a op u v :=
  (steady_eval c r).bind (steady_applyDefined c op u)

theorem steady_applyTo (c : Context) (op : BinaryOp) (r : Expr) (u : Value) :
    c.Steady fun a => u.defined >>= fun u => Evaluation.eval c.env a [[]] r >>= fun v =>
      v.defined >>= fun v => Operator.apply a op u v :=
  (steady_defined c u).bind (steady_applyEval c op r)

theorem steady_negate (c : Context) (v : Value) : c.Steady fun _ => Operator.negate v :=
  (Parallel.negate (n := 0) Value.Related.refl_all).imp
    fun _ _ h => h.eq_of_exact (Bridge.all_exact _)

theorem steady_affirm (c : Context) (v : Value) : c.Steady fun _ => Operator.affirm v :=
  (Parallel.affirm (n := 0) Value.Related.refl_all).imp
    fun _ _ h => h.eq_of_exact (Bridge.all_exact _)

theorem steady_lookup (c : Context) (v : Value) (key : String) :
    c.Steady fun a => v.lookup a key :=
  (Parallel.lookup (n := 0) Value.Related.refl_all key).imp
    fun _ _ h => h.eq_of_exact (Bridge.all_exact _)

/-! ### Parts in a row -/

/-- Computations with the same result may stand for one another in front of others. -/
theorem AtRest.run_congr {α β : Type} {f f' : Access → Read α} {g g' : Access → α → Read β}
    (h : c.AtRest) (hf : c.Steady f) (hf' : c.Steady f') (hff' : (c.run f).1 = (c.run f').1)
    (hg : ∀ x, c.Steady fun a => g a x) (hg' : ∀ x, c.Steady fun a => g' a x)
    (hgg' : ∀ x, (c.run fun a => g a x).1 = (c.run fun a => g' a x).1) :
    (c.run fun a => f a >>= g a).1 = (c.run fun a => f' a >>= g' a).1 := by
  rw [h.run_bind hf hg, h.run_bind hf' hg', hff']
  exact congrArg _ (funext hgg')

/-- **Arithmetic cannot tell expressions with the same value apart.** -/
theorem AtRest.eval_swaps (h : c.AtRest) {x y : Expr} (hxy : (c.eval x).1 = (c.eval y).1)
    {e e' : Expr} (he : Expr.Swaps x y e e') : (c.eval e).1 = (c.eval e').1 := by
  induction he with
  | here => exact hxy
  | same => rfl
  | @binary op l l' r r' _ _ ihl ihr =>
    refine h.run_congr (steady_eval c l) (steady_eval c l') ihl (steady_applyTo c op r)
      (steady_applyTo c op r') fun u => ?_
    refine h.run_congr (steady_defined c u) (steady_defined c u) rfl (steady_applyEval c op r)
      (steady_applyEval c op r') fun u => ?_
    exact h.run_congr (steady_eval c r) (steady_eval c r') ihr (steady_applyDefined c op u)
      (steady_applyDefined c op u) fun _ => rfl
  | neg _ ih =>
    have hneg := fun v => (steady_defined c v).bind (steady_negate c)
    exact h.run_congr (steady_eval c _) (steady_eval c _) ih hneg hneg fun _ => rfl
  | pos _ ih =>
    have hpos := fun v => (steady_defined c v).bind (steady_affirm c)
    exact h.run_congr (steady_eval c _) (steady_eval c _) ih hpos hpos fun _ => rfl

theorem run_entry_of_value? {spot : Spot} {v : Value}
    (h : Face.value? spot (c.vars.face? spot) = some v) :
    (c.run fun a => a.entry spot.1 spot.2).1 = .ok v := by
  rw [run_result, access, Reading.access_eq]
  exact congrArg Finish.result (Reading.entry_of_value? (m := c.memory) h _)

/-- **An expression reads the entry that it leads to,** if nothing else has the name it starts
with. -/
theorem AtRest.eval_path (h : c.AtRest) {place : List String} {key : String} {e : Entry}
    (hparent : Dict.find? c.parent (Spot.root (place, key)) = none)
    (hglobals : Dict.find? c.env.globals (Spot.root (place, key)) = none)
    (he : c.vars.lookup? place key = some e) :
    (c.eval (.path (place, key))).1 = (c.run fun a => a.entry place key).1 := by
  induction place using List.reverseRecOn generalizing key e with
  | nil =>
    have hbinds : c.Binds key e := ⟨hparent, hglobals, he⟩
    have heval : ∀ a, Evaluation.eval c.env a [[]] (.path ([], key)) =
        a.name key >>= fun o => pure (o.getD (.undefined key)) := fun _ => rfl
    rw [eval, run_result, run_result, heval, Read.bind_congr hbinds.name_eq, bind_map_left]
    simp only [Option.getD_some, bind_pure]
  | append_singleton place q ih =>
    obtain ⟨inner, hinner⟩ := Vars.exists_nested_of_snoc he
    rw [Spot.root_snoc] at hparent hglobals
    have hbase : (c.eval (.path (place, q))).1 =
        .ok (.lazy (place ++ [q]) (Dict.keys inner)) :=
      (ih hparent hglobals hinner).trans
        (run_entry_of_value? (congrArg (Face.value? (place, q)) (Vars.face?_of_lookup? hinner)))
    have hlookup := fun u => (steady_defined c u).bind fun v => steady_lookup c v key
    have hattr := h.run_bind (steady_eval c (.path (place, q))) hlookup
    rw [Expr.path_snoc]
    refine hattr.trans ?_
    rw [show (c.run fun a => Evaluation.eval c.env a [[]] (.path (place, q))).1 = _ from hbase]
    rfl

end Context
end MailMerge
