/-
# Scope

What a name stands for is decided by where it is, and by nothing that happened before.  In a
template the scopes nest (`Evaluation.Nests`): statements bind names in the innermost scope, and
each turn of a loop has a scope of its own.  In a context the innermost scope that binds a name
comes before the parent scope, the globals and the variables, in this order, and a variable has
one value, the one that the context gives it, from whatever scopes its template is first asked
for (`Context.Resolves`); a variable behind a parent value or a global is never rendered
(`Context.Shields`).
-/

import MailMerge.Proofs.Context.Points
import MailMerge.Proofs.Context.Shadow
import MailMerge.Proofs.Evaluation.Scopes

namespace MailMerge

namespace Evaluation

/-- How the scopes of a template nest. -/
structure Nests (env : Environment) (a : Access) : Prop where
  /-- A render that succeeds leaves the scopes behind the innermost one as they were. -/
  outer : ∀ nodes inner outer m text scopes m',
    renderNodes env a nodes (inner :: outer) m = .ok (text, scopes) m' →
    ∃ inner', scopes = inner' :: outer
  /-- A loop that succeeds and has items leaves all scopes as they were, and its turns run one
  after the other, each in a scope of its own in front of these. -/
  loop : ∀ targets sequence body otherwise scopes m text scopes' m',
    renderNode env a (.loop targets sequence body otherwise) scopes m = .ok (text, scopes') m' →
    ∃ v items m₁ m₂, eval env a scopes sequence m = .ok v m₁ ∧
      loopItems a targets.length v m₁ = .ok items m₂ ∧ (items ≠ [] →
        scopes' = scopes ∧ TurnsRun env a targets body scopes items.length 0 items m₂ text m')
  /-- The scope that a turn begins with has the targets and the loop's information in it. -/
  turn : ∀ targets item frame i n, bound? targets item = some frame →
    Dict.find? (turnScope frame i n) "loop" = some (loopInfo i n) ∧
    ∀ s, (Dict.find? (turnScope frame i n) s).isSome = true ↔ s = "loop" ∨ s ∈ targets

/-- **Scopes nest,** in every template and for whatever there is to ask. -/
theorem nests (env : Environment) (a : Access) : Nests env a where
  outer nodes inner outer m text scopes m' h :=
    (keepsOuter_renderNodes nodes inner m _ m' trivial h).1
  loop _ _ _ _ _ _ _ _ _ h := exists_turnsRun_of_loop h
  turn targets item frame i n h := by
    refine ⟨by rw [turnScope, Dict.find?_insert, if_pos rfl], fun s => ?_⟩
    rw [turnScope, Dict.find?_insert]
    split_ifs with hs
    · simp [hs]
    · rw [isSome_find?_bound? h, or_iff_right hs]

end Evaluation

namespace Context

/-- How names are resolved in a context. -/
structure Resolves (c : Context) : Prop where
  /-- A name stands for its innermost binding, or else for the parent value, the global or the
  variable of this name, or else for nothing. -/
  name : ∀ depth scopes s m, Evaluation.eval c.env (c.accessAt depth) scopes (.name s) m =
    match (scopes.findSome? fun scope => Dict.find? scope s).or
      ((Dict.find? c.parent s).or (Dict.find? c.env.globals s)) with
    | some v => .ok v m
    | none =>
      if Dict.has m.vars s then (c.accessAt depth).entry [] s m else .ok (.undefined s) m
  /-- Wherever a template reads a name that no scope binds there, it gets what the context gives
  for the name, value or error. -/
  template : ∀ needed template scopes₀ e scopes m₁ s m₂,
    Evaluation.Evaluates c.env c.access needed template scopes₀ c.memory e scopes m₁ →
    Evaluation.ComesTo c.env c.access scopes e m₁ (.name s) m₂ → scopes.find? s = none →
    Finish.result (Evaluation.eval c.env c.access scopes (.name s) m₂) = (c.get s).1
  /-- So does the template of a variable, wherever it is asked for, unless it is on a cycle: a
  value that it gets for a name is the one that the context gives. -/
  inside : ∀ depth m₀ needed template scopes₀ e scopes m₁ s m₂ v, c.Renders depth m₀ →
    Evaluation.Evaluates c.env (c.accessAt depth) needed template scopes₀ m₀ e scopes m₁ →
    Evaluation.ComesTo c.env (c.accessAt depth) scopes e m₁ (.name s) m₂ →
    scopes.find? s = none →
    Finish.result (Evaluation.eval c.env (c.accessAt depth) scopes (.name s) m₂) = .ok v →
    (c.get s).1 = .ok v

/-- No read renders an entry under a name of the parent scope or of the globals: a template there
waits behind the read as before it, and might have had any other source. -/
def Shields (c : Context) : Prop :=
  ∀ spot source step, c.Shadows (Spot.root spot) → c.vars.face? spot = some (.template source) →
    (c.read step).2.vars.face? spot = some (.template source) ∧ ∀ source',
      (c.withSource spot source').read step =
        ((c.read step).1, (c.read step).2.withSource spot source')

/-- A name that no scope binds is a parent value, a global or a variable. -/
theorem name_accessAt (c : Context) (depth : Nat) (s : String) (m : Memory) :
    (c.accessAt depth).name s m =
      match (Dict.find? c.parent s).or (Dict.find? c.env.globals s) with
      | some v => .ok (some v) m
      | none =>
        if Dict.has m.vars s then (some <$> (c.accessAt depth).entry [] s) m else .ok none m := by
  rw [accessAt, Reading.access_eq]
  dsimp only
  rw [Reading.name]
  cases Dict.find? c.parent s <;> cases Dict.find? c.env.globals s <;> rfl

/-- **A name goes by the innermost scope,** then by the parent scope, the globals and the
variables. -/
theorem eval_name (c : Context) (depth : Nat) (scopes : Scopes) (s : String) (m : Memory) :
    Evaluation.eval c.env (c.accessAt depth) scopes (.name s) m =
      match (scopes.findSome? fun scope => Dict.find? scope s).or
        ((Dict.find? c.parent s).or (Dict.find? c.env.globals s)) with
      | some v => .ok v m
      | none =>
        if Dict.has m.vars s then (c.accessAt depth).entry [] s m else .ok (.undefined s) m := by
  rw [← Scopes.find?_eq_findSome?, Evaluation.eval, Evaluation.name]
  rcases scopes.find? s with _ | v
  · have hname := c.name_accessAt depth s m
    rw [Option.none_or]
    revert hname
    rcases (Dict.find? c.parent s).or (Dict.find? c.env.globals s) with _ | v <;> intro hname
    · dsimp only at hname ⊢
      by_cases hhas : Dict.has m.vars s = true
      · rw [if_pos hhas] at hname ⊢
        rw [Read.bind_congr hname, bind_map_left]
        simp only [Option.getD_some, bind_pure]
      · rw [if_neg hhas] at hname ⊢
        exact Read.bind_congr (y := pure none) hname _
    · exact Read.bind_congr (y := pure (some v)) hname _
  · rfl

theorem AtRest.resolves {c : Context} (h : c.AtRest) : c.Resolves where
  name := c.eval_name
  template _ _ _ _ _ _ _ _ he hs hfree := (h.get_eq_result he hs hfree).symm
  inside _ _ _ _ _ _ _ _ _ _ _ hr he hs hfree hv := h.get_of_renders hr he hs hfree hv

/-- **Scope discipline.**  In every template the scopes nest, whatever there is to ask.  Every
context, whatever was done to it, resolves names by them; and if its values are at hand, it
renders no variable behind a parent value or a global. -/
theorem resolves_performAll (env : Environment) (parent values : Dict Value)
    (hv : (Value.map values).InOrder) (ops : List Operation)
    (hops : ∀ op ∈ ops, op.Brings Value.InOrder) (c : Context)
    (hc : c = (ofValues env parent values).performAll ops) :
    (∀ env a, Evaluation.Nests env a) ∧ c.Resolves ∧
      ((Value.map parent).AtHand → (Value.map env.globals).AtHand → (Value.map values).AtHand →
        (∀ op ∈ ops, op.Brings Value.AtHand) → c.Shields) := by
  subst hc
  refine ⟨Evaluation.nests, ((AtRest.ofValues env parent hv).performAll hops).resolves,
    fun hp hg hhand hbrings spot source step hshadow hs => ?_⟩
  have hplain : ((ofValues env parent values).performAll ops).Plain Value.AtHand :=
    .ofValues_performAll (fun _ => Value.atHand_map.1)
      (fun s text => (Value.coerce_solid s text).atHand) ⟨hv, hhand⟩ hp hg
      fun op ho => ⟨hops op ho, hbrings op ho⟩
  exact hplain.read_shadowed hshadow hs step

/-- A variable whose template mentions `x`, read where a loop binds `x`, in a context with a
shadowed variable that refers to itself. -/
theorem resolves_performAll_loop :
    let c := (ofValues {} [("who", .str "parent")] [("name", .str "{{ x }}"),
      ("who", .str "{{ who }}"), ("x", .str "lazy")]).performAll [.set "x" (.str "later")]
    (∃ scopes m, Evaluation.Evaluates {} c.access true
        [.loop ["x"] (.list [.str "turn"]) [.output (.name "name")] none] [[]] c.memory
        (.name "name") scopes m ∧ scopes.find? "x" = some (.str "turn") ∧
      (Finish.result (Evaluation.eval {} c.access scopes (.name "name") m)).map Value.repr =
        .ok "'later'") ∧
    ∀ source, ((c.withSource ([], "who") source).read (.render "{{ who }}, {{ name }}")).1 =
      .ok (.text "parent, later") := by
  intro c
  obtain ⟨-, hresolves, hshields⟩ := resolves_performAll {} [("who", .str "parent")]
    [("name", .str "{{ x }}"), ("who", .str "{{ who }}"), ("x", .str "lazy")] (by decide)
    [.set "x" (.str "later")] (by decide) c rfl
  have hpoint : Evaluation.Evaluates c.env c.access true
      [.loop ["x"] (.list [.str "turn"]) [.output (.name "name")] none] [[]] c.memory
      (.name "name") _ _ :=
    .turn rfl rfl (show [Value.str "turn"] = [] ++ [.str "turn"] from rfl) rfl rfl .output
  refine ⟨⟨_, _, hpoint, rfl, ?_⟩, fun source => ?_⟩
  · rw [show ({} : Environment) = c.env from rfl,
      hresolves.template _ _ _ _ _ _ _ _ hpoint .here rfl]
    decide +kernel
  · have hsame := (hshields (by decide) (by decide) (by decide) (by decide) ([], "who")
      "{{ who }}" (.render "{{ who }}, {{ name }}") rfl rfl).2 source
    have hread : (c.read (.render "{{ who }}, {{ name }}")).1 = .ok (.text "parent, later") := by
      decide +kernel
    exact (congrArg Prod.fst hsame).trans hread

end Context
end MailMerge
