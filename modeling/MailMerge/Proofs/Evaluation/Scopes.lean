/-
# Scopes

Nodes bind names in the innermost scope only, so a render that succeeds leaves the scopes
outside as they were (`Evaluation.keepsOuter_renderNodes`).  Each turn of a loop has a scope of
its own, which begins with the targets and the loop's information and nothing else, and ends
with the turn (`Evaluation.TurnsRun`); so a loop leaves all scopes as they were.

This holds whatever there is to ask: names and variables play no part in it.
-/

import MailMerge.Evaluation.Render
import MailMerge.Proofs.Dict
import MailMerge.Proofs.Undefined.Ensures

namespace MailMerge

/-- The innermost scope that binds a name counts. -/
theorem Scopes.find?_eq_findSome? (scopes : Scopes) (s : String) :
    scopes.find? s = scopes.findSome? fun scope => Dict.find? scope s := by
  induction scopes with
  | nil => rfl
  | cons scope outer ih =>
    rw [Scopes.find?, List.findSome?_cons, ih]
    cases Dict.find? scope s <;> rfl

namespace Evaluation

variable {env : Environment} {a : Access} {outer scopes scopes' : Scopes} {m m' : Memory}
  {text : String} {targets : List String} {sequence : Expr} {body : List Node}
  {otherwise : Option (List Node)} {item : Value}

/-! ### The scopes outside -/

/-- A render that leaves the scopes behind the innermost one as they are. -/
abbrev KeepsOuter (outer : Scopes) (x : Read (String × Scopes)) : Prop :=
  Ensures (fun _ => True) (fun r => ∃ inner, r.2 = inner :: outer) x

theorem ensures_any {α : Type} (x : Read α) : Keeps (fun _ => True) x :=
  fun _ _ _ _ _ => ⟨trivial, trivial⟩

mutual

theorem keepsOuter_renderNode (node : Node) (inner : Dict Value) :
    KeepsOuter outer (renderNode env a node (inner :: outer)) := by
  match node with
  | .text s => exact .pure ⟨inner, rfl⟩
  | .output e =>
    exact (ensures_any _).bind fun v _ => (ensures_any _).bind fun _ _ => .pure ⟨inner, rfl⟩
  | .set target e => exact (ensures_any _).bind fun v _ => .pure ⟨Dict.insert target v inner, rfl⟩
  | .branch cases otherwise =>
    refine (keepsOuter_renderCases cases inner).bind fun result hresult => ?_
    cases result with
    | none => exact keepsOuter_renderElse otherwise inner
    | some r => exact .pure (hresult r rfl)
  | .loop targets sequence body otherwise =>
    refine (ensures_any _).bind fun v _ => (ensures_any _).bind fun items _ => ?_
    cases items with
    | nil => exact keepsOuter_renderElse otherwise inner
    | cons item rest => exact (ensures_any _).bind fun _ _ => .pure ⟨inner, rfl⟩

theorem keepsOuter_renderCases (cases : List (Expr × List Node)) (inner : Dict Value) :
    Ensures (fun _ => True) (fun result => ∀ r, result = some r → ∃ inner, r.2 = inner :: outer)
      (renderCases env a cases (inner :: outer)) := by
  match cases with
  | [] => exact .pure fun _ h => by cases h
  | (condition, body) :: rest =>
    refine (ensures_any _).bind fun v _ => ?_
    split
    · refine (keepsOuter_renderNodes body inner).bind fun r hr => .pure ?_
      rintro _ ⟨⟩
      exact hr
    · exact keepsOuter_renderCases rest inner

theorem keepsOuter_renderElse (otherwise : Option (List Node)) (inner : Dict Value) :
    KeepsOuter outer (renderElse env a otherwise (inner :: outer)) := by
  match otherwise with
  | none => exact .pure ⟨inner, rfl⟩
  | some body => exact keepsOuter_renderNodes body inner

/-- **A render binds names in the innermost scope only.** -/
theorem keepsOuter_renderNodes (nodes : List Node) (inner : Dict Value) :
    KeepsOuter outer (renderNodes env a nodes (inner :: outer)) := by
  match nodes with
  | [] => exact .pure ⟨inner, rfl⟩
  | node :: rest =>
    refine (keepsOuter_renderNode node inner).bind ?_
    rintro ⟨text, scopes⟩ ⟨inner, rfl⟩
    refine (keepsOuter_renderNodes rest inner).bind ?_
    rintro ⟨more, scopes⟩ hscopes
    exact .pure hscopes

end

/-! ### Loops -/

/-- What an item binds the targets of a loop to, if it fits them. -/
def bound? : List String → Value → Option (Dict Value)
  | [target], item => some [(target, item)]
  | targets, .list parts =>
    if parts.length = targets.length then some (Dict.ofList (targets.zip parts)) else none
  | _, _ => none

theorem setAll_eq (pairs : List (String × Value)) (inner : Dict Value) :
    pairs.foldl (fun s p => Scopes.set s p.1 p.2) (inner :: outer) =
      pairs.foldl (fun d p => Dict.insert p.1 p.2 d) inner :: outer := by
  induction pairs generalizing inner with
  | nil => rfl
  | cons p pairs ih => exact ih _

/-- Targets are bound in a scope of their own. -/
theorem bindTargets_eq (targets : List String) (item : Value) (outer : Scopes) :
    bindTargets targets item ([] :: outer) = match bound? targets item with
      | some frame => pure (frame :: outer)
      | none => throw (.invalid (.cannotUnpack item.kind targets.length)) := by
  unfold bindTargets
  split
  · rfl
  · rename_i targets parts hone
    rw [bound?]
    · split_ifs
      · exact congrArg (fun s => (pure s : Read Scopes)) (setAll_eq _ _)
      · rfl
    · exact hone
  · rename_i targets item hone hlist
    rw [bound?]
    · exact hone
    · exact hlist

/-- An item binds the targets and nothing else. -/
theorem isSome_find?_bound? {frame : Dict Value} (h : bound? targets item = some frame)
    (s : String) : (Dict.find? frame s).isSome = true ↔ s ∈ targets := by
  unfold bound? at h
  split at h
  · cases h
    rw [Dict.find?_cons, List.mem_singleton]
    split_ifs with hs <;> simp [hs]
  · rename_i targets parts hone
    split_ifs at h with hlength
    cases h
    rw [Dict.isSome_find?_ofList, Dict.keys, List.map_fst_zip hlength.ge]
  · cases h

/-- The scope that a turn begins with. -/
def turnScope (frame : Dict Value) (i n : Nat) : Dict Value :=
  Dict.insert "loop" (loopInfo i n) frame

/-- Turns of a loop from turn `i` of `n` on, from a memory to another one, with the text of all of
them.  Each runs in a scope of its own in front of the scopes outside, and leaves these to the
next one as it found them. -/
inductive TurnsRun (env : Environment) (a : Access) (targets : List String) (body : List Node)
    (outer : Scopes) (n : Nat) : Nat → List Value → Memory → String → Memory → Prop
  | nil (i : Nat) (m : Memory) : TurnsRun env a targets body outer n i [] m "" m
  | cons {i : Nat} {item : Value} {rest : List Value} {frame inner : Dict Value}
    {text more : String} {m m₁ m₂ : Memory} : bound? targets item = some frame →
    renderNodes env a body (turnScope frame i n :: outer) m = .ok (text, inner :: outer) m₁ →
    TurnsRun env a targets body outer n (i + 1) rest m₁ more m₂ →
    TurnsRun env a targets body outer n i (item :: rest) m (text ++ more) m₂

/-- Turns that succeed run one after the other, each in its own scope. -/
theorem turnsRun_of_turns {i n : Nat} {items : List Value}
    (h : turns (renderNodes env a body) targets outer n i items m = .ok text m') :
    TurnsRun env a targets body outer n i items m text m' := by
  induction items generalizing i m text with
  | nil =>
    cases h
    exact .nil i _
  | cons item rest ih =>
    obtain ⟨inner, m₁, hbind, h⟩ := Read.exists_of_bind_ok h
    rw [bindTargets_eq] at hbind
    split at hbind
    · cases hbind
      obtain ⟨⟨text, scopes⟩, m₂, hbody, hrest⟩ := Read.exists_of_bind_ok h
      obtain ⟨more, m₃, hmore, hend⟩ := Read.exists_of_bind_ok hrest
      obtain ⟨inner, hscopes⟩ := (keepsOuter_renderNodes _ _ _ _ _ trivial hbody).1
      cases hend
      cases hscopes
      exact .cons ‹_› hbody (ih hmore)
    · cases hbind

/-- **A loop that has items leaves all scopes as they were,** and each of its turns begins with
the scopes outside and one of its own. -/
theorem exists_turnsRun_of_loop
    (h : renderNode env a (.loop targets sequence body otherwise) scopes m =
      .ok (text, scopes') m') :
    ∃ v items m₁ m₂, eval env a scopes sequence m = .ok v m₁ ∧
      loopItems a targets.length v m₁ = .ok items m₂ ∧ (items ≠ [] →
        scopes' = scopes ∧ TurnsRun env a targets body scopes items.length 0 items m₂ text m') := by
  obtain ⟨v, m₁, hv, h⟩ := Read.exists_of_bind_ok h
  obtain ⟨items, m₂, hitems, h⟩ := Read.exists_of_bind_ok h
  refine ⟨v, items, m₁, m₂, hv, hitems, fun hne => ?_⟩
  cases items with
  | nil => exact absurd rfl hne
  | cons item rest =>
    obtain ⟨text, m₃, hturns, h⟩ := Read.exists_of_bind_ok h
    cases h
    exact ⟨rfl, turnsRun_of_turns hturns⟩

end Evaluation
end MailMerge
