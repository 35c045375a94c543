/-
# The tests `eq` and `in`

The test `eq` compares as the operator `==` does.  The test `in` looks a value up among the items
of a container, where the operator `in` has a case for each kind of container.  They agree on
lists, mappings and lazy mappings.  The items of a text are its characters, so the test finds no
text in a text but a single character (`Operator.memberOf_of_contains`).
-/

import MailMerge.Context
import MailMerge.Proofs.Evaluation.Operands
import MailMerge.Proofs.Template.Scan
import MailMerge.Proofs.Undefined.Values

namespace MailMerge

theorem Text.contains_singleton (c : Char) (cs : List Char) :
    Text.contains [c] cs = cs.contains c := by
  induction cs with
  | nil => rfl
  | cons d cs ih =>
    have hstart : Text.startsWith [c] (d :: cs) = (c == d) := by
      by_cases h : c = d <;> simp [Text.startsWith, Text.dropLead?, h]
    rw [Text.contains, ih, hstart, List.contains_cons]

theorem Dict.has_eq_contains_keys {α : Type} (d : Dict α) (key : String) :
    d.has key = d.keys.contains key := by
  rw [Bool.eq_iff_iff, Dict.has, List.contains_iff_mem, Option.isSome_iff_ne_none, ne_eq,
    Dict.find?_eq_none_iff, not_not]

namespace Value

/-- Whether a text is sought in a text, and it is not a single character. -/
def soughtInText (item container : Value) : Bool :=
  match item, container with
  | .str part, .str _ => part.length != 1
  | _, _ => false

theorem memberOf_map_str (key : String) (keys : List String) :
    memberOf (str key) (keys.map str) = keys.contains key := by
  rw [memberOf, List.any_map, List.contains_eq_any_beq]
  congr 1
  funext k
  exact Bool.beq_comm

/-- Among the characters of a text stand the single characters that occur in it. -/
theorem memberOf_chars (part s : String) :
    memberOf (str part) (chars s) =
      (Text.contains part.toList s.toList && part.length == 1) := by
  have hchars : chars s = (s.toList.map Char.toString).map str := by simp [chars]
  rw [hchars, memberOf_map_str]
  by_cases hlength : part.length = 1
  · obtain ⟨c, hc⟩ := List.length_eq_one_iff.1 hlength
    obtain rfl : part = c.toString := String.toList_injective (by simpa using hc)
    have hchar : Function.Injective Char.toString := fun d e h => by simpa using h
    rw [beq_iff_eq.2 hlength, Bool.and_true, Char.toString_eq_singleton, String.toList_singleton,
      Text.contains_singleton, Bool.eq_iff_iff, List.contains_iff_mem, List.contains_iff_mem,
      ← Char.toString_eq_singleton, List.mem_map_of_injective hchar]
  · have hmissing : part ∉ s.toList.map Char.toString := by
      intro hpart
      obtain ⟨c, -, rfl⟩ := List.mem_map.1 hpart
      exact hlength (by simp)
    rw [beq_false_of_ne hlength, Bool.and_false]
    simpa using hmissing

end Value

/-- What holds an item has it among its items, but for a text that is sought in a text. -/
theorem Operator.memberOf_of_contains {container item : Value} {found : Bool} {m m' : Memory}
    (h : Operator.contains container item m = .ok found m') :
    m' = m ∧ ∃ items, container.items = pure items ∧
      Value.memberOf item items = (found && !item.soughtInText container) := by
  cases container with
  | list items =>
    obtain ⟨rfl, rfl⟩ := EStateM.Result.ok.inj h
    have hsought : item.soughtInText (.list items) = false := by cases item <;> rfl
    exact ⟨rfl, items, rfl, by rw [hsought, Bool.not_false, Bool.and_true]⟩
  | str s =>
    cases item with
    | str part =>
      obtain ⟨rfl, rfl⟩ := EStateM.Result.ok.inj h
      exact ⟨rfl, Value.chars s, rfl, by rw [Value.memberOf_chars, Value.soughtInText, bne,
        Bool.not_not]⟩
    | _ => cases h
  | map entries =>
    cases item with
    | str key =>
      obtain ⟨rfl, rfl⟩ := EStateM.Result.ok.inj h
      refine ⟨rfl, _, Value.items_of_isMapping rfl, ?_⟩
      rw [Value.memberOf_map_str, Dict.has_eq_contains_keys]
      exact (Bool.and_true _).symm
    | _ => cases h
  | lazy place keys =>
    cases item with
    | str key =>
      obtain ⟨rfl, rfl⟩ := EStateM.Result.ok.inj h
      refine ⟨rfl, _, Value.items_of_isMapping rfl, ?_⟩
      rw [Value.memberOf_map_str]
      exact (Bool.and_true _).symm
    | _ => cases h
  | _ => cases item <;> cases h

namespace Evaluation

variable {env : Environment} {a : Access} {scopes : Scopes} {l r : Expr} {v w : Value}
  {m m₁ m₂ : Memory}

/-- The tests `eq` and `in` give what the operators `==` and `in` give, and their negations what
`!=` and `not in` give, except that the test `in` takes a text apart into characters. -/
structure TestsFollow (env : Environment) (a : Access) (scopes : Scopes) (l r : Expr) (v w : Value)
    (m : Memory) : Prop where
  eq : eval env a scopes (.test l "eq" [r] [] false) m = eval env a scopes (.binary .eq l r) m
  ne : eval env a scopes (.test l "eq" [r] [] true) m = eval env a scopes (.binary .ne l r) m
  isIn : ∀ {u m'}, eval env a scopes (.binary .isIn l r) m = .ok u m' → ∃ found, u = .bool found ∧
    eval env a scopes (.test l "in" [r] [] false) m =
      .ok (.bool (found && !v.soughtInText w)) m'
  notIn : ∀ {u m'}, eval env a scopes (.binary .notIn l r) m = .ok u m' → ∃ missing,
    u = .bool missing ∧ eval env a scopes (.test l "in" [r] [] true) m =
      .ok (.bool (missing || v.soughtInText w)) m'

/-- **The tests `eq` and `in` follow the operators,** for all expressions with defined values. -/
theorem testsFollow (hl : eval env a scopes l m = .ok v m₁) (hr : eval env a scopes r m₁ = .ok w m₂)
    (hv : v.isUndefined = false) (hw : w.isUndefined = false) :
    TestsFollow env a scopes l r v w m := by
  have htest : ∀ {label test} negated, ValueTest.named? label = some test →
      eval env a scopes (.test l label [r] [] negated) m =
        (do return .bool ((← test.holds a v ⟨[w], []⟩) != negated) : Read Value) m₂ :=
    fun negated ht => eval_test hl (evalArgs_single hr) rfl ht negated
  have hequal : ValueTest.eq.holds a v ⟨[w], []⟩ = Operator.equal a v w := rfl
  have hfound : ∀ {found : Bool} {m'} negated, Operator.contains w v m₂ = .ok found m' →
      eval env a scopes (.test l "in" [r] [] negated) m =
        .ok (.bool ((found && !v.soughtInText w) != negated)) m' := by
    intro found m' negated hcontains
    obtain ⟨rfl, items, hitems, hmember⟩ := Operator.memberOf_of_contains hcontains
    have hholds : ValueTest.isIn.holds a v ⟨[w], []⟩ = pure (Value.memberOf v items) := by
      change (w.defined >>= fun w => w.items >>= fun items => pure (Value.memberOf v items)) = _
      rw [Value.defined_of_not_isUndefined hw, pure_bind, hitems, pure_bind]
    rw [htest negated rfl, hholds, hmember]
    rfl
  refine ⟨?_, ?_, ?_, ?_⟩
  · rw [htest false rfl, hequal, eval_binary hl hr hv hw]
    simp only [Bool.bne_false, Operator.apply]
  · rw [htest true rfl, hequal, eval_binary hl hr hv hw]
    simp only [Bool.bne_true, Operator.apply]
  · intro u m' hop
    rw [eval_binary hl hr hv hw] at hop
    obtain ⟨found, m₃, hcontains, hend⟩ := Read.exists_of_bind_ok hop
    obtain ⟨rfl, rfl⟩ := EStateM.Result.ok.inj hend
    exact ⟨found, rfl, by rw [hfound false hcontains, Bool.bne_false]⟩
  · intro u m' hop
    rw [eval_binary hl hr hv hw] at hop
    obtain ⟨found, m₃, hcontains, hend⟩ := Read.exists_of_bind_ok hop
    obtain ⟨rfl, rfl⟩ := EStateM.Result.ok.inj hend
    refine ⟨!found, rfl, ?_⟩
    rw [hfound true hcontains, Bool.bne_true, Bool.not_and, Bool.not_not]

/-- A key that is sought in a lazy mapping. -/
theorem testsFollow_lazy :
    let c := Context.ofValues {} [] [("m", .map [("a", .int 1)])]
    let run := fun e => eval {} c.access [[]] e c.memory
    run (.str "a") = .ok (.str "a") c.memory ∧ run (.name "m") = .ok (.lazy ["m"] ["a"]) c.memory ∧
    run (.test (.str "a") "in" [.name "m"] [] false) = .ok (.bool true) c.memory ∧
    run (.test (.str "a") "eq" [.name "m"] [] true) = run (.binary .ne (.str "a") (.name "m")) := by
  intro c run
  have hl : run (.str "a") = .ok (.str "a") c.memory := rfl
  have hr : run (.name "m") = .ok (.lazy ["m"] ["a"]) c.memory := rfl
  have hfollow := testsFollow hl hr rfl rfl
  refine ⟨hl, hr, ?_, hfollow.ne⟩
  have hin : run (.binary .isIn (.str "a") (.name "m")) = .ok (.bool true) c.memory := rfl
  obtain ⟨found, hfound, htest⟩ := hfollow.isIn hin
  obtain rfl := Value.bool.inj hfound
  exact htest

/-- The operator `in` finds a part of a text that the test `in` does not find. -/
theorem renderWith_part :
    Environment.renderWith {} []
      "\x7b\x7b 'bc' in 'abc' \x7d\x7d \x7b\x7b 'bc' is in('abc') \x7d\x7d" =
        .ok "True False" := by
  decide +kernel

end Evaluation
end MailMerge
