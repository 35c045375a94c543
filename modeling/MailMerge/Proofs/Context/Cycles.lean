/-
# Reads end, and cycles are reported faithfully

A context of values at hand, whatever was done to it, answers each read with a value or
with an error of the template or of a cycle.  The renders of variables lie no deeper one
inside the other than entries wait, so the limit on their depth is never met, and raising
it changes nothing.  The one thing that keeps a read from its answer is a text that is to be
repeated beyond what a text can hold: the program breaks down over it.
-/

import MailMerge.Proofs.Context.Memo
import MailMerge.Proofs.Reading.Blame

namespace MailMerge

namespace Context

/-- A context at rest whose variables show values with a property, in a scope of values at hand. -/
structure Plain (q : Value → Prop) (c : Context) : Prop where
  atRest : c.AtRest
  vars : c.vars.Shows q
  parent : (Value.map c.parent).AtHand
  globals : (Value.map c.env.globals).AtHand

namespace Plain

variable {c : Context}

/-- **Plain contexts stay plain** if values do that texts stand for. -/
theorem performAll {q : Value → Prop} (hq : ∀ es, q (.map es) → ∀ e ∈ es, q e.2)
    (hcoerce : ∀ s text, q (.coerce s text)) (h : c.Plain q) {ops : List Operation}
    (hops : ∀ op ∈ ops, op.Brings Value.InOrder ∧ op.Brings q) : (c.performAll ops).Plain q where
  atRest := h.atRest.performAll fun op ho => (hops op ho).1
  vars := h.atRest.shows_performAll hq hcoerce h.vars hops
  parent := by
    rw [(c.performAll_scope ops).2]
    exact h.parent
  globals := by
    rw [(c.performAll_scope ops).1]
    exact h.globals

/-- Contexts made of values with a property are plain, whatever was done to them. -/
theorem ofValues_performAll {q : Value → Prop} (hq : ∀ es, q (.map es) → ∀ e ∈ es, q e.2)
    (hcoerce : ∀ s text, q (.coerce s text)) {env : Environment} {parent values : Dict Value}
    (hv : (Value.map values).InOrder ∧ q (.map values)) (hp : (Value.map parent).AtHand)
    (hg : (Value.map env.globals).AtHand) {ops : List Operation}
    (hops : ∀ op ∈ ops, op.Brings Value.InOrder ∧ op.Brings q) :
    ((ofValues env parent values).performAll ops).Plain q :=
  performAll hq hcoerce ⟨.ofValues env parent hv.1, Vars.all_ofDict (.shows hq) hv.2, hp, hg⟩ hops

/-- Runs in a plain context have handles on mappings among its variables only, and their errors
blame variables that were waiting. -/
theorem simulates_access (h : c.Plain Value.AtHand) :
    Simulates (.ground c.vars) (Blames c.memory) (Together c.memory) c.access
      c.access :=
  Reading.blames_access
    (fun s v hf => Value.atHand_map.1 h.parent (s, v) (Dict.mem_of_find? hf))
    (fun s v hf => Value.atHand_map.1 h.globals (s, v) (Dict.mem_of_find? hf))
    ⟨h.atRest.order, h.vars, fun _ _ hf => hf⟩ (le_refl (Entry.waitingIn c.vars))

end Plain

end Context
end MailMerge
