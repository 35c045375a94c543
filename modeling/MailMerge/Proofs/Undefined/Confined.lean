/-
# Undefined values are confined

Whatever template is rendered, an undefined value is seen at the top of an expression or not at
all: it is in no list and in no mapping.  From the top it goes on only to the places that allow
it, which are the conditions, `and`, `or` and `not`, the tests, the filter `default`, the
arguments of filters and tests, and assignments; anywhere else it is an error of the whole
render (`Evaluation.confines`).  All of this is for any resolver of defined values; a context
over solid values is one (`Context.defined_access`).
-/

import MailMerge.Proofs.Context.Order
import MailMerge.Proofs.Undefined.Reach
import MailMerge.Proofs.Undefined.Resolvers

namespace MailMerge

namespace Context

variable {c : Context}

/-- A context over solid values has an access to whole values. -/
theorem defined_access (hp : (Value.map c.parent).Solid)
    (hg : (Value.map c.env.globals).Solid) :
    c.access.Defined (Reading.Stocked c.vars (Entry.waitingIn c.vars)) c.vars.Holds :=
  Reading.defined_access hp hg

theorem AtRest.stocked (h : c.AtRest) (hv : c.vars.Shows Value.Solid) :
    Reading.Stocked c.vars (Entry.waitingIn c.vars) c.memory :=
  ⟨h.order, hv, fun _ _ hf => hf, fun _ hf => hf, le_rfl⟩

end Context

namespace Evaluation

/-- How evaluation deals with undefined values. -/
structure Confines (env : Environment) (a : Access) (J : Memory → Prop) (H : Handles) : Prop where
  /-- A template evaluates its expressions in scopes of values that are undefined or whole. -/
  reached : ∀ needed template m e scopes m', J m →
    Evaluates env a needed template [[]] m e scopes m' → scopes.Loose H ∧ J m'
  /-- In such scopes an expression gives an error, an undefined value, or a whole one. -/
  value : ∀ scopes m e v m', scopes.Loose H → J m → eval env a scopes e m = .ok v m' →
    v.isUndefined = true ∨ v.Whole H
  /-- An undefined value in a place that needs a defined one is an error of the expression. -/
  part : ∀ scopes m e part m', Needs env a scopes e m part m' →
    GivesUndefined (eval env a scopes part) m' → Fails (eval env a scopes e) m
  /-- An error anywhere, and an undefined value that is put out or run through, is an error of
  the render. -/
  render : ∀ needed nodes scopes m e scopes' m',
    Evaluates env a needed nodes scopes m e scopes' m' →
    Fails (eval env a scopes' e) m' ∨ needed = true ∧ GivesUndefined (eval env a scopes' e) m' →
    Fails (renderNodes env a nodes scopes) m

/-- **Undefined cannot slip through,** whatever the resolver of defined values is. -/
theorem confines {J : Memory → Prop} {H : Handles} {a : Access} (ha : a.Defined J H)
    (env : Environment) : Confines env a J H where
  reached _ _ _ _ _ _ hm h := h.loose ha Scopes.loose_new hm
  value _ m e v m' hs hm hrun := (Ensures.eval ha hs e m v m' hm hrun).1
  part _ _ _ _ _ h hu := h.fails hu
  render _ _ _ _ _ _ _ h he := h.fails he

/-- A key that a lazy mapping does not have, under a filter. -/
theorem confines_missing :
    let c := Context.ofValues {} [] [("n", .map [("x", .str "{{ 1 + 1 }}")])]
    Confines {} c.access (Reading.Stocked c.vars (Entry.waitingIn c.vars)) c.vars.Holds ∧
    Reading.Stocked c.vars (Entry.waitingIn c.vars) c.memory ∧
    Fails (renderNodes {} c.access
      [.output (.filter (.attr (.name "n") "z") "upper" [] [])] [[]]) c.memory := by
  intro c
  have hconfines := confines (Context.defined_access (c := c) (by decide) (by decide)) {}
  have hstocked := (Context.AtRest.ofValues {} [] (by decide) : c.AtRest).stocked
    (Vars.all_ofDict (.shows fun _ => Value.solid_map.1) (by decide))
  have hmissing : GivesUndefined (eval {} c.access [[]] (.attr (.name "n") "z")) c.memory :=
    ⟨"z", c.memory, rfl⟩
  refine ⟨hconfines, hstocked, hconfines.render true _ _ _ _ _ _ .output (.inl ?_)⟩
  exact hconfines.part _ _ _ _ _ (.subject rfl (by decide) (by decide)) hmissing

end Evaluation
end MailMerge
