/-
# Expressions whose parts have values

Where the parts of an expression have been evaluated to values, one memory after the other,
the expression ends as the operator, filter or test ends on these values, in the last memory.
-/

import MailMerge.Evaluation.Render
import MailMerge.Proofs.Undefined.Ensures

namespace MailMerge

theorem Value.defined_of_not_isUndefined {v : Value} (h : v.isUndefined = false) :
    v.defined = pure v := by
  cases v with
  | undefined => cases h
  | _ => rfl

namespace Evaluation

variable {env : Environment} {a : Access} {scopes : Scopes} {e l r : Expr} {v w : Value}
  {m m₁ m₂ m₃ : Memory}

/-- A defined value is handed on. -/
theorem eval_defined (h : eval env a scopes e m = .ok v m₁) (hv : v.isUndefined = false) :
    (eval env a scopes e >>= Value.defined) m = .ok v m₁ := by
  rw [Read.bind_of_ok h, Value.defined_of_not_isUndefined hv]
  rfl

theorem eval_binary (hl : eval env a scopes l m = .ok v m₁) (hr : eval env a scopes r m₁ = .ok w m₂)
    (hv : v.isUndefined = false) (hw : w.isUndefined = false) (op : BinaryOp) :
    eval env a scopes (.binary op l r) m = Operator.apply a op v w m₂ := by
  rw [eval, ← bind_assoc, Read.bind_of_ok (eval_defined hl hv), ← bind_assoc,
    Read.bind_of_ok (eval_defined hr hw)]

theorem eval_index (hl : eval env a scopes l m = .ok v m₁) (hr : eval env a scopes r m₁ = .ok w m₂)
    (hv : v.isUndefined = false) (hw : w.isUndefined = false) :
    eval env a scopes (.index l r) m = Operator.index a v w m₂ := by
  rw [eval, ← bind_assoc, Read.bind_of_ok (eval_defined hl hv), ← bind_assoc,
    Read.bind_of_ok (eval_defined hr hw)]

theorem eval_neg (h : eval env a scopes e m = .ok v m₁) (hv : v.isUndefined = false) :
    eval env a scopes (.neg e) m = Operator.negate v m₁ := by
  rw [eval, ← bind_assoc, Read.bind_of_ok (eval_defined h hv)]

theorem evalArgs_single (h : eval env a scopes e m = .ok v m₁) :
    evalArgs env a scopes [e] m = .ok [v] m₁ := by
  rw [evalArgs, Read.bind_of_ok h]
  rfl

section

variable {args : List Expr} {kwargs : List (String × Expr)} {vs : List Value} {ks : Dict Value}
  (he : eval env a scopes e m = .ok v m₁) (hargs : evalArgs env a scopes args m₁ = .ok vs m₂)
  (hkwargs : evalKwargs env a scopes [] kwargs m₂ = .ok ks m₃)
include he hargs hkwargs

theorem eval_filter {label : String} {filter : Filter} (hf : env.filter? label = some filter) :
    eval env a scopes (.filter e label args kwargs) m = filter.apply a v ⟨vs, ks⟩ m₃ := by
  simp only [eval, hf]
  rw [Read.bind_of_ok he, Read.bind_of_ok hargs, Read.bind_of_ok hkwargs]

theorem eval_test {label : String} {test : ValueTest} (ht : ValueTest.named? label = some test)
    (negated : Bool) : eval env a scopes (.test e label args kwargs negated) m =
      (do return .bool ((← test.holds a v ⟨vs, ks⟩) != negated) : Read Value) m₃ := by
  simp only [eval, ht]
  rw [Read.bind_of_ok he, Read.bind_of_ok hargs, Read.bind_of_ok hkwargs]

end

end Evaluation
end MailMerge
