/-
# The parts of a template

`Expr.every` asks a question of an expression and of all expressions inside it, and
`Node.every` of all expressions in a node.  The question that matters is membership:
the operators `in` and `not in`, the test `in` and the filter `unique` compare values
as they are, and all else in a template looks behind handles.
-/

import MailMerge.Template.Tree

namespace MailMerge
namespace Expr

mutual

/-- Whether a property holds of an expression and of all expressions inside. -/
def every (p : Expr → Bool) : Expr → Bool
  | list items => p (list items) && everyItem p items
  | dict pairs => p (dict pairs) && everyPair p pairs
  | attr base key => p (attr base key) && every p base
  | index base subscript => p (index base subscript) && every p base && every p subscript
  | binary op left right => p (binary op left right) && every p left && every p right
  | and left right => p (and left right) && every p left && every p right
  | or left right => p (or left right) && every p left && every p right
  | not operand => p (not operand) && every p operand
  | neg operand => p (neg operand) && every p operand
  | pos operand => p (pos operand) && every p operand
  | filter subject label args kwargs =>
    p (filter subject label args kwargs) && every p subject && everyItem p args &&
      everyNamed p kwargs
  | test subject label args kwargs negated =>
    p (test subject label args kwargs negated) && every p subject && everyItem p args &&
      everyNamed p kwargs
  | cond value condition otherwise =>
    p (cond value condition otherwise) && every p value && every p condition &&
      everyElse p otherwise
  | e => p e

/-- `every` for expressions in a row. -/
def everyItem (p : Expr → Bool) : List Expr → Bool
  | [] => true
  | e :: rest => every p e && everyItem p rest

/-- `every` for the entries of a mapping. -/
def everyPair (p : Expr → Bool) : List (Expr × Expr) → Bool
  | [] => true
  | (k, e) :: rest => every p k && every p e && everyPair p rest

/-- `every` for arguments by name. -/
def everyNamed (p : Expr → Bool) : List (String × Expr) → Bool
  | [] => true
  | (_, e) :: rest => every p e && everyNamed p rest

/-- `every` for an `else` that may be missing. -/
def everyElse (p : Expr → Bool) : Option Expr → Bool
  | some e => every p e
  | none => true

end

theorem everyItem_iff {p : Expr → Bool} {items : List Expr} :
    everyItem p items = true ↔ ∀ e ∈ items, every p e = true := by
  induction items with
  | nil => simp [everyItem]
  | cons e rest ih => simp [everyItem, ih]

theorem everyPair_iff {p : Expr → Bool} {pairs : List (Expr × Expr)} :
    everyPair p pairs = true ↔ ∀ e ∈ pairs, every p e.1 = true ∧ every p e.2 = true := by
  induction pairs with
  | nil => simp [everyPair]
  | cons e rest ih => simp [everyPair, ih]

theorem everyNamed_iff {p : Expr → Bool} {kwargs : List (String × Expr)} :
    everyNamed p kwargs = true ↔ ∀ e ∈ kwargs, every p e.2 = true := by
  induction kwargs with
  | nil => simp [everyNamed]
  | cons e rest ih => simp [everyNamed, ih]

theorem everyElse_iff {p : Expr → Bool} {otherwise : Option Expr} :
    everyElse p otherwise = true ↔ ∀ e ∈ otherwise, every p e = true := by
  cases otherwise <;> simp [everyElse]

/-- **Induction on the parts of an expression.** -/
@[elab_as_elim]
theorem induction {motive : Expr → Prop} (str : ∀ s, motive (str s)) (int : ∀ n, motive (int n))
    (float : ∀ x, motive (float x)) (bool : ∀ b, motive (bool b)) (null : motive null)
    (list : ∀ items, (∀ e ∈ items, motive e) → motive (list items))
    (dict : ∀ pairs, (∀ e ∈ pairs, motive e.1 ∧ motive e.2) → motive (dict pairs))
    (name : ∀ s, motive (name s)) (attr : ∀ base key, motive base → motive (attr base key))
    (index : ∀ base subscript, motive base → motive subscript → motive (index base subscript))
    (binary : ∀ op left right, motive left → motive right → motive (binary op left right))
    (and : ∀ left right, motive left → motive right → motive (and left right))
    (or : ∀ left right, motive left → motive right → motive (or left right))
    (not : ∀ e, motive e → motive (not e)) (neg : ∀ e, motive e → motive (neg e))
    (pos : ∀ e, motive e → motive (pos e))
    (filter : ∀ subject label args kwargs, motive subject → (∀ e ∈ args, motive e) →
      (∀ e ∈ kwargs, motive e.2) → motive (filter subject label args kwargs))
    (test : ∀ subject label args kwargs negated, motive subject → (∀ e ∈ args, motive e) →
      (∀ e ∈ kwargs, motive e.2) → motive (test subject label args kwargs negated))
    (cond : ∀ value condition otherwise, motive value → motive condition →
      (∀ e ∈ otherwise, motive e) → motive (cond value condition otherwise)) (e : Expr) :
    motive e := by
  refine @Expr.rec motive (fun items => ∀ e ∈ items, motive e)
    (fun pairs => ∀ e ∈ pairs, motive e.1 ∧ motive e.2) (fun kwargs => ∀ e ∈ kwargs, motive e.2)
    (fun otherwise => ∀ e ∈ otherwise, motive e) (fun e => motive e.1 ∧ motive e.2)
    (fun e => motive e.2) str int float bool null list dict name attr index binary and or not neg
    pos filter test cond ?_ ?_ ?_ ?_ ?_ ?_ ?_ ?_ ?_ ?_ e
  · simp
  · exact fun e rest he hrest => List.forall_mem_cons.2 ⟨he, hrest⟩
  · simp
  · exact fun e rest he hrest => List.forall_mem_cons.2 ⟨he, hrest⟩
  · simp
  · exact fun e rest he hrest => List.forall_mem_cons.2 ⟨he, hrest⟩
  · simp
  · intro e he d hd
    obtain rfl := Option.some.inj hd
    exact he
  · exact fun _ _ hk he => ⟨hk, he⟩
  · exact fun _ _ he => he

/-- Whether an expression by itself looks behind handles: it asks for no membership and leaves
out no equal items. -/
def looksBehind : Expr → Bool
  | binary .isIn _ _ => false
  | binary .notIn _ _ => false
  | filter _ label _ _ => label != "unique"
  | test _ label _ _ _ => label != "in"
  | _ => true

end Expr

namespace Node

mutual

/-- Whether a property holds of all expressions in a node. -/
def every (p : Expr → Bool) : Node → Bool
  | text _ => true
  | output e => e.every p
  | set _ value => value.every p
  | branch cases otherwise => everyCase p cases && everyElse p otherwise
  | loop _ sequence body otherwise =>
    sequence.every p && everyNode p body && everyElse p otherwise

/-- `every` for nodes in a row. -/
def everyNode (p : Expr → Bool) : List Node → Bool
  | [] => true
  | node :: rest => every p node && everyNode p rest

/-- `every` for the cases of a branch. -/
def everyCase (p : Expr → Bool) : List (Expr × List Node) → Bool
  | [] => true
  | (condition, body) :: rest => condition.every p && everyNode p body && everyCase p rest

/-- `every` for an `else` that may be missing. -/
def everyElse (p : Expr → Bool) : Option (List Node) → Bool
  | some body => everyNode p body
  | none => true

end

end Node

/-- Nothing in the template asks for membership. -/
def Template.MembershipFree (template : Template) : Prop :=
  Node.everyNode Expr.looksBehind template = true

instance (template : Template) : Decidable template.MembershipFree :=
  inferInstanceAs (Decidable (_ = _))

end MailMerge
