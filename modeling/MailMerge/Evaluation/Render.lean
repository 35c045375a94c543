/-
# Rendering templates

A name is looked up among the loop variables and assignments of the template, the
innermost scope first, and then in the surroundings.  Each turn of a loop has a
scope of its own, so nothing set in it outlasts the turn.
-/

import MailMerge.Filter.Apply

namespace MailMerge

/-- The scopes of a template under evaluation, the innermost first. -/
abbrev Scopes := List (Dict Value)

namespace Scopes

/-- The innermost binding of a name. -/
def find? : Scopes → String → Option Value
  | [], _ => none
  | scope :: outer, name =>
    match Dict.find? scope name with
    | some v => some v
    | none => find? outer name

/-- Binds a name in the innermost scope. -/
def set (scopes : Scopes) (name : String) (v : Value) : Scopes :=
  match scopes with
  | [] => []
  | scope :: outer => Dict.insert name v scope :: outer

end Scopes

namespace Evaluation

/-- The value of a name. -/
def name (a : Access) (scopes : Scopes) (s : String) : Read Value :=
  match scopes.find? s with
  | some v => pure v
  | none => return (← a.name s).getD (.undefined s)

mutual

/-- The value of an expression. -/
def eval (env : Environment) (a : Access) (scopes : Scopes) : Expr → Read Value
  | .str s => pure (.str s)
  | .int n => pure (.int n)
  | .float x => pure (.float x)
  | .bool b => pure (.bool b)
  | .null => pure .null
  | .list items => return .list (← evalItems env a scopes items)
  | .dict pairs => return .map (← evalPairs env a scopes [] pairs)
  | .name s => name a scopes s
  | .attr base key => do
    let base ← (← eval env a scopes base).defined
    base.lookup a key
  | .index base subscript => do
    let base ← (← eval env a scopes base).defined
    let subscript ← (← eval env a scopes subscript).defined
    Operator.index a base subscript
  | .binary op left right => do
    let l ← (← eval env a scopes left).defined
    let r ← (← eval env a scopes right).defined
    Operator.apply a op l r
  | .and left right => do
    let l ← eval env a scopes left
    if l.truthy then eval env a scopes right else pure l
  | .or left right => do
    let l ← eval env a scopes left
    if l.truthy then pure l else eval env a scopes right
  | .not operand => return .bool (!(← eval env a scopes operand).truthy)
  | .neg operand => do Operator.negate (← (← eval env a scopes operand).defined)
  | .pos operand => do Operator.affirm (← (← eval env a scopes operand).defined)
  | .filter subject name args kwargs =>
    match env.filter? name with
    | none => throw (.unknownFilter name)
    | some filter => do
      let v ← eval env a scopes subject
      let args ← evalArgs env a scopes args
      let kwargs ← evalKwargs env a scopes [] kwargs
      filter.apply a v ⟨args, kwargs⟩
  | .test subject name args kwargs negated =>
    match ValueTest.named? name with
    | none => throw (.unknownTest name)
    | some test => do
      let v ← eval env a scopes subject
      let args ← evalArgs env a scopes args
      let kwargs ← evalKwargs env a scopes [] kwargs
      return .bool ((← test.holds a v ⟨args, kwargs⟩) != negated)
  | .cond value condition otherwise => do
    if (← eval env a scopes condition).truthy then eval env a scopes value
    else evalElse env a scopes otherwise

/-- The value of the `else` of a conditional expression, which may be missing. -/
def evalElse (env : Environment) (a : Access) (scopes : Scopes) : Option Expr → Read Value
  | some e => eval env a scopes e
  | none => pure (.undefined "<conditional expression>")

/-- The items of a list, none of them undefined. -/
def evalItems (env : Environment) (a : Access) (scopes : Scopes) :
    List Expr → Read (List Value)
  | [] => pure []
  | e :: rest => do
    let v ← (← eval env a scopes e).defined
    return v :: (← evalItems env a scopes rest)

/-- The entries of a mapping, added to the entries before. -/
def evalPairs (env : Environment) (a : Access) (scopes : Scopes) (before : Dict Value) :
    List (Expr × Expr) → Read (Dict Value)
  | [] => pure before
  | (k, e) :: rest => do
    let key ← (← eval env a scopes k).output a
    let v ← (← eval env a scopes e).defined
    evalPairs env a scopes (Dict.insert key v before) rest

/-- Arguments by position. -/
def evalArgs (env : Environment) (a : Access) (scopes : Scopes) : List Expr → Read (List Value)
  | [] => pure []
  | e :: rest => do
    let v ← eval env a scopes e
    return v :: (← evalArgs env a scopes rest)

/-- Arguments by name, added to the ones before. -/
def evalKwargs (env : Environment) (a : Access) (scopes : Scopes) (before : Dict Value) :
    List (String × Expr) → Read (Dict Value)
  | [] => pure before
  | (key, e) :: rest => do
    let v ← eval env a scopes e
    evalKwargs env a scopes (Dict.insert key v before) rest

end

/-- What a loop runs through: none has no items, and a loop with two targets over a mapping
gets its keys with their values. -/
def loopItems (a : Access) (targets : Nat) (v : Value) : Read (List Value) :=
  match v with
  | .null => pure []
  | v => if v.isMapping && targets == 2 then v.pairs a else v.items

/-- Binds the targets of a loop to an item; several targets take the item apart. -/
def bindTargets (targets : List String) (item : Value) (scopes : Scopes) : Read Scopes :=
  match targets, item with
  | [target], item => pure (scopes.set target item)
  | targets, .list parts =>
    if parts.length = targets.length then
      pure ((targets.zip parts).foldl (fun s p => s.set p.1 p.2) scopes)
    else throw (.invalid (.cannotUnpack .list targets.length))
  | targets, item => throw (.invalid (.cannotUnpack item.kind targets.length))

/-- What a loop tells about the turn with the number `i`, counted from 0, of `n`. -/
def loopInfo (i n : Nat) : Value :=
  let count := fun (k : Nat) => Value.int (Number.ofNat k)
  .map (Dict.ofList [("index", count (i + 1)), ("index0", count i), ("revindex", count (n - i)),
    ("revindex0", count (n - i - 1)), ("first", .bool (i == 0)), ("last", .bool (i + 1 == n)),
    ("length", count n)])

/-- The texts of the turns of a loop from turn `i` of `n` on. -/
def turns (body : Scopes → Read (String × Scopes)) (targets : List String) (scopes : Scopes)
    (n : Nat) : Nat → List Value → Read String
  | _, [] => pure ""
  | i, item :: rest => do
    let inner ← bindTargets targets item ([] :: scopes)
    let (text, _) ← body (inner.set "loop" (loopInfo i n))
    return text ++ (← turns body targets scopes n (i + 1) rest)

mutual

/-- The text of a node, and the scopes behind it. -/
def renderNode (env : Environment) (a : Access) : Node → Scopes → Read (String × Scopes)
  | .text s, scopes => pure (s, scopes)
  | .output e, scopes => do
    let v ← eval env a scopes e
    return (← v.output a, scopes)
  | .set target e, scopes => do
    let v ← eval env a scopes e
    return ("", scopes.set target v)
  | .branch cases otherwise, scopes => do
    match ← renderCases env a cases scopes with
    | some result => pure result
    | none => renderElse env a otherwise scopes
  | .loop targets sequence body otherwise, scopes => do
    let v ← eval env a scopes sequence
    let items ← loopItems a targets.length v
    match items with
    | [] => renderElse env a otherwise scopes
    | items =>
      let text ← turns (renderNodes env a body) targets scopes items.length 0 items
      return (text, scopes)

/-- The text of the first case whose condition is true, if there is one. -/
def renderCases (env : Environment) (a : Access) :
    List (Expr × List Node) → Scopes → Read (Option (String × Scopes))
  | [], _ => pure none
  | (condition, body) :: rest, scopes => do
    if (← eval env a scopes condition).truthy then
      return some (← renderNodes env a body scopes)
    else renderCases env a rest scopes

/-- The text of an `else`, which may be missing. -/
def renderElse (env : Environment) (a : Access) :
    Option (List Node) → Scopes → Read (String × Scopes)
  | some body, scopes => renderNodes env a body scopes
  | none, scopes => pure ("", scopes)

/-- The text of nodes in a row, and the scopes behind them. -/
def renderNodes (env : Environment) (a : Access) :
    List Node → Scopes → Read (String × Scopes)
  | [], scopes => pure ("", scopes)
  | node :: rest, scopes => do
    let (text, scopes) ← renderNode env a node scopes
    let (more, scopes) ← renderNodes env a rest scopes
    return (text ++ more, scopes)

end

/-- The text of a template. -/
def renderTemplate (env : Environment) (a : Access) (template : Template) : Read String := do
  return (← renderNodes env a template [[]]).1

/-- The text of a source. -/
def renderSource (env : Environment) (a : Access) (source : String) : Read String :=
  match env.parse source with
  | .ok template => renderTemplate env a template
  | .error e => throw e

end Evaluation

end MailMerge
