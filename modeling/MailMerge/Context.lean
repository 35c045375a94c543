/-
# Render contexts

A context resolves the names of templates: a parent scope first, then the globals
of the environment, then the variables, which may be templates themselves.
Rendering a variable may read other variables of the same context, so all of them
share one memory.  A variable is marked while it renders, hence each render inside
another one belongs to a variable that was still waiting, and the renders are
nested no deeper than there are waiting variables.
-/

import MailMerge.Evaluation.Render
import MailMerge.Value.Coerce

namespace MailMerge

namespace Entry

mutual

/-- The entry of a variable's value: a mapping becomes a mapping of entries, a text that can
be a template waits to be rendered, anything else is there as it is. -/
def ofValue (d : Delimiters) : Value → Entry
  | .map entries => .nested (ofEntries d entries)
  | .str s => if d.inTemplate s then .template s else .literal (.str s)
  | v => .literal v

/-- The entries of the values of a mapping. -/
def ofEntries (d : Delimiters) : List (String × Value) → List (String × Entry)
  | [] => []
  | (k, v) :: rest => (k, ofValue d v) :: ofEntries d rest

end

end Entry

namespace Vars

/-- The variables of a dictionary of values. -/
def ofDict (d : Delimiters) (values : Dict Value) : Vars := Entry.ofEntries d values

/-- Gives a variable a new value. -/
def set (d : Delimiters) (vars : Vars) (key : String) (v : Value) : Vars :=
  Dict.insert key (Entry.ofValue d v) vars

/-- Gives variables new values. -/
def update (d : Delimiters) (vars : Vars) (values : Dict Value) : Vars :=
  values.foldl (fun vars p => vars.set d p.1 p.2) vars

/-- Whether a variable has its final value, so that reading it renders nothing. -/
def isResolved (vars : Vars) (key : String) : Bool :=
  match Dict.find? vars key with
  | some e => e.isSettled
  | none => false

end Vars

namespace Reading

/-- Changes the entry `key` of the mapping at `place`. -/
def put (place : List String) (key : String) (e : Entry) (m : Memory) : Memory :=
  { m with vars := m.vars.put place key e }

/-- Renders the entry `key` at `place` from its source.  It is marked meanwhile.  The value
takes its place, and after a failure the entry waits as before. -/
def settle (render : String → Read String) (place : List String) (key source : String) :
    Read Value := fun m =>
  match render source (put place key (.rendering source) m) with
  | .ok text m =>
    let v := Value.coerce source text
    .ok v (put place key (.resolved v) { m with settled := (place, key) :: m.settled })
  | .error e m => .error (.inVariable key e) (put place key (.template source) m)

/-- Reads the entry `key` of the mapping at `place`.  A missing key is undefined, and a key
that is being rendered refers back to itself. -/
def entry (render : String → Read String) (place : List String) (key : String) : Read Value :=
  fun m =>
    match m.vars.lookup? place key with
    | none => .ok (.undefined key) m
    | some (.literal v) => .ok v m
    | some (.resolved v) => .ok v m
    | some (.nested entries) => .ok (.lazy (place ++ [key]) (Dict.keys entries)) m
    | some (.rendering _) => .error (.cyclic key) m
    | some (.template source) => settle render place key source m

/-- Resolves a name: parent scope, globals, variables. -/
def name (env : Environment) (parent : Dict Value) (render : String → Read String) (s : String) :
    Read (Option Value) := fun m =>
  match Dict.find? parent s with
  | some v => .ok (some v) m
  | none =>
    match Dict.find? env.globals s with
    | some v => .ok (some v) m
    | none =>
      if Dict.has m.vars s then (some <$> entry render [] s) m else .ok none m

/-- Access to the names and variables of a context, for up to `depth` renders one inside the
other. -/
def access (env : Environment) (parent : Dict Value) (height : Nat) : Nat → Access
  | 0 =>
    let render := fun (_ : String) => (throw (.invalid .tooDeep) : Read String)
    { name := name env parent render, entry := entry render, height := height }
  | depth + 1 =>
    let render := Evaluation.renderSource env (access env parent height depth)
    { name := name env parent render, entry := entry render, height := height }

/-- Access to variables that belong to no context: nothing in them can be rendered. -/
def detached (height : Nat) : Access :=
  let render := fun (_ : String) => (throw (.invalid .detached) : Read String)
  { name := fun _ => pure none, entry := entry render, height := height }

/-- Access to the names of a plain mapping. -/
def plain (values : Dict Value) : Access :=
  { name := fun s => pure (Dict.find? values s)
    entry := fun _ key => pure (.undefined key)
    height := 0 }

end Reading

/-- What templates are rendered in: an environment, a parent scope, and the variables. -/
structure Context where
  env : Environment
  parent : Dict Value := []
  memory : Memory := {}

namespace Context

/-- A context for variables given as values. -/
def ofValues (env : Environment) (parent values : Dict Value) : Context :=
  { env := env, parent := parent, memory := { vars := Vars.ofDict env.delimiters values } }

/-- The variables. -/
def vars (c : Context) : Vars := c.memory.vars

/-- Access to the names and variables of the context as it is now. -/
def access (c : Context) : Access :=
  Reading.access c.env c.parent (Entry.heightOf c.vars) (Entry.waitingIn c.vars)

/-- Runs a computation in the context: its result, and the context behind it. -/
def run {α : Type} (c : Context) (f : Access → Read α) : Except RenderError α × Context :=
  match f c.access c.memory with
  | .ok x m => (.ok x, { c with memory := m })
  | .error e m => (.error e, { c with memory := m })

/-- The value of a name as a template would see it. -/
def get (c : Context) (s : String) : Except RenderError Value × Context :=
  c.run fun a => return (← a.name s).getD (.undefined s)

/-- The value of an expression. -/
def eval (c : Context) (e : Expr) : Except RenderError Value × Context :=
  c.run fun a => Evaluation.eval c.env a [[]] e

/-- The text of a source. -/
def render (c : Context) (source : String) : Except RenderError String × Context :=
  c.run fun a => Evaluation.renderSource c.env a source

/-- The text of a template. -/
def renderTemplate (c : Context) (template : Template) : Except RenderError String × Context :=
  c.run fun a => Evaluation.renderTemplate c.env a template

/-- Gives a variable a new value. -/
def set (c : Context) (key : String) (v : Value) : Context :=
  { c with memory := { c.memory with vars := c.vars.set c.env.delimiters key v } }

/-- Gives variables new values. -/
def update (c : Context) (values : Dict Value) : Context :=
  { c with memory := { c.memory with vars := c.vars.update c.env.delimiters values } }

end Context

namespace Environment

/-- The source of a template that outputs one expression. -/
def outputOf (env : Environment) (expr : String) : String :=
  env.delimiters.variableStart ++ " " ++ expr ++ " " ++ env.delimiters.variableEnd

/-- The expression that a template outputs, if that is all it does. -/
def soleExpression? : Template → Option Expr
  | [.output e] => some e
  | _ => none

/-- Parses an expression on its own. -/
def parseExpression (env : Environment) (expr : String) : Except RenderError (Option Expr) :=
  (env.parse (env.outputOf expr)).map soleExpression?

/-- Renders a template with names from a plain mapping. -/
def renderTemplateWith (env : Environment) (values : Dict Value) (template : Template) :
    Except RenderError String :=
  ({ env := env : Context }.run fun _ =>
    Evaluation.renderTemplate env (Reading.plain values) template).1

/-- Renders a source with names from a plain mapping. -/
def renderWith (env : Environment) (values : Dict Value) (source : String) :
    Except RenderError String :=
  ({ env := env : Context }.run fun _ =>
    Evaluation.renderSource env (Reading.plain values) source).1

end Environment

end MailMerge
