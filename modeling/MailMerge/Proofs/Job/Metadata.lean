/-
# The variables of a row

A job's variables are its cells over the configured variables over its metadata.  All of
them are in order if those that were given are.  A name of the metadata that neither the
globals nor the given variables bind stands for the option of that name.
-/

import MailMerge.Proofs.Context.Name
import MailMerge.Proofs.Job.Reading

namespace MailMerge

/-- The configuration of a template and an output, with nothing else set. -/
def Config.ofPaths (template output : String) : Config where
  inputs := []
  template := template
  output := output
  force := false
  delete := false
  preHook := none
  postHook := none
  skip := none
  layout := {}
  vars := []
  continueOnError := false
  cwd := "/"
  delimiters := {}

namespace Job

variable {env : Environment} {config : Config} {input : String} {row : Nat} {cells : Dict Value}
  {name : String} {v : Value}

/-- The metadata are texts and numbers, truth values, and what is missing. -/
theorem forall_metadata {q : Value → Prop} (hstr : ∀ s, q (.str s)) (hint : ∀ n, q (.int n))
    (hbool : ∀ b, q (.bool b)) (hnull : q .null) (config : Config) (input : String) (row : Nat) :
    ∀ p ∈ metadata config input row, q p.2 := by
  have hnamed : ∀ {names : List String} {v : Value}, q v →
      ∀ p ∈ names.map fun name => (name, v), q p.2 := by
    intro names v hv p hp
    obtain ⟨name, -, rfl⟩ := List.mem_map.1 hp
    exact hv
  have hoption : ∀ o, q (textOrNull o) := by
    rintro (_ | s)
    · exact hnull
    · exact hstr s
  refine Dict.forall_ofList ?_
  simp only [List.forall_mem_append]
  exact ⟨⟨⟨⟨⟨⟨⟨⟨⟨⟨hnamed (hstr _), hnamed (hstr _)⟩, hnamed (hint _)⟩, hnamed (hint _)⟩,
    hnamed (hstr _)⟩, hnamed (hstr _)⟩, hnamed (hoption _)⟩, hnamed (hoption _)⟩,
    hnamed (hoption _)⟩, hnamed (hbool _)⟩, hnamed (hbool _)⟩

theorem inOrder_metadata (config : Config) (input : String) (row : Nat) :
    (Value.map (metadata config input row)).InOrder :=
  Value.inOrder_map.2 ⟨Dict.ordered_ofList _, forall_metadata (q := Value.InOrder) (fun _ => rfl)
    (fun _ => rfl) (fun _ => rfl) rfl config input row⟩

/-- The context of a row is at rest. -/
theorem atRest_ofRow (env : Environment) (input : String) (row : Nat)
    (hv : (Value.map config.vars).InOrder) (hc : (Value.map cells).InOrder) :
    (Job.ofRow env config input row cells).context.AtRest :=
  .ofValues env [] (inOrder_mergeVars (inOrder_mergeVars (inOrder_metadata config input row) hv) hc)

/-- Nothing but the metadata binds a name. -/
structure Reserved (env : Environment) (config : Config) (cells : Dict Value) (name : String) :
    Prop where
  globals : Dict.find? env.globals name = none
  vars : name ∉ Dict.keys config.vars
  cells : name ∉ Dict.keys cells

/-- A reserved name stands for its option. -/
theorem Reserved.binds (h : Reserved env config cells name) (input : String) (row : Nat)
    (hv : Dict.find? (metadata config input row) name = some v) :
    (Job.ofRow env config input row cells).context.Binds name (Entry.ofValue env.delimiters v) where
  parent := rfl
  globals := h.globals
  entry := by
    change Dict.find? (Entry.ofEntries env.delimiters (Job.vars config input row cells)) name = _
    rw [Vars.find?_ofEntries, Job.vars, find?_mergeVars h.cells, find?_mergeVars h.vars, hv]
    rfl

/-- An option that may be a template is one. -/
theorem Reserved.binds_template (h : Reserved env config cells name) (input : String) (row : Nat)
    {source : String} (hv : Dict.find? (metadata config input row) name = some (.str source))
    (hsource : env.delimiters.inTemplate source = true) :
    (Job.ofRow env config input row cells).context.Binds name (.template source) := by
  have hbinds := h.binds input row hv
  rwa [Entry.ofValue, if_pos hsource] at hbinds

/-! ### The options among the metadata -/

theorem find?_folder :
    Dict.find? (metadata config input row) "__cwd" = some (.str config.cwd) := by
  rw [metadata, Dict.find?_ofList]
  rfl

theorem find?_output :
    Dict.find? (metadata config input row) "__output" = some (.str config.output) := by
  rw [metadata, Dict.find?_ofList]
  rfl

theorem find?_template :
    Dict.find? (metadata config input row) "__template" = some (.str config.template) := by
  rw [metadata, Dict.find?_ofList]
  rfl

/-- The hook of a kind, as configured. -/
def hookOf (config : Config) : HookKind → Option String
  | .pre => config.preHook
  | .post => config.postHook

theorem find?_hook (kind : HookKind) :
    Dict.find? (metadata config input row) kind.key = some (textOrNull (hookOf config kind)) := by
  rw [metadata, Dict.find?_ofList]
  cases kind <;> rfl

/-! ### What a variable is resolved to -/

section

variable {c : Context}

/-- A value, unless it is undefined. -/
def known : Value → Except RenderError Value
  | .undefined s => .error (.undefined s)
  | v => .ok v

theorem known_eq_ok {w : Value} (h : known v = .ok w) : w = v := by
  cases v <;> cases h <;> rfl

/-- Resolving a variable is reading its name, which must give something defined. -/
theorem run_resolve (c : Context) (name : String) :
    (c.run fun a => do ((← a.name name).getD (.undefined name)).defined).1 =
      ((c.get name).1 >>= known) := by
  rw [Context.get, Context.run_result, Context.run_result]
  change Finish.result (EStateM.bind _ _ _) = (Finish.result (EStateM.bind _ _ _) >>= known)
  unfold EStateM.bind
  rcases c.access.name name c.memory with ⟨o, m⟩ | ⟨e, m⟩
  · dsimp only
    cases o.getD (.undefined name) <;> rfl
  · rfl

/-- What is solid is written out as it is displayed. -/
theorem ask_output (h₀ : c.AtRest) (part : JobPart) (hv : v.Solid) :
    ask c (reading part v.output) = .ok v.display := by
  have houtput : v.output = fun _ => pure v.display := by
    funext a
    cases v with
    | str s => rfl
    | _ =>
      rw [Value.output, Value.materialize, Value.expand_of_solid hv]
      · rfl
      · intro s h
        cases h
  rw [ask_reading h₀ (parallel_output v), houtput]
  rfl

theorem ask_resolve (h₀ : c.AtRest) (part : JobPart) (name : String) :
    ask c (resolve part name) = ((c.get name).1 >>= known).mapError (.render part) := by
  rw [resolve, ask_reading h₀ (parallel_resolve name), run_resolve]

theorem ask_resolve_literal (h₀ : c.AtRest) (part : JobPart) (h : c.Binds name (.literal v))
    (hv : v.Solid) : ask c (resolve part name) = .ok v := by
  rw [ask_resolve h₀, h.get_literal]
  cases v <;> first | rfl | exact absurd hv Value.not_solid_undefined

/-- A template is resolved to what its text stands for. -/
theorem ask_resolve_template (h₀ : c.AtRest) (hnew : c.memory.settled = []) (part : JobPart)
    {source : String} (h : c.Binds name (.template source))
    (hv : ask c (resolve part name) = .ok v) :
    ∃ text, (c.render source).1 = .ok text ∧ v = .coerce source text := by
  refine h.get_template h₀ hnew ?_
  rw [ask_resolve h₀] at hv
  obtain ⟨w, hget, hknown⟩ := exists_of_bind_ok (ok_of_mapError_ok hv)
  rw [hget, known_eq_ok hknown]

end

end Job
end MailMerge
