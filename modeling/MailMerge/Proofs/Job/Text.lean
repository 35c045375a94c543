/-
# Texts that pass through a variable

The output path, the template path and the hooks of a job are read as variables.  What
such a variable's template renders is read as a value, and the value is written out
again (`Value.reread`).  Most texts come back as they were, but not those that read as
something else: `yes` comes back as `True`, `2024_10` as `202410`, and a text in quotes
without them.
-/

import MailMerge.Proofs.Job.Staged
import MailMerge.Proofs.Value.Coerce

namespace MailMerge

namespace Value

/-- A text that a template rendered, read as a value and written out again. -/
def reread (source text : String) : String := (coerce source text).display

/-- A text with an underscore between its digits loses it. -/
example : reread "\x7b\x7b name \x7d\x7d" "2024_10" = "202410" := by decide +kernel

end Value

namespace Job

variable {shell : Shell} {job : Job} {env : Environment} {config : Config} {input : String}
  {row : Nat} {cells : Dict Value} {c : Context} {name source text : String} {w w' : World}
  {effects : List Effect} {result : Except Failure Outcome}

/-- A hook's command is its variable written out. -/
theorem commandOf_solid (h₀ : c.AtRest) {kind : HookKind} {v : Value} (hv : v.Solid)
    (h : commandOf c kind v = .ok (some text)) : text = v.display := by
  have hasked : commandOf c kind v = .ok none ∨
      commandOf c kind v = (ask c (reading (.hook kind) v.output) >>= fun command =>
        .ok (if Sources.isBlankText command then none else some command)) := by
    cases v <;> first | exact .inl rfl | exact .inr rfl
  rcases hasked with hnone | hasked
  · rw [hnone] at h
    cases h
  · rw [hasked, ask_output h₀ _ hv] at h
    have hcommand := Except.ok.inj h
    split_ifs at hcommand
    exact (Option.some.inj hcommand).symm

/-- The text of a variable that is a plain text. -/
theorem ask_resolveText_literal (h₀ : c.AtRest) {part : JobPart}
    (h : c.Binds name (.literal (.str text))) : ask c (resolveText part name) = .ok text := by
  rw [(reads_resolveText h₀ part name).ask_eq h₀, ask_resolve_literal h₀ part h rfl]
  exact ask_output h₀ part rfl

section

variable (h₀ : c.AtRest) (hnew : c.memory.settled = [])
  (h : c.Binds name (.template source))
include h₀ hnew h

/-- The text of a variable is what its template renders, reread. -/
theorem ask_resolveText_template {part : JobPart}
    (htext : ask c (resolveText part name) = .ok text) :
    ∃ rendered, (c.render source).1 = .ok rendered ∧ text = Value.reread source rendered := by
  rw [(reads_resolveText h₀ part name).ask_eq h₀] at htext
  obtain ⟨v, hv, htext⟩ := exists_of_bind_ok htext
  obtain ⟨rendered, hrendered, rfl⟩ := ask_resolve_template h₀ hnew part h hv
  rw [ask_output h₀ part (Value.coerce_solid source rendered)] at htext
  exact ⟨rendered, hrendered, (Except.ok.inj htext).symm⟩

/-- So is the command of a hook. -/
theorem ask_resolveCommand_template {kind : HookKind}
    (htext : ask c (resolveCommand kind name) = .ok (some text)) :
    ∃ rendered, (c.render source).1 = .ok rendered ∧ text = Value.reread source rendered := by
  rw [(reads_resolveCommand h₀ kind name).ask_eq h₀] at htext
  obtain ⟨v, hv, htext⟩ := exists_of_bind_ok htext
  obtain ⟨rendered, hrendered, rfl⟩ := ask_resolve_template h₀ hnew _ h hv
  exact ⟨rendered, hrendered, commandOf_solid h₀ (Value.coerce_solid source rendered) htext⟩

end

/-- The file that is blamed for a text is the one at the template's path. -/
theorem path_of_text_error (h₀ : job.context.AtRest) {folder path : String} {t : FileTree}
    {f : Failure} (htext : job.text folder t = .error f)
    (hfile : (∃ fault, f = .input path fault) ∨ f.IsOf (.template path)) :
    ∃ name, job.templatePath = .ok name ∧ path = Path.join folder name := by
  obtain ⟨cause, rfl⟩ | ⟨name, hname, ⟨fault, rfl⟩ | ⟨cause, rfl⟩⟩ := text_error h₀ htext <;>
    obtain ⟨fault', h⟩ | ⟨cause', h⟩ := hfile <;> cases h <;> exact ⟨name, hname, rfl⟩

namespace Goes

variable (h : Goes shell job w effects result w')
include h

/-- An effect of a job is what its plan calls for. -/
theorem callsFor {before rest : List Effect} {e : Effect}
    (heffects : effects = before ++ e :: rest) : ∃ p, job.plan? = .ok p ∧
      job.CallsFor p (Effect.after shell (job.begun w) before).files e := by
  cases h with
  | staged _ hp hperforms => exact ⟨_, hp, callsFor_of_performs hperforms heffects⟩
  | _ => simp at heffects

/-- The output of a job that is done is that of its plan. -/
theorem plan_of_done {path : String} (hdone : result = .ok (.done path)) :
    ∃ p, job.plan? = .ok p ∧ path = p.output := by
  cases h with
  | undecided => cases hdone
  | skipped => cases hdone
  | planless => cases hdone
  | staged _ hp =>
    obtain ⟨_, -, he⟩ := exists_of_map_ok hdone
    exact ⟨_, hp, (Outcome.done.inj he).symm⟩

/-- A job that fails over its text had a plan, and the text cannot be had of the files it leaves. -/
theorem text_of_failure (h₀ : job.context.AtRest) {f : Failure} (hf : result = .error f)
    (hphase : f.phase? = some .text) :
    ∃ p, job.plan? = .ok p ∧ job.text p.folder w'.files = .error f := by
  cases h with
  | undecided hs =>
    obtain rfl := Except.error.inj hf
    cases hphase.symm.trans (failsWith_skips h₀ _ hs).phase?_eq
  | skipped => cases hf
  | planless _ hp =>
    obtain rfl := Except.error.inj hf
    cases hphase.symm.trans (failsWith_plan h₀ _ hp)
  | @staged p _ r _ _ hp hperforms =>
    refine ⟨p, hp, ?_⟩
    have hr := error_of_map_error hf
    obtain ⟨s, hs, hnext⟩ | ⟨e, he, hphase'⟩ := hperforms.origin hr
    · have hasks : s.asks = .text :=
        Option.some.inj (((orderly_stages h₀ s hs).blame _ _ hnext).symm.trans hphase)
      exact text_of_refused hs hasks hnext
    · have hacts := (hperforms.sublist (orderly_stages h₀)).subset (List.mem_map_of_mem he)
      rw [acts_stages, Option.some.inj (hphase'.symm.trans hphase)] at hacts
      exact absurd hacts (by decide)

end Goes

/-- What a job makes of its templates. -/
structure ActsOn (job : Job) (shell : Shell) (env : Environment) (config : Config) (w : World) :
    Prop where
  /-- The working directory is the configured one, unless that may be a template. -/
  folder : env.delimiters.inTemplate config.cwd = false →
    ∀ p, job.plan? = .ok p → p.folder = config.cwd
  /-- The output of a job that is done is where the reread text of its template says. -/
  output : ∀ path, (job.run shell w).1 = .ok (.done path) → ∃ p text, job.plan? = .ok p ∧
    (job.context.render config.output).1 = .ok text ∧
    path = Path.join p.folder (Value.reread config.output text)
  /-- What is written is rendered from the file where the reread text of the template's path
  says. -/
  template : ∀ before path written force rest,
    job.effects shell w = before ++ .write path written force :: rest →
      ∃ p text source, job.plan? = .ok p ∧ (job.context.render config.template).1 = .ok text ∧
        InputFile.textAt (Effect.after shell (job.begun w) before).files
          (Path.join p.folder (Value.reread config.template text)) = .ok source ∧
        (job.context.render source).1 = .ok written
  /-- Where the template cannot be read or rendered, the file that is blamed is that one too. -/
  unread : ∀ path, ((∃ fault, (job.run shell w).1 = .error (.input path fault)) ∨
      ∃ cause, (job.run shell w).1 = .error (.render (.template path) cause)) →
    ∃ p text, job.plan? = .ok p ∧ (job.context.render config.template).1 = .ok text ∧
      path = Path.join p.folder (Value.reread config.template text)
  /-- A hook runs the reread text of its template. -/
  hook : ∀ kind command folder output,
    Effect.hook kind command folder output ∈ job.effects shell w → ∃ source text,
      hookOf config kind = some source ∧ (job.context.render source).1 = .ok text ∧
      command = Value.reread source text

/-- **A job acts on the reread texts of its templates,** if nothing else goes by the names of its
options. -/
theorem actsOn_ofRow (shell : Shell) (env : Environment) (config : Config) (input : String)
    (row : Nat) (cells : Dict Value) (hv : (Value.map config.vars).InOrder)
    (hc : (Value.map cells).InOrder)
    (hreserved : ∀ name ∈ ["__cwd", "__output", "__template", "__pre_hook", "__post_hook"],
      Reserved env config cells name)
    (houtput : env.delimiters.inTemplate config.output = true)
    (htemplate : env.delimiters.inTemplate config.template = true)
    (hhooks : ∀ kind source, hookOf config kind = some source →
      env.delimiters.inTemplate source = true) (w : World) :
    (Job.ofRow env config input row cells).ActsOn shell env config w := by
  have h₀ := atRest_ofRow env input row hv hc
  have hgoes := goes_run shell h₀ w
  have hpath : ∀ {name}, (Job.ofRow env config input row cells).templatePath = .ok name →
      ∃ text, ((Job.ofRow env config input row cells).context.render config.template).1 = .ok text ∧
        name = Value.reread config.template text := fun hname =>
    ask_resolveText_template h₀ rfl
      ((hreserved "__template" (by simp)).binds_template input row find?_template htemplate) hname
  refine ⟨fun hcwd p hp => ?_, fun path hdone => ?_,
    fun before path written force rest heffects => ?_, fun path hfails => ?_,
    fun kind command folder output hmem => ?_⟩
  · have hbinds := (hreserved "__cwd" (by simp)).binds input row find?_folder
    rw [Entry.ofValue, if_neg (ne_true_of_eq_false hcwd)] at hbinds
    exact Except.ok.inj
      ((exists_output hp).1.symm.trans (ask_resolveText_literal h₀ hbinds))
  · obtain ⟨p, hp, rfl⟩ := hgoes.plan_of_done hdone
    obtain ⟨-, name, hname, hjoin⟩ := exists_output hp
    have hbinds := (hreserved "__output" (by simp)).binds_template input row find?_output houtput
    obtain ⟨text, htext, rfl⟩ := ask_resolveText_template h₀ rfl hbinds hname
    exact ⟨p, text, hp, htext, hjoin⟩
  · obtain ⟨p, hp, htext, -, -⟩ := hgoes.callsFor heffects
    obtain ⟨name, hname, htext⟩ := exists_of_bind_ok htext
    obtain ⟨source, hsource, htext⟩ := exists_of_bind_ok htext
    obtain ⟨text, hrendered, rfl⟩ := hpath hname
    exact ⟨p, text, source, hp, hrendered, hsource, ok_of_mapError_ok htext⟩
  · obtain ⟨f, hf, hphase, hfile⟩ : ∃ f, ((Job.ofRow env config input row cells).run shell w).1 =
        .error f ∧ f.phase? = some .text ∧
          ((∃ fault, f = .input path fault) ∨ f.IsOf (.template path)) := by
      obtain ⟨fault, hf⟩ | ⟨cause, hf⟩ := hfails
      · exact ⟨_, hf, rfl, .inl ⟨fault, rfl⟩⟩
      · exact ⟨_, hf, rfl, .inr ⟨cause, rfl⟩⟩
    obtain ⟨p, hp, htext⟩ := hgoes.text_of_failure h₀ hf hphase
    obtain ⟨name, hname, rfl⟩ := path_of_text_error h₀ htext hfile
    obtain ⟨text, hrendered, rfl⟩ := hpath hname
    exact ⟨p, text, hp, hrendered, rfl⟩
  · obtain ⟨before, rest, heffects⟩ := List.append_of_mem hmem
    obtain ⟨p, -, hcommand, -, -⟩ := hgoes.callsFor heffects
    have hkey := hreserved kind.key (by cases kind <;> simp [HookKind.key])
    cases hhook : hookOf config kind with
    | none =>
      rw [command_ofRow_eq_none input row hv hc hhook hkey] at hcommand
      cases hcommand
    | some source =>
      have hbinds := hkey.binds_template input row ((find?_hook kind).trans (by rw [hhook]; rfl))
        (hhooks kind source hhook)
      obtain ⟨text, htext, he⟩ := ask_resolveCommand_template h₀ rfl hbinds hcommand
      exact ⟨source, text, rfl, htext, he⟩

/-- A row whose name is an ordinary text. -/
theorem actsOn_ofRow_plain :
    (Job.ofRow {} (.ofPaths "{{ kind }}.tpl" "{{ name }}") "list.csv" 0
      [("kind", .str "page"), ("name", .str "Ann")]).ActsOn (fun _ t => ⟨some 0, "", t⟩) {}
      (.ofPaths "{{ kind }}.tpl" "{{ name }}")
      { files := { items := [(["page.tpl"], .file "Dear {{ name }}".toUTF8)] } } := by
  refine actsOn_ofRow _ {} _ "list.csv" 0 _ (by decide) (by decide) ?_ (by decide +kernel)
    (by decide +kernel) ?_ _
  · intro name hname
    simp only [List.mem_cons, List.not_mem_nil, or_false] at hname
    rcases hname with rfl | rfl | rfl | rfl | rfl <;> exact ⟨by decide, by decide, by decide⟩
  · intro kind source hsource
    cases kind <;> cases hsource

/-- **Not every text comes back:** a row named `yes` is written to `True`. -/
theorem done_path_ne_rendered :
    let config := Config.ofPaths "{{ kind }}.tpl" "{{ name }}"
    let job := Job.ofRow {} config "list.csv" 0 [("kind", .str "page"), ("name", .str "yes")]
    let w : World := { files := { items := [(["page.tpl"], .file "Dear {{ name }}".toUTF8)] } }
    (job.context.render config.output).1 = .ok "yes" ∧ config.cwd = "/" ∧
      (job.run (fun _ t => ⟨some 0, "", t⟩) w).1 = .ok (.done "/True") ∧
      Path.join "/" "yes" ≠ "/True" := by
  decide +kernel

end Job
end MailMerge
