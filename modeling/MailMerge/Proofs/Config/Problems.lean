/-
# Problems of a configuration

Every option that has a value which cannot be used records a problem, whatever the other options
are, and nothing else does (`Sources.mem_problems`).  There is a configuration only if there is no
problem, and then it is valid (`Sources.valid`): whoever has one need not look at its options
again.  Otherwise the message names all of them, and loading the sources reports each
(`Sources.load_eq`).
-/

import MailMerge.Proofs.Action
import MailMerge.Proofs.Config.Layers
import MailMerge.Proofs.Rows
import MailMerge.Proofs.Template.PlainText

namespace MailMerge

theorem Text.infix_intercalate {sep piece : List Char} {pieces : List (List Char)}
    (h : piece ∈ pieces) : piece <:+: sep.intercalate pieces := by
  induction pieces with
  | nil => exact absurd h List.not_mem_nil
  | cons first rest ih =>
    cases rest with
    | nil =>
      obtain rfl := List.mem_singleton.1 h
      exact ⟨[], [], by simp⟩
    | cons second rest =>
      rw [List.intercalate_cons_cons]
      rcases List.mem_cons.1 h with rfl | h
      · exact (List.prefix_append _ _).isInfix.trans (List.prefix_append _ _).isInfix
      · exact (ih h).trans (List.suffix_append _ _).isInfix

namespace Sources

variable {s : Sources} {p : Problem}

/-- The text for the place of the header, numbers with commas between them. -/
def headerText? (s : Sources) : Option String :=
  match s.given.headerRowColumn.or (s.fromEnvironment? "header_row_column"),
      s.file.headerRowColumn with
  | some text, _ => some text
  | none, some (.text text) => some text
  | none, some (.row n) => some (toString n)
  | none, some (.numbers ns) => some (joinStrings "," (ns.map toString))
  | none, none => none

/-- The switches, with what the caller gives for them. -/
def switches (s : Sources) : List (String × Option Bool) :=
  [("force", s.given.force), ("delete", s.given.delete),
    ("continue_on_error", s.given.continueOnError)]

/-- The texts that are needed. -/
def needed (s : Sources) : List (String × Option String) :=
  [("template", s.text? "template" s.given.template s.file.template),
    ("output", s.text? "output" s.given.output s.file.output)]

/-- What is a problem of the sources: an option that has a value, from the first source that gives
it, which cannot be used. -/
inductive Finds (s : Sources) : Problem → Prop
  | noInput : s.inputs.1 = [] → Finds s .noInput
  | required {option : String} {value : Option String} : (option, value) ∈ s.needed →
      (∀ text ∈ value, isBlankText text = true) → Finds s (.required option)
  | notBoolean {option text : String} : (option, none) ∈ s.switches →
      s.fromEnvironment? option = some text →
      Value.truthWord? (String.ofList (Text.trim text.toList)) = none →
      Finds s (.notBoolean option text)
  | notTemplate {rule : String} : s.text? "skip" s.given.skip s.file.skip = some rule →
      s.given.delimiters.Tagless rule.toList → Finds s (.notTemplate rule)
  | delimiter {text : String} :
      s.text? "csv_delimiter" s.given.csvDelimiter s.file.csvDelimiter = some text →
      (∀ c : Char, text.toList = [c] → 128 ≤ c.toNat) → Finds s (.delimiter text)
  | tooManyNumbers {ns : List Int} : s.given.headerRowColumn = none →
      s.fromEnvironment? "header_row_column" = none → s.file.headerRowColumn = some (.numbers ns) →
      2 < ns.length → Finds s .tooManyNumbers
  | notNatural {text : String} {part : List Char} : s.headerText? = some text →
      part ∈ ((Text.splitOn ',' text.toList).map Text.trim).take 2 → part ≠ [] →
      Number.readNat? part = none → Finds s (.notNatural (String.ofList part))
  | tooManyParts {text : String} : s.headerText? = some text →
      2 < (Text.splitOn ',' text.toList).length → Finds s (.tooManyParts text)
  | notMapping {text : String} : s.fromEnvironment? "vars" = some text →
      ConfigFile.readVars? text = none → Finds s .notMapping

/-! ### What each option records -/

theorem mem_inputs_problems : p ∈ s.inputs.2 ↔ p = .noInput ∧ s.inputs.1 = [] := by
  simp only [inputs]
  generalize (if !s.given.input.isEmpty then s.given.input else _) = names
  cases names <;> simp

theorem mem_required_problems {option : String} {value : Option String} :
    p ∈ (required option value).2 ↔
      p = .required option ∧ ∀ text ∈ value, isBlankText text = true := by
  cases value with
  | none => simp [required]
  | some text => cases hblank : isBlankText text <;> simp [required, hblank]

theorem mem_flag_problems {option : String} {given file : Option Bool} :
    p ∈ (s.flag option given file).2 ↔ given = none ∧
      ∃ text, s.fromEnvironment? option = some text ∧
        Value.truthWord? (String.ofList (Text.trim text.toList)) = none ∧
        p = .notBoolean option text := by
  cases given with
  | some b => simp [flag]
  | none =>
    rcases henv : s.fromEnvironment? option with _ | text
    · simp [flag, henv]
    · cases hword : Value.truthWord? (String.ofList (Text.trim text.toList)) <;>
        simp [flag, henv, hword]

theorem mem_skip_problems : p ∈ s.skip.2 ↔
    ∃ rule, s.text? "skip" s.given.skip s.file.skip = some rule ∧
      s.given.delimiters.Tagless rule.toList ∧ p = .notTemplate rule := by
  simp only [skip, ← Delimiters.inTemplate_eq_false_iff]
  rcases s.text? "skip" s.given.skip s.file.skip with _ | rule
  · simp
  · cases htemplate : s.given.delimiters.inTemplate rule
    · simp [htemplate, eq_comm (b := p)]
    · simp [htemplate]

theorem mem_delimiter_problems : p ∈ s.delimiter.2 ↔
    ∃ text, s.text? "csv_delimiter" s.given.csvDelimiter s.file.csvDelimiter = some text ∧
      (∀ c : Char, text.toList = [c] → 128 ≤ c.toNat) ∧ p = .delimiter text := by
  simp only [delimiter]
  rcases s.text? "csv_delimiter" s.given.csvDelimiter s.file.csvDelimiter with _ | text
  · simp
  · simp only [Option.getD_some]
    rcases htext : text.toList with _ | ⟨c, _ | ⟨d, cs⟩⟩
    · simp [htext]
    · by_cases hc : c.toNat < 128
      · simp [htext, hc]
      · simpa [htext, hc] using fun _ => Nat.not_lt.1 hc
    · simp [htext]

theorem mem_headerPart_problems {part : List Char} : p ∈ (headerPart part).2 ↔
    part ≠ [] ∧ Number.readNat? part = none ∧ p = .notNatural (String.ofList part) := by
  rw [headerPart]
  cases part with
  | nil => simp
  | cons c cs => cases hnat : Number.readNat? (c :: cs) <;> simp

theorem mem_headerPlace_problems {text : String} : p ∈ (headerPlace text).2 ↔
    (∃ part ∈ ((Text.splitOn ',' text.toList).map Text.trim).take 2, part ≠ [] ∧
      Number.readNat? part = none ∧ p = .notNatural (String.ofList part)) ∨
    (2 < (Text.splitOn ',' text.toList).length ∧ p = .tooManyParts text) := by
  rw [headerPlace]
  simp only [List.mem_append, mem_headerPart_problems, List.length_map]
  rcases (Text.splitOn ',' text.toList) with _ | ⟨first, _ | ⟨second, rest⟩⟩
  all_goals simp

theorem mem_header_problems : p ∈ s.header.2 ↔
    (∃ ns, s.given.headerRowColumn = none ∧ s.fromEnvironment? "header_row_column" = none ∧
      s.file.headerRowColumn = some (.numbers ns) ∧ 2 < ns.length ∧ p = .tooManyNumbers) ∨
    ∃ text, s.headerText? = some text ∧ p ∈ (headerPlace text).2 := by
  rw [header, headerText?]
  rcases hgiven : s.given.headerRowColumn with _ | text
  · rcases henv : s.fromEnvironment? "header_row_column" with _ | text
    · rcases hfile : s.file.headerRowColumn with _ | (text | n | ns)
      · simp
      · simp
      · simp
      · by_cases hlength : 2 < ns.length <;> simp [hlength]
    · simp
  · simp

theorem mem_vars_problems : p ∈ s.vars.2 ↔
    ∃ text, s.fromEnvironment? "vars" = some text ∧ ConfigFile.readVars? text = none ∧
      p = .notMapping := by
  rw [vars]
  rcases henv : s.fromEnvironment? "vars" with _ | text
  · simp
  · cases hread : ConfigFile.readVars? text <;> simp [hread]

/-- **All problems are collected, and nothing else is one.** -/
theorem mem_problems : p ∈ s.build.2 ↔ s.Finds p := by
  simp only [build, List.mem_append, mem_inputs_problems, mem_required_problems,
    mem_flag_problems, mem_skip_problems, mem_delimiter_problems, mem_header_problems,
    mem_headerPlace_problems, mem_vars_problems]
  constructor
  · rintro (((((((((⟨rfl, h⟩ | ⟨rfl, h⟩) | ⟨rfl, h⟩) | ⟨hgiven, text, henv, hword, rfl⟩) |
      ⟨hgiven, text, henv, hword, rfl⟩) | ⟨hgiven, text, henv, hword, rfl⟩) |
      ⟨rule, hrule, htagless, rfl⟩) | ⟨text, htext, hchar, rfl⟩) |
      (⟨ns, hgiven, henv, hfile, hlength, rfl⟩ | ⟨text, htext, ⟨part, hpart, hne, hnat, rfl⟩ |
        ⟨hlength, rfl⟩⟩)) | ⟨text, henv, hread, rfl⟩)
    · exact .noInput h
    · exact .required (List.mem_cons_self) h
    · exact .required (List.mem_cons_of_mem _ List.mem_cons_self) h
    · exact .notBoolean (by simp [switches, hgiven]) henv hword
    · exact .notBoolean (by simp [switches, hgiven]) henv hword
    · exact .notBoolean (by simp [switches, hgiven]) henv hword
    · exact .notTemplate hrule htagless
    · exact .delimiter htext hchar
    · exact .tooManyNumbers hgiven henv hfile hlength
    · exact .notNatural htext hpart hne hnat
    · exact .tooManyParts htext hlength
    · exact .notMapping henv hread
  · intro h
    cases h with
    | noInput h => simp [h]
    | required hneeded h =>
      simp only [needed, List.mem_cons, Prod.mk.injEq, List.not_mem_nil, or_false] at hneeded
      rcases hneeded with ⟨rfl, rfl⟩ | ⟨rfl, rfl⟩ <;> simpa using h
    | notBoolean hswitch henv hword =>
      simp only [switches, List.mem_cons, Prod.mk.injEq, List.not_mem_nil, or_false] at hswitch
      rcases hswitch with ⟨rfl, hgiven⟩ | ⟨rfl, hgiven⟩ | ⟨rfl, hgiven⟩ <;>
        simp [← hgiven, henv, hword]
    | notTemplate hrule htagless => simp [hrule, htagless]
    | delimiter htext hchar => simpa [htext] using hchar
    | tooManyNumbers hgiven henv hfile hlength => simp [hgiven, henv, hfile, hlength]
    | notNatural htext hpart hne hnat =>
      simpa [htext] using ⟨_, hpart, hne, hnat, rfl⟩
    | tooManyParts htext hlength => simp [htext, hlength]
    | notMapping henv hread => simp [henv, hread]

theorem problems_eq_nil_iff : s.build.2 = [] ↔ ∀ p, ¬ s.Finds p := by
  rw [List.eq_nil_iff_forall_not_mem]
  exact forall_congr' fun p => not_congr mem_problems

/-! ### Configurations without problems -/

theorem config_eq_ok_iff {c : Config} :
    s.config = .ok c ↔ s.build.2 = [] ∧ s.build.1 = c := by
  rw [config]
  cases s.build.2 <;> simp

theorem config_eq_error_iff {problems : List Problem} :
    s.config = .error problems ↔ problems ≠ [] ∧ s.build.2 = problems := by
  rw [config]
  cases s.build.2 with
  | nil => simp [eq_comm (a := ([] : List Problem))]
  | cons p ps =>
    refine ⟨fun h => ?_, fun h => congrArg Except.error h.2⟩
    rw [← Except.error.inj h]
    exact ⟨List.cons_ne_nil p ps, rfl⟩

end Sources

/-- What holds of the options of a batch that are complete and can be used. -/
structure Config.Valid (c : Config) : Prop where
  inputs : c.inputs ≠ []
  template : Sources.isBlankText c.template = false
  output : Sources.isBlankText c.output = false
  preHook : ∀ command ∈ c.preHook, Sources.isBlankText command = false
  postHook : ∀ command ∈ c.postHook, Sources.isBlankText command = false
  skip : ∀ rule ∈ c.skip, ∃ kind, c.delimiters.start kind <:+: rule.toList
  delimiter : c.layout.delimiter.toNat < 128

namespace Sources

variable {s : Sources} {c : Config} {problems : List Problem}

theorem not_blank_of_required {option : String} {value : Option String}
    (h : (required option value).2 = []) : isBlankText (required option value).1 = false := by
  cases value with
  | none => cases h
  | some text => cases hblank : isBlankText text <;> simp_all [required]

theorem not_blank_of_hook {option command : String} {given file : Option String}
    (h : command ∈ s.hook option given file) : isBlankText command = false := by
  simpa using (Option.mem_filter_iff.1 h).2

theorem delimiter_lt (s : Sources) : s.delimiter.1.toNat < 128 := by
  have hcomma : ','.toNat < 128 := by decide
  simp only [delimiter]
  split
  · split
    · assumption
    · exact hcomma
  · exact hcomma

/-- **A configuration is valid.** -/
theorem valid (h : s.config = .ok c) : c.Valid := by
  obtain ⟨hnone, rfl⟩ := config_eq_ok_iff.1 h
  have hfinds := problems_eq_nil_iff.1 hnone
  simp only [build, List.append_eq_nil_iff] at hnone
  obtain ⟨⟨⟨⟨⟨⟨⟨⟨⟨-, htemplate⟩, houtput⟩, -⟩, -⟩, -⟩, -⟩, -⟩, -⟩, -⟩ := hnone
  exact {
    inputs := fun hnil => hfinds _ (.noInput hnil)
    template := not_blank_of_required htemplate
    output := not_blank_of_required houtput
    preHook := fun _ => not_blank_of_hook
    postHook := fun _ => not_blank_of_hook
    skip := fun rule hrule => by
      by_contra hno
      exact hfinds _ (.notTemplate hrule (not_exists.1 hno))
    delimiter := s.delimiter_lt }

/-- The variables in the environment, if they can be read; without the option there are none. -/
def environmentVars? (s : Sources) : Option (Dict Value) :=
  match s.fromEnvironment? "vars" with
  | some text => ConfigFile.readVars? text
  | none => some []

theorem exists_environmentVars (h : s.config = .ok c) :
    ∃ between, s.environmentVars? = some between ∧
      c.vars = mergeVars (mergeVars (mergeVars [] (s.file.vars.getD [])) between) s.given.vars := by
  obtain ⟨hnone, rfl⟩ := config_eq_ok_iff.1 h
  have hfinds := problems_eq_nil_iff.1 hnone
  rw [environmentVars?]
  rcases henv : s.fromEnvironment? "vars" with _ | text
  · refine ⟨[], rfl, ?_⟩
    simp only [build, vars, henv]
    rfl
  · rcases hread : ConfigFile.readVars? text with _ | between
    · exact absurd (.notMapping henv hread) (hfinds _)
    · refine ⟨between, hread, ?_⟩
      simp only [build, vars, henv, hread]

/-- The message of a failure holds those of all problems. -/
theorem message_infix (h : p ∈ problems) :
    p.message.toList <:+: (Failure.problems problems).message.toList := by
  have hmessage : (Failure.problems problems).message.toList = "configuration error: ".toList ++
      "; ".toList.intercalate ((problems.map Problem.message).map String.toList) := by
    rw [← toList_joinStrings, ← String.toList_append]
    rfl
  rw [hmessage]
  exact (Text.infix_intercalate (List.mem_map_of_mem (List.mem_map_of_mem h))).trans
    (List.suffix_append _ _).isInfix

/-- Loading the sources ends as building from them does, with every problem reported. -/
theorem load_eq {w w' : World} (hfile : Config.loadFile s.given.configPath w = (.ok s.file, w'))
    (hcwd : Config.startFolder w'.files s.given.configPath = s.cwd) :
    Config.load s.given s.environ w =
      match s.config with
      | .ok c => (.ok c, w')
      | .error problems =>
        (.error (.problems problems),
          { w' with events := w'.events ++ problems.map .problem }) := by
  rw [Config.load, Action.bind_ok hfile, Action.files_bind, hcwd]
  cases s.config <;> rfl

/-- How a configuration is built from its sources. -/
structure Layered (s : Sources) : Prop where
  /-- what the caller gives hides the environment and the file -/
  overrides : ∀ o s', DiffersAt o s s' → s.given.gives o = true → s'.build = s.build
  /-- what the environment gives hides the file -/
  environment : ∀ o s', DiffersAt o s s' → s.fromEnvironment? o.name ≠ none →
    s'.fromEnvironment? o.name = s.fromEnvironment? o.name → s'.build = s.build
  /-- the variables of all sources are laid over each other -/
  vars : ∀ c, s.config = .ok c → ∃ between, s.environmentVars? = some between ∧
    c.vars = mergeVars (mergeVars (mergeVars [] (s.file.vars.getD [])) between) s.given.vars
  records : ∀ p, p ∈ s.build.2 ↔ s.Finds p
  succeeds : (∃ c, s.config = .ok c) ↔ s.build.2 = []
  valid : ∀ c, s.config = .ok c → c.Valid ∧ c.delimiters = s.given.delimiters
  fails : ∀ problems, s.config = .error problems → problems = s.build.2 ∧
    ∀ p ∈ problems, p.message.toList <:+: (Failure.problems problems).message.toList
  /-- loading the sources ends as building from them does, with every problem reported -/
  loads : ∀ w w', Config.loadFile s.given.configPath w = (.ok s.file, w') →
    Config.startFolder w'.files s.given.configPath = s.cwd →
    Config.load s.given s.environ w =
      match s.config with
      | .ok c => (.ok c, w')
      | .error problems =>
        (.error (.problems problems),
          { w' with events := w'.events ++ problems.map .problem })

/-- **Options are layered.**  One source decides each setting, so that no other one matters, not
even to the problems; a configuration comes out exactly if there is none, and is valid. -/
theorem layered (s : Sources) : s.Layered where
  overrides := fun _ _ h hgives => h.build_eq_of_gives hgives
  environment := fun _ _ h hsome hsame => h.build_eq_of_environment hsome hsame
  vars := fun _ h => exists_environmentVars h
  records := fun _ => mem_problems
  succeeds := ⟨fun ⟨_, h⟩ => (config_eq_ok_iff.1 h).1, fun h => ⟨_, config_eq_ok_iff.2 ⟨h, rfl⟩⟩⟩
  valid := fun c h => ⟨valid h, by rw [← (config_eq_ok_iff.1 h).2]; rfl⟩
  fails := fun _ h => ⟨(config_eq_error_iff.1 h).2.symm, fun _ hp => message_infix hp⟩
  loads := fun _ _ => load_eq

end Sources
end MailMerge
