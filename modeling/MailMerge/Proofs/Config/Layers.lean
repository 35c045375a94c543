/-
# Layers of options

All settings but the variables come from one source each: the caller if it gives the setting, else
the environment if that has it, else the configuration file.  Building looks at no source below
that one, neither for the setting nor for its problems: sources that show the same for every
setting (`Sources.ShowsAlike`) are built alike (`Sources.Alike.build_eq`).  So what a source says
of a setting does not matter where one above it gives the setting
(`Sources.DiffersAt.build_eq_of_gives`, `Sources.DiffersAt.build_eq_of_environment`).
-/

import MailMerge.Config.Basic
import Mathlib.Data.Option.Basic

namespace MailMerge

/-- The options that come from one source: all but the variables. -/
inductive Setting where
  | input | template | output | force | delete | preHook | postHook | skip | csvDelimiter
  | headerRowColumn | continueOnError
  deriving DecidableEq, Repr

/-- The setting's name in the environment. -/
def Setting.name : Setting → String
  | input => "input"
  | template => "template"
  | output => "output"
  | force => "force"
  | delete => "delete"
  | preHook => "pre_hook"
  | postHook => "post_hook"
  | skip => "skip"
  | csvDelimiter => "csv_delimiter"
  | headerRowColumn => "header_row_column"
  | continueOnError => "continue_on_error"

theorem Setting.name_inj {o o' : Setting} (h : o.name = o'.name) : o = o' := by
  cases o <;> cases o' <;> first | rfl | exact absurd h (by decide)

theorem Setting.name_ne_vars (o : Setting) : "vars" ≠ o.name := by cases o <;> decide

/-- Whether the caller gives a setting. -/
def Overrides.gives (given : Overrides) : Setting → Bool
  | .input => !given.input.isEmpty
  | .template => given.template.isSome
  | .output => given.output.isSome
  | .force => given.force.isSome
  | .delete => given.delete.isSome
  | .preHook => given.preHook.isSome
  | .postHook => given.postHook.isSome
  | .skip => given.skip.isSome
  | .csvDelimiter => given.csvDelimiter.isSome
  | .headerRowColumn => given.headerRowColumn.isSome
  | .continueOnError => given.continueOnError.isSome

namespace ConfigFile

/-- What a configuration file gives for a setting. -/
inductive SettingValue where
  | paths (option : InputOption)
  | text (s : String)
  | flag (b : Bool)
  | place (option : HeaderOption)

/-- What the file gives for a setting, if it does. -/
def value? (file : ConfigFile) : Setting → Option SettingValue
  | .input => file.input.map .paths
  | .template => file.template.map .text
  | .output => file.output.map .text
  | .force => file.force.map .flag
  | .delete => file.delete.map .flag
  | .preHook => file.preHook.map .text
  | .postHook => file.postHook.map .text
  | .skip => file.skip.map .text
  | .csvDelimiter => file.csvDelimiter.map .text
  | .headerRowColumn => file.headerRowColumn.map .place
  | .continueOnError => file.continueOnError.map .flag

end ConfigFile

namespace Sources

variable {s s' : Sources} {o : Setting}

/-! ### What building looks at -/

/-- The sources show the same for a setting: below the caller they agree on the environment, and
below the environment on the file. -/
def ShowsAlike (s s' : Sources) (o : Setting) : Prop :=
  s.given.gives o = false → s'.fromEnvironment? o.name = s.fromEnvironment? o.name ∧
    (s.fromEnvironment? o.name = none → s'.file.value? o = s.file.value? o)

namespace ShowsAlike

/-- Where the caller does not give a setting, the environments agree, and so do the files unless
the environment gives it. -/
theorem below {α : Type} {wrap : α → ConfigFile.SettingValue} {file file' : Option α}
    (h : ShowsAlike s s' o) (hgives : s.given.gives o = false) (hwrap : Function.Injective wrap)
    (hfile : s.file.value? o = file.map wrap) (hfile' : s'.file.value? o = file'.map wrap) :
    s'.fromEnvironment? o.name = s.fromEnvironment? o.name ∧
      (s.fromEnvironment? o.name = none → file' = file) := by
  obtain ⟨henv, hbelow⟩ := h hgives
  rw [hfile, hfile'] at hbelow
  exact ⟨henv, fun hnone => Option.map_injective hwrap (hbelow hnone)⟩

theorem text?_eq {given file file' : Option String} (h : ShowsAlike s s' o)
    (hgiven : s.given.gives o = given.isSome) (hfile : s.file.value? o = file.map .text)
    (hfile' : s'.file.value? o = file'.map .text) :
    s'.text? o.name given file' = s.text? o.name given file := by
  cases given with
  | some text => rfl
  | none =>
    obtain ⟨henv, hbelow⟩ :=
      h.below hgiven (fun _ _ => ConfigFile.SettingValue.text.inj) hfile hfile'
    rw [text?, text?, henv]
    rcases hsome : s.fromEnvironment? o.name with _ | text
    · rw [hbelow hsome]
    · rfl

theorem flag_eq {given file file' : Option Bool} (h : ShowsAlike s s' o)
    (hgiven : s.given.gives o = given.isSome) (hfile : s.file.value? o = file.map .flag)
    (hfile' : s'.file.value? o = file'.map .flag) :
    s'.flag o.name given file' = s.flag o.name given file := by
  cases given with
  | some b => rfl
  | none =>
    obtain ⟨henv, hbelow⟩ :=
      h.below hgiven (fun _ _ => ConfigFile.SettingValue.flag.inj) hfile hfile'
    simp only [flag, henv]
    rcases hsome : s.fromEnvironment? o.name with _ | text
    · rw [hbelow hsome]
    · rfl

end ShowsAlike

/-- The sources show the same for all settings, and have the same variables. -/
structure Alike (s s' : Sources) : Prop where
  given : s'.given = s.given
  cwd : s'.cwd = s.cwd
  environVars : s'.fromEnvironment? "vars" = s.fromEnvironment? "vars"
  fileVars : s'.file.vars = s.file.vars
  shows : ∀ o, ShowsAlike s s' o

namespace Alike

theorem inputs_eq (h : Alike s s') : s'.inputs = s.inputs := by
  rw [inputs, inputs, h.given, h.cwd]
  cases hinput : s.given.input.isEmpty with
  | false => rfl
  | true =>
    obtain ⟨henv, hbelow⟩ := (h.shows .input).below (by rw [Overrides.gives, hinput]; rfl)
      (fun _ _ => ConfigFile.SettingValue.paths.inj) rfl rfl
    rw [Setting.name] at henv hbelow
    rw [henv]
    rcases hsome : s.fromEnvironment? "input" with _ | text
    · rw [hbelow hsome]
    · rfl

theorem header_eq (h : Alike s s') : s'.header = s.header := by
  rw [header, header, h.given]
  cases hgiven : s.given.headerRowColumn with
  | some text => rfl
  | none =>
    obtain ⟨henv, hbelow⟩ := (h.shows .headerRowColumn).below (by rw [Overrides.gives, hgiven]; rfl)
      (fun _ _ => ConfigFile.SettingValue.place.inj) rfl rfl
    rw [Setting.name] at henv hbelow
    rw [henv]
    rcases hsome : s.fromEnvironment? "header_row_column" with _ | text
    · rw [hbelow hsome]
    · rfl

theorem vars_eq (h : Alike s s') : s'.vars = s.vars := by
  rw [vars, vars, h.given, h.environVars, h.fileVars]

/-- **Building looks at what is shown.** -/
theorem build_eq (h : Alike s s') : s'.build = s.build := by
  have htemplate : s'.text? "template" s.given.template s'.file.template = _ :=
    (h.shows .template).text?_eq rfl rfl rfl
  have houtput : s'.text? "output" s.given.output s'.file.output = _ :=
    (h.shows .output).text?_eq rfl rfl rfl
  have hforce : s'.flag "force" s.given.force s'.file.force = _ :=
    (h.shows .force).flag_eq rfl rfl rfl
  have hdelete : s'.flag "delete" s.given.delete s'.file.delete = _ :=
    (h.shows .delete).flag_eq rfl rfl rfl
  have hgoOn : s'.flag "continue_on_error" s.given.continueOnError s'.file.continueOnError = _ :=
    (h.shows .continueOnError).flag_eq rfl rfl rfl
  have hpreHook : s'.text? "pre_hook" s.given.preHook s'.file.preHook = _ :=
    (h.shows .preHook).text?_eq rfl rfl rfl
  have hpostHook : s'.text? "post_hook" s.given.postHook s'.file.postHook = _ :=
    (h.shows .postHook).text?_eq rfl rfl rfl
  have hskip : s'.text? "skip" s.given.skip s'.file.skip = _ :=
    (h.shows .skip).text?_eq rfl rfl rfl
  have hdelimiter : s'.text? "csv_delimiter" s.given.csvDelimiter s'.file.csvDelimiter = _ :=
    (h.shows .csvDelimiter).text?_eq rfl rfl rfl
  simp only [build, hook, skip, delimiter, Setting.name, h.given, h.cwd, h.inputs_eq, h.header_eq,
    h.vars_eq, htemplate, houtput, hforce, hdelete, hgoOn, hpreHook, hpostHook, hskip, hdelimiter]

end Alike

/-! ### Sources that differ in one setting -/

/-- The sources differ at most in what the environment and the file say of a setting. -/
structure DiffersAt (o : Setting) (s s' : Sources) : Prop where
  given : s'.given = s.given
  cwd : s'.cwd = s.cwd
  environ : ∀ option ≠ o.name, s'.fromEnvironment? option = s.fromEnvironment? option
  file : ∀ o' ≠ o, s'.file.value? o' = s.file.value? o'
  fileVars : s'.file.vars = s.file.vars

namespace DiffersAt

theorem alike (h : DiffersAt o s s') (hshows : ShowsAlike s s' o) : Alike s s' where
  given := h.given
  cwd := h.cwd
  environVars := h.environ _ o.name_ne_vars
  fileVars := h.fileVars
  shows := fun o' => by
    by_cases ho : o' = o
    · exact ho ▸ hshows
    · exact fun _ => ⟨h.environ _ fun hname => ho (Setting.name_inj hname), fun _ => h.file o' ho⟩

/-- What the caller gives hides the environment and the file. -/
theorem build_eq_of_gives (h : DiffersAt o s s') (hgives : s.given.gives o = true) :
    s'.build = s.build :=
  (h.alike fun hnot => Bool.noConfusion (hnot.symm.trans hgives)).build_eq

/-- What the environment gives hides the file. -/
theorem build_eq_of_environment (h : DiffersAt o s s') (hsome : s.fromEnvironment? o.name ≠ none)
    (hsame : s'.fromEnvironment? o.name = s.fromEnvironment? o.name) : s'.build = s.build :=
  (h.alike fun _ => ⟨hsame, fun hnone => absurd hnone hsome⟩).build_eq

end DiffersAt

end Sources
end MailMerge
