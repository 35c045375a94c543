/-
# Columns as variables

A column of a sheet is a variable of each row's job, under the name that its header is reduced
to.  Cells win over the configured variables and the metadata, and only a mapping over a
configured mapping is merged with it.  So unless the name is a keyword of the template language,
a template reads the cell by it (`Job.render_column`).
-/

import MailMerge.Proofs.Context.Given
import MailMerge.Proofs.Job.Metadata
import MailMerge.Proofs.Sheet.Headers

namespace MailMerge
namespace Job

variable {env : Environment} {config : Config} {cells : Dict Value} {name : String} {v : Value}

/-- A cell is kept as it is, unless it is a mapping and the configured variables have a mapping
of its name. -/
theorem find?_vars (ho : Dict.Ordered cells) (hv : Dict.find? cells name = some v)
    (hmerge : ∀ es es', v = .map es → (name, .map es') ∉ config.vars) (input : String)
    (row : Nat) : Dict.find? (vars config input row cells) name = some v := by
  rw [vars, find?_mergeVars_of_mem ho (Dict.mem_of_find? hv)]
  refine congrArg some (Value.laidOver_eq fun es es' hes hbelow => ?_)
  rcases exists_map_of_mergeVars hbelow with ⟨ds, hds⟩ | ⟨ds, hds⟩
  · have hnot := forall_metadata (q := fun v => ∀ es, v ≠ .map es) (by rintro _ _ ⟨⟩)
      (by rintro _ _ ⟨⟩) (by rintro _ _ ⟨⟩) (by rintro _ ⟨⟩) config input row
    exact hnot _ (Dict.mem_of_find? hds) ds rfl
  · exact hmerge es ds hes hds

/-- **Every column is readable by its name.**  For each header of a sheet that is no keyword, each
record has a value; and if nothing in that value waits to be rendered, the template that outputs
the name gives the text of the value, in the job of the record. -/
theorem render_column (env : Environment) (hd : env.delimiters = {}) (hg : env.globals = [])
    {layout : SheetLayout} {rows : List (List Value)} {sheet : Sheet}
    (hsheet : Sheet.ofRows layout rows = .ok sheet) {record : Dict Value}
    (hrecord : record ∈ sheet.records) {header : String} (hheader : header ∈ sheet.headers)
    (hword : Keyword.ofWord? header = none) :
    ∃ v, Dict.find? record header = some v ∧ (v.AtHand → v.InOrder →
      (Entry.ofValue {} v).waiting = 0 → ∀ (config : Config) (input : String) (row : Nat),
        (∀ es es', v = .map es → (header, .map es') ∉ config.vars) → ∀ a,
          Read.Gives (v.output a)
            ((Job.ofRow env config input row record).context.render (env.outputOf header)).1) := by
  obtain ⟨v, hv⟩ := Sheet.exists_find?_record hsheet hrecord hheader
  refine ⟨v, hv, fun hhand ho hw config input row hmerge a => ?_⟩
  have hname : IsName header := ⟨(Sheet.ofRows_facts hsheet).1 header hheader, hword⟩
  have hbinds : (Job.ofRow env config input row record).context.Binds header
      (Entry.ofValue env.delimiters v) := by
    refine ⟨rfl, by rw [ofRow, Context.ofValues, hg]; rfl, ?_⟩
    change Dict.find? (Entry.ofEntries env.delimiters (vars config input row record)) header = _
    rw [Vars.find?_ofEntries, find?_vars (Sheet.ordered_of_mem_records hrecord) hv hmerge]
    rfl
  exact hbinds.render_given hd hname hhand ho (hd ▸ hw) a

/-- A header of two words, read in the job of the second row. -/
theorem render_column_spaced :
    ((Job.ofRow {} (Config.ofPaths "page.tpl" "out.txt") "people.csv" 1
      [("age", .int 7), ("first_name", .str "Ann")]).context.render "{{ first_name }}").1 =
        .ok "Ann" := by
  have hsheet : Sheet.ofRows {} [[.str "First Name", .str "Age"], [.str "Bo"],
      [.str "Ann", .int 7]] = .ok ⟨["first_name", "age"], [[.str "Bo", .str ""],
        [.str "Ann", .int 7]]⟩ := by rfl
  obtain ⟨v, hv, hrender⟩ := render_column {} rfl rfl hsheet
    (List.mem_cons_of_mem _ List.mem_cons_self) List.mem_cons_self (by decide)
  obtain rfl : .str "Ann" = v := Option.some.inj hv
  exact (hrender rfl rfl rfl (Config.ofPaths "page.tpl" "out.txt") "people.csv" 1 (by simp)
    (Reading.plain [])).unique (Read.gives_pure "Ann")

/-- What each record of raw rows has under a header, displayed, and what its job renders of the
template that outputs the header. -/
def shown (config : Config) (rows : List (List Value)) (header : String) :
    List (Option String × Except RenderError String) :=
  match Sheet.ofRows {} rows with
  | .ok sheet => sheet.records.map fun record =>
    ((Dict.find? record header).map Value.display,
      ((Job.ofRow {} config "people.csv" 0 record).context.render
        (({} : Environment).outputOf header)).1)
  | .error _ => []

/-- Where a cell is not read as it is: under a keyword nothing is read, a template in a mapping is
rendered, and a mapping is merged with a configured one. -/
theorem shown_ne :
    shown (Config.ofPaths "page.tpl" "out.txt") [[.str "In"], [.int 5]] "in" =
      [(some "5", .error (.malformed 1 (.expectedExpression (some (.keyword .inWord)))))] ∧
    shown (Config.ofPaths "page.tpl" "out.txt")
      [[.str "M"], [.map [("x", .str "{{ 1 + 1 }}")]]] "m" =
        [(some "\x7b'x': '\x7b\x7b 1 + 1 \x7d\x7d'\x7d", .ok "\x7b'x': 2\x7d")] ∧
    shown { Config.ofPaths "page.tpl" "out.txt" with vars := [("m", .map [("y", .int 2)])] }
      [[.str "M"], [.map [("x", .int 1)]]] "m" =
        [(some "\x7b'x': 1\x7d", .ok "\x7b'x': 1, 'y': 2\x7d")] := by
  decide +kernel

end Job
end MailMerge
