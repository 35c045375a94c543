/-
# The sheet of raw rows

Raw rows are cut to what belongs to the sheet, the first row that remains names the columns, and
every further row gives one row of cells.  A header cell that is empty takes its column away, so
the columns that are kept carry their index with them (`Sheet.kept`): each cell is looked up
under the index that its name had, and a name that is dropped shifts no value under another name.
A record finds a name at the last column that has it (`Dict.find?_ofList_eq_some_iff`).
-/

import MailMerge.Proofs.Action
import MailMerge.Proofs.Dict
import MailMerge.Sheet.Basic
import Mathlib.Data.List.Basic

namespace MailMerge

namespace Sheet

variable {layout : SheetLayout} {rows : List (List Value)} {sheet : Sheet} {cell : Value}
  {cells : List Value} {cols : List (Nat × String)} {i : Nat}

/-! ### The region of a sheet -/

/-- A cell that is neither the empty text nor none. -/
def IsFilled (cell : Value) : Prop := cell ≠ .str "" ∧ cell ≠ .null

theorem isEmptyCell_iff : isEmptyCell cell = true ↔ ¬ IsFilled cell := by
  unfold IsFilled
  cases cell with
  | str s => simp [isEmptyCell, String.isEmpty_iff]
  | null => simp [isEmptyCell]
  | _ => simp [isEmptyCell]

instance : DecidablePred IsFilled := fun cell =>
  decidable_of_iff (isEmptyCell cell = false) (by rw [← Bool.not_eq_true, isEmptyCell_iff, not_not])

/-- The raw rows without those above the header, each without the cells left of it, as far as
they have a filled cell then. -/
def cut (layout : SheetLayout) (rows : List (List Value)) : List (List Value) :=
  ((rows.drop layout.headerRow).map (·.drop layout.headerColumn)).filter
    fun row => ∃ cell ∈ row, IsFilled cell

theorem region_eq (layout : SheetLayout) (rows : List (List Value)) :
    region layout rows = cut layout rows := by
  unfold region cut
  refine List.filter_congr fun row _ => ?_
  rw [Bool.eq_iff_iff, Bool.not_eq_true', decide_eq_true_eq, ← Bool.not_eq_true, List.all_eq_true]
  simp only [isEmptyCell_iff]
  push Not
  rfl

/-! ### Columns -/

/-- The name of a column with a cell for its header. -/
def columnName (cell : Value) : String := normalizeHeader cell.display

/-- The cells of a header that name columns, with their indices. -/
def kept (header : List Value) : List (Value × Nat) :=
  header.zipIdx.filter fun p => IsFilled p.1

theorem columns_eq_ok_iff : columns i cells = .ok cols ↔
    (∀ cell ∈ cells, IsFilled cell → columnName cell ≠ "") ∧
      cols = ((cells.zipIdx i).filter fun p => IsFilled p.1).map fun p => (p.2, columnName p.1) := by
  induction cells generalizing i cols with
  | nil =>
    rw [columns, Except.ok.injEq]
    exact ⟨fun h => ⟨by simp, h.symm⟩, fun h => h.2.symm⟩
  | cons cell cells ih =>
    rw [columns, List.forall_mem_cons, List.zipIdx_cons, List.filter_cons]
    by_cases hfilled : IsFilled cell
    · have hcell : ¬ isEmptyCell cell = true := by
        rw [isEmptyCell_iff, not_not]
        exact hfilled
      rw [if_neg hcell, if_pos (decide_eq_true hfilled), List.map_cons]
      change (if (columnName cell).isEmpty = true then Except.error _ else
        (columns (i + 1) cells).map ((i, columnName cell) :: ·)) = Except.ok cols ↔ _
      by_cases hname : columnName cell = ""
      · rw [if_pos (String.isEmpty_iff.2 hname)]
        refine iff_of_false (by rintro ⟨⟩) ?_
        rintro ⟨⟨hne, -⟩, -⟩
        exact hne hfilled hname
      · rw [if_neg (by rwa [String.isEmpty_iff])]
        constructor
        · intro h
          obtain ⟨rest, hrest, rfl⟩ := exists_of_map_ok h
          obtain ⟨hnames, rfl⟩ := ih.1 hrest
          exact ⟨⟨fun _ => hname, hnames⟩, rfl⟩
        · rintro ⟨⟨-, hnames⟩, rfl⟩
          rw [ih.2 ⟨hnames, rfl⟩]
          rfl
    · have hcell : isEmptyCell cell = true := isEmptyCell_iff.2 hfilled
      rw [if_pos hcell, ih, if_neg (by simpa using hfilled)]
      simp only [hfilled, false_implies, true_and]

/-- A header that is cut out keeps a column. -/
theorem kept_ne_nil {header : List Value} {data : List (List Value)}
    (h : cut layout rows = header :: data) : kept header ≠ [] := by
  have hmem : header ∈ cut layout rows := by simp [h]
  obtain ⟨-, hfilled⟩ := List.mem_filter.1 hmem
  obtain ⟨cell, hcell, hfilled⟩ := of_decide_eq_true hfilled
  obtain ⟨i, hi⟩ := List.mem_iff_getElem?.1 hcell
  have hkept : (cell, i) ∈ kept header :=
    List.mem_filter.2 ⟨List.mem_zipIdx_iff_getElem?.2 hi, decide_eq_true hfilled⟩
  exact List.ne_nil_of_mem hkept

/-! ### Sheets -/

/-- The sheet that a header and the rows behind it make: the names of the columns that are kept,
and for each row the cells with their indices, empty where the row is too short. -/
def built (header : List Value) (data : List (List Value)) : Sheet where
  headers := (kept header).map fun p => columnName p.1
  rows := data.map fun row => (kept header).map fun p => (row[p.2]?).getD (.str "")

/-- The columns of a header make the sheet. -/
theorem sheet_of_kept (header : List Value) (data : List (List Value)) :
    let cols := (kept header).map fun p => (p.2, columnName p.1)
    { headers := cols.map Prod.snd, rows := data.map (cellsUnder cols) } = built header data := by
  have hcells : cellsUnder ((kept header).map fun p => (p.2, columnName p.1)) =
      fun row => (kept header).map fun p => (row[p.2]?).getD (.str "") := by
    funext row
    rw [cellsUnder, List.map_map]
    rfl
  dsimp only
  rw [hcells, List.map_map]
  rfl

theorem ofRows_nil (h : cut layout rows = []) : ofRows layout rows = .error .noHeader := by
  rw [ofRows, region_eq, h]

/-- **Rows make a sheet exactly if each filled header cell has a name,** and which one. -/
theorem ofRows_cons {header : List Value} {data : List (List Value)}
    (h : cut layout rows = header :: data) : ofRows layout rows = .ok sheet ↔
      (∀ cell ∈ header, IsFilled cell → columnName cell ≠ "") ∧ sheet = built header data := by
  rw [ofRows, region_eq, h]
  dsimp only
  constructor
  · intro hsheet
    obtain ⟨cols, hcols, rfl⟩ := exists_of_map_ok hsheet
    obtain ⟨hnames, rfl⟩ := columns_eq_ok_iff.1 hcols
    exact ⟨hnames, sheet_of_kept header data⟩
  · rintro ⟨hnames, rfl⟩
    rw [columns_eq_ok_iff.2 ⟨hnames, rfl⟩]
    exact congrArg Except.ok (sheet_of_kept header data)

/-- A sheet is built from what is cut out of its rows. -/
theorem exists_built (h : ofRows layout rows = .ok sheet) : ∃ header data,
    cut layout rows = header :: data ∧
      (∀ cell ∈ header, IsFilled cell → columnName cell ≠ "") ∧ sheet = built header data := by
  cases hcut : cut layout rows with
  | nil =>
    rw [ofRows_nil hcut] at h
    cases h
  | cons header data =>
    obtain ⟨hnames, hsheet⟩ := (ofRows_cons hcut).1 h
    exact ⟨header, data, rfl, hnames, hsheet⟩

/-- Each row of a sheet has a cell for each header. -/
theorem length_row {row : List Value} (h : ofRows layout rows = .ok sheet)
    (hrow : row ∈ sheet.rows) : row.length = sheet.headers.length := by
  obtain ⟨header, data, -, -, rfl⟩ := exists_built h
  obtain ⟨raw, -, rfl⟩ := List.mem_map.1 hrow
  simp [built]

/-! ### Records -/

/-- A record of a row with a cell for each header: it has the headers for its keys, and each maps
to the cell of the rightmost column with that header. -/
structure IsRecord (headers : List String) (row : List Value) (record : Dict Value) : Prop where
  ordered : Dict.Ordered record
  mem_keys_iff : ∀ name, name ∈ Dict.keys record ↔ name ∈ headers
  find?_eq_some_iff : ∀ name v, Dict.find? record name = some v ↔
    ∃ j : Nat, headers[j]? = some name ∧ row[j]? = some v ∧
      ∀ k, j < k → headers[k]? ≠ some name

/-- The dictionary of headers and cells is a record. -/
theorem isRecord_zip {headers : List String} {row : List Value}
    (hlength : row.length = headers.length) :
    IsRecord headers row (Dict.ofList (headers.zip row)) where
  ordered := Dict.ordered_ofList _
  mem_keys_iff name := by
    rw [← Dict.isSome_find?_iff, Dict.isSome_find?_ofList, Dict.keys,
      List.map_fst_zip hlength.ge]
  find?_eq_some_iff name v := by
    rw [Dict.find?_ofList_eq_some_iff, Dict.keys, List.map_fst_zip hlength.ge]
    simp only [List.getElem?_zip_eq_some, and_assoc]

/-- A sheet has a record for each row. -/
theorem isRecord_records (h : ofRows layout rows = .ok sheet) :
    List.Forall₂ (IsRecord sheet.headers) sheet.rows sheet.records := by
  rw [records, List.forall₂_map_right_iff, List.forall₂_same]
  exact fun row hrow => isRecord_zip (length_row h hrow)

/-- **Building a sheet.**  What is cut out of raw rows makes a sheet exactly if there is a row of
it and every filled cell of the first row has a name.  Then the headers are these names in order,
at least one; there is a row for each further row, in order, with a cell for each header: the one
under the column of that header, or the empty text where the row is too short; and there is a
record for each row. -/
theorem ofRows_built (layout : SheetLayout) (rows : List (List Value)) :
    ((∃ sheet, ofRows layout rows = .ok sheet) ↔ ∃ header data, cut layout rows = header :: data ∧
      ∀ cell ∈ header, IsFilled cell → normalizeHeader cell.display ≠ "") ∧
    ∀ (sheet : Sheet) (header : List Value) (data : List (List Value)),
      ofRows layout rows = .ok sheet → cut layout rows = header :: data →
      sheet.headers = (kept header).map (fun p => normalizeHeader p.1.display) ∧
      sheet.headers ≠ [] ∧
      sheet.rows =
        data.map (fun row => (kept header).map fun p => (row[p.2]?).getD (.str "")) ∧
      (∀ row ∈ sheet.rows, row.length = sheet.headers.length) ∧
      List.Forall₂ (IsRecord sheet.headers) sheet.rows sheet.records := by
  constructor
  · cases hcut : cut layout rows with
    | nil => simp [ofRows_nil hcut]
    | cons header data =>
      simp only [ofRows_cons hcut, List.cons.injEq]
      constructor
      · rintro ⟨sheet, hnames, -⟩
        exact ⟨header, data, ⟨rfl, rfl⟩, hnames⟩
      · rintro ⟨_, _, ⟨rfl, rfl⟩, hnames⟩
        exact ⟨_, hnames, rfl⟩
  · intro sheet header data hsheet hcut
    have hrecords := isRecord_records hsheet
    have hlength : ∀ row ∈ sheet.rows, row.length = sheet.headers.length := fun _ =>
      length_row hsheet
    obtain ⟨-, rfl⟩ := (ofRows_cons hcut).1 hsheet
    have hnonempty : (built header data).headers ≠ [] := by
      simpa [built] using kept_ne_nil hcut
    exact ⟨rfl, hnonempty, rfl, hlength, hrecords⟩

/-- A row of notes, a header with an empty cell and a name given twice, a blank row, a row that
is too short and one that is too long. -/
def raggedRows : List (List Value) :=
  [[.str "notes"], [.null, .str "Name", .str "", .str "The Age", .str "name"],
    [.str "#", .str "", .null], [.str "1", .str "Ann", .bool true, .null],
    [.str "2", .str "Bo", .str "x", .int 7, .str "Bob", .str "y"]]

theorem ofRows_ragged : ∃ sheet, ofRows ⟨',', 1, 1⟩ raggedRows = .ok sheet ∧
    sheet.headers = ["name", "the_age", "name"] ∧
    sheet.rows = [[.str "Ann", .null, .str ""], [.str "Bo", .int 7, .str "Bob"]] ∧
    List.Forall₂ (IsRecord sheet.headers) sheet.rows sheet.records := by
  obtain ⟨hok, hbuilt⟩ := ofRows_built ⟨',', 1, 1⟩ raggedRows
  have hcut : cut ⟨',', 1, 1⟩ raggedRows =
      [.str "Name", .str "", .str "The Age", .str "name"] ::
        [[.str "Ann", .bool true, .null], [.str "Bo", .str "x", .int 7, .str "Bob", .str "y"]] :=
    rfl
  obtain ⟨sheet, hsheet⟩ := hok.2 ⟨_, _, hcut, by decide +kernel⟩
  obtain ⟨hheaders, -, hrows, -, hrecords⟩ := hbuilt sheet _ _ hsheet hcut
  exact ⟨sheet, hsheet, hheaders.trans (by decide +kernel), hrows, hrecords⟩

end Sheet
end MailMerge
