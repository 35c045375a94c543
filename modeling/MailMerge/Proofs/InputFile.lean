/-
# What reading an input file gives

Checking and reading input files leaves the files alone, and what it gives depends on
nothing but them.  The cells of a sheet are texts and numbers, so its records are in order.
-/

import MailMerge.Proofs.Action
import MailMerge.Proofs.Variables.Merge
import MailMerge.Sheet.File

namespace MailMerge
namespace InputFile

/-- Why the file at a path is refused, if `binary` says whether it has to be binary. -/
def refusal? (t : FileTree) (path : String) (binary : Bool) : Option Failure :=
  (fault? t path binary).map (.input path)

/-- The text of the file at a path, which has to be a text file. -/
def textAt (t : FileTree) (path : String) : Except Failure String :=
  match refusal? t path false with
  | some e => .error e
  | none => (t.readText path).mapError fun e => .input path (.unreadable e)

/-- The sheet in the file at a path. -/
def sheetAt (books : WorkbookReader) (t : FileTree) (path : String) (layout : SheetLayout) :
    Except Failure Sheet := do
  let rows ← (rawRows books t layout.delimiter path).mapError (.input path)
  (Sheet.ofRows layout rows).mapError (.sheet (some path))

theorem check_apply (path : String) (binary : Bool) (w : World) :
    check path binary w = ((match refusal? w.files path binary with
      | some e => .error e
      | none => .ok ()), w) := by
  unfold check refusal?
  rw [Action.files_bind]
  cases fault? w.files path binary <;> rfl

theorem readText_apply (path : String) (w : World) :
    readText path w = (textAt w.files path, w) := by
  unfold readText textAt
  rw [Action.bind_apply, check_apply]
  cases refusal? w.files path false with
  | some e => rfl
  | none => exact Action.ofExcept_apply _ _

/-- A text that cannot be had is the fault of its file. -/
theorem textAt_error {t : FileTree} {path : String} {f : Failure}
    (h : textAt t path = .error f) : ∃ fault, f = .input path fault := by
  unfold textAt refusal? at h
  cases hfault : fault? t path false with
  | some fault =>
    rw [hfault] at h
    exact ⟨fault, (Except.error.inj h).symm⟩
  | none =>
    rw [hfault] at h
    obtain ⟨e, -, rfl⟩ := exists_of_mapError_error h
    exact ⟨.unreadable e, rfl⟩

theorem readSheet_apply (books : WorkbookReader) (path : String) (layout : SheetLayout)
    (w : World) : ∃ es, readSheet books path layout w =
      (sheetAt books w.files path layout, ⟨w.files, w.events ++ es⟩) := by
  unfold readSheet sheetAt
  rw [Action.files_bind, Action.bind_apply, Action.ofExcept_apply]
  cases rawRows books w.files layout.delimiter path with
  | error e => exact ⟨[], by simp [Except.mapError, bind, Except.bind]⟩
  | ok rows =>
    refine ⟨[.sheetRead path rows.length] ++
      (Sheet.duplicateHeaders layout rows).map .duplicateHeader, ?_⟩
    change (Action.ofExcept _ _ : Action Sheet) _ = _
    rw [Action.ofExcept_apply, ← List.append_assoc]
    rfl

/-! ### The values in a sheet -/

/-- What holds of everything that a function gives holds of all that it gives for a list. -/
theorem forall_of_mapM {α β : Type} {f : α → Option β} {q : β → Prop} {xs : List α} {ys : List β}
    (h : xs.mapM f = some ys) (hf : ∀ x y, f x = some y → q y) : ∀ y ∈ ys, q y := by
  induction xs generalizing ys with
  | nil =>
    obtain rfl : [] = ys := Option.some.inj h
    simp
  | cons x xs ih =>
    rw [List.mapM_cons] at h
    obtain ⟨y, hy, h⟩ := Option.bind_eq_some_iff.1 h
    obtain ⟨zs, hzs, h⟩ := Option.bind_eq_some_iff.1 h
    obtain rfl := Option.some.inj h
    exact List.forall_mem_cons.2 ⟨hf x y hy, ih hzs⟩

theorem inOrder_cellValue (s : String) : (Delimited.cellValue s).InOrder := by
  unfold Delimited.cellValue
  dsimp only
  split
  · rfl
  · split
    · split <;> rfl
    · rfl

theorem inOrder_workbookCell (cell : WorkbookCell) : cell.value.InOrder := by
  cases cell with
  | float x =>
    dsimp only [WorkbookCell.value]
    split <;> rfl
  | _ => rfl

theorem inOrder_workbook {workbook : Workbook} {rows : List (List Value)}
    (h : workbook.rows = .ok rows) : ∀ row ∈ rows, ∀ v ∈ row, v.InOrder := by
  unfold Workbook.rows at h
  split at h
  · cases h
  · cases h
  · obtain rfl := Except.ok.inj h
    intro row hrow v hv
    obtain ⟨cells, -, rfl⟩ := List.mem_map.1 hrow
    obtain ⟨cell, -, rfl⟩ := List.mem_map.1 hv
    exact inOrder_workbookCell cell

theorem inOrder_delimited {delimiter : Char} {content : ByteArray} {rows : List (List Value)}
    (h : Delimited.values? delimiter content = some rows) :
    ∀ row ∈ rows, ∀ v ∈ row, v.InOrder := by
  refine forall_of_mapM h fun cells row hrow => forall_of_mapM hrow fun cell v hv => ?_
  obtain ⟨s, -, rfl⟩ := Option.map_eq_some_iff.1 hv
  exact inOrder_cellValue s

theorem inOrder_rawRows {books : WorkbookReader} {t : FileTree} {delimiter : Char} {path : String}
    {rows : List (List Value)} (h : rawRows books t delimiter path = .ok rows) :
    ∀ row ∈ rows, ∀ v ∈ row, v.InOrder := by
  unfold rawRows at h
  split at h
  · cases h
  · split_ifs at h
    · split at h
      · cases h
      · exact inOrder_workbook h
    · split at h
      · next hvalues =>
        obtain rfl := Except.ok.inj h
        exact inOrder_delimited hvalues
      · cases h

/-- A sheet takes its cells from the rows, or leaves them empty. -/
theorem inOrder_ofRows {layout : SheetLayout} {rows : List (List Value)} {sheet : Sheet}
    (h : Sheet.ofRows layout rows = .ok sheet) (hrows : ∀ row ∈ rows, ∀ v ∈ row, v.InOrder) :
    ∀ row ∈ sheet.rows, ∀ v ∈ row, v.InOrder := by
  have hregion : ∀ row ∈ Sheet.region layout rows, ∀ v ∈ row, v.InOrder := by
    intro row hrow v hv
    obtain ⟨raw, hraw, rfl⟩ := List.mem_map.1 (List.mem_of_mem_filter hrow)
    exact hrows raw (List.mem_of_mem_drop hraw) v (List.mem_of_mem_drop hv)
  unfold Sheet.ofRows at h
  split at h
  · cases h
  · next header data hsplit =>
    rw [hsplit] at hregion
    cases hcols : Sheet.columns 0 header with
    | error e =>
      rw [hcols] at h
      cases h
    | ok cols =>
      rw [hcols] at h
      obtain rfl := Except.ok.inj h
      intro row hrow v hv
      obtain ⟨raw, hraw, rfl⟩ := List.mem_map.1 hrow
      obtain ⟨col, -, rfl⟩ := List.mem_map.1 hv
      cases hcell : raw[col.1]? with
      | none => rfl
      | some cell =>
        exact hregion raw (List.mem_cons_of_mem _ hraw) cell (List.mem_of_getElem? hcell)

/-- **The records of a sheet are in order.** -/
theorem inOrder_records {books : WorkbookReader} {t : FileTree} {path : String}
    {layout : SheetLayout} {sheet : Sheet} (h : sheetAt books t path layout = .ok sheet) :
    ∀ cells ∈ sheet.records, (Value.map cells).InOrder := by
  obtain ⟨rows, hraw, hsheet⟩ := exists_of_bind_ok h
  intro cells hcells
  obtain ⟨row, hrow, rfl⟩ := List.mem_map.1 hcells
  exact Value.inOrder_ofList fun p hp => inOrder_ofRows (ok_of_mapError_ok hsheet)
    (inOrder_rawRows (ok_of_mapError_ok hraw)) row hrow p.2 (List.of_mem_zip hp).2

end InputFile
end MailMerge
