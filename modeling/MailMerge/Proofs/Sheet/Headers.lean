/-
# Column names are words

A header text is reduced to letters, digits and underscores in ASCII, from the first on that
can start a name.  What is left is a word of the template language or nothing, and nothing is
refused as a header.  Each row of a sheet has a cell for each header, so each record has a
value for each.
-/

import MailMerge.Proofs.Sheet.Records
import MailMerge.Proofs.Template.Spelling

namespace MailMerge
namespace Sheet

variable {layout : SheetLayout} {rows : List (List Value)} {sheet : Sheet}

/-! ### Names -/

theorem isHeaderChar_joinRuns {inRun : Bool} {cs : List Char} :
    ∀ c ∈ joinRuns inRun cs, isHeaderChar c = true := by
  induction cs generalizing inRun with
  | nil => exact fun _ h => absurd h List.not_mem_nil
  | cons c cs ih =>
    rw [joinRuns]
    split_ifs with hc
    · exact List.forall_mem_cons.2 ⟨hc, ih⟩
    · exact ih
    · exact List.forall_mem_cons.2 ⟨rfl, ih⟩

/-- What is left of a header text is made of characters for names, and starts with one that can
start a name. -/
theorem headerChars_facts {cs rest : List Char} {c : Char} (h : headerChars cs = c :: rest) :
    isHeaderStart c = true ∧ ∀ d ∈ rest, isHeaderChar d = true := by
  have hstart := List.head?_dropWhile_not (fun c => !isHeaderStart c)
    (joinRuns false (Text.lower cs))
  rw [← headerChars, h] at hstart
  have hchars : ∀ d ∈ headerChars cs, isHeaderChar d = true := fun d hd =>
    isHeaderChar_joinRuns d ((List.dropWhile_suffix _).subset hd)
  rw [h] at hchars
  exact ⟨by simpa using hstart, fun d hd => hchars d (List.mem_cons_of_mem _ hd)⟩

/-- **A column name is a word,** unless nothing is left of the header text. -/
theorem isWord_normalizeHeader {s : String} (h : normalizeHeader s ≠ "") :
    Lexer.IsWord (normalizeHeader s) := by
  have hchars : (normalizeHeader s).toList = headerChars s.toList := String.toList_ofList
  rcases hcs : headerChars s.toList with _ | ⟨c, rest⟩
  · rw [normalizeHeader, hcs] at h
    exact absurd rfl h
  · obtain ⟨hc, hrest⟩ := headerChars_facts hcs
    exact ⟨c, rest, hchars.trans hcs, isIdentStart_of_ascii hc,
      fun d hd => isIdentChar_of_ascii (hrest d hd)⟩

/-! ### Sheets -/

/-- The sheet of raw rows has a word for each column and a cell for each header in each row. -/
theorem ofRows_facts (h : ofRows layout rows = .ok sheet) :
    (∀ name ∈ sheet.headers, Lexer.IsWord name) ∧
      ∀ row ∈ sheet.rows, row.length = sheet.headers.length := by
  refine ⟨fun name hname => ?_, fun _ => length_row h⟩
  obtain ⟨header, data, -, hnames, rfl⟩ := exists_built h
  obtain ⟨p, hp, rfl⟩ := List.mem_map.1 hname
  obtain ⟨hcell, hfilled⟩ := List.mem_filter.1 hp
  exact isWord_normalizeHeader
    (hnames p.1 (List.fst_mem_of_mem_zipIdx hcell) (of_decide_eq_true hfilled))

theorem ordered_of_mem_records {record : Dict Value} (h : record ∈ sheet.records) :
    Dict.Ordered record := by
  obtain ⟨row, -, rfl⟩ := List.mem_map.1 h
  exact Dict.ordered_ofList _

/-- **Every record has a value for every header.** -/
theorem exists_find?_record (h : ofRows layout rows = .ok sheet) {record : Dict Value}
    (hrecord : record ∈ sheet.records) {name : String} (hname : name ∈ sheet.headers) :
    ∃ v, Dict.find? record name = some v := by
  obtain ⟨row, hrow, rfl⟩ := List.mem_map.1 hrecord
  have hrecord := isRecord_zip (length_row h hrow)
  rw [← Option.isSome_iff_exists, Dict.isSome_find?_iff, hrecord.mem_keys_iff]
  exact hname

end Sheet
end MailMerge
