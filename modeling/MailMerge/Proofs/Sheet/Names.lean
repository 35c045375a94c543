/-
# The normal form of column names

In lower case a column name keeps the characters `0`–`9`, `a`–`z` and `_`; a maximal run of any
others becomes one underscore, and what cannot start a name is dropped in front.  The loop that
joins the runs is compared with the text cut into runs (`Sheet.joinRuns_flatten`): what it
remembers of the character before matters inside a run only.  A name in normal form is in lower
case, a single run and starts well, so a second pass leaves it as it is.
-/

import Mathlib.Data.List.SplitBy
import MailMerge.Proofs.Sheet.Headers
import MailMerge.Proofs.Text.Lowered

namespace MailMerge
namespace Sheet

/-- Whether a character is one of `0`–`9`, `a`–`z` and `_`. -/
def isNameChar (c : Char) : Bool := c.isDigit || c.isLower || c == '_'

/-- Whether a character is one of `a`–`z` and `_`. -/
def isNameStart (c : Char) : Bool := c.isLower || c == '_'

/-- Whether two characters may both stand in a name or both not. -/
def sameKind (c d : Char) : Bool := isNameChar c == isNameChar d

/-- A text cut into its maximal runs of characters of one kind. -/
def runs (cs : List Char) : List (List Char) := cs.splitBy sameKind

/-- What a column name has for a run: the run itself, or one underscore for other characters. -/
def joined (run : List Char) : List Char := if run.all isNameChar then run else ['_']

/-! ### Characters -/

theorem isAlpha_eq (c : Char) : c.isAlpha = (c.isUpper || c.isLower) := rfl

theorem isHeaderChar_eq {c : Char} (h : c.isUpper = false) : isHeaderChar c = isNameChar c := by
  rw [isHeaderChar, isNameChar, Char.isAlphanum, isAlpha_eq, h, Bool.false_or,
    Bool.or_comm c.isLower]

theorem isHeaderStart_eq {c : Char} (h : c.isUpper = false) : isHeaderStart c = isNameStart c := by
  rw [isHeaderStart, isNameStart, isAlpha_eq, h, Bool.false_or]

theorem ascii_of_isNameChar {c : Char} (h : isNameChar c = true) :
    c.toNat < 128 ∧ c.isUpper = false := by
  have hheader : isHeaderChar c = true := by
    rw [isNameChar, Bool.or_assoc, Bool.or_eq_true, Bool.or_eq_true] at h
    rw [isHeaderChar, Char.isAlphanum, isAlpha_eq]
    rcases h with h | h | h <;> simp only [h, Bool.or_true, Bool.true_or]
  have hascii : c.toNat < 128 := toNat_lt_of_isAlphanum hheader
  exact ⟨hascii, forall_ascii (p := fun c => isNameChar c = true → c.isUpper = false) (by decide)
    hascii h⟩

theorem isNameChar_of_isNameStart {c : Char} (h : isNameStart c = true) : isNameChar c = true := by
  rw [isNameChar, Bool.or_assoc, ← isNameStart, h, Bool.or_true]

/-! ### Runs -/

/-- The characters of a run are all of the kind of its first. -/
theorem isNameChar_of_mem_run {c d : Char} {run : List Char}
    (h : (c :: run).IsChain fun a b => sameKind a b) (hd : d ∈ run) :
    isNameChar d = isNameChar c := by
  induction run generalizing c with
  | nil => exact absurd hd List.not_mem_nil
  | cons e run ih =>
    obtain ⟨hce, hrun⟩ := List.isChain_cons_cons.1 h
    have hce : isNameChar c = isNameChar e := beq_iff_eq.1 hce
    rcases List.mem_cons.1 hd with rfl | hd
    · exact hce.symm
    · exact (ih hrun hd).trans hce.symm

theorem joinRuns_append_of_name {run rest : List Char} (h : ∀ c ∈ run, isHeaderChar c = true) :
    joinRuns false (run ++ rest) = run ++ joinRuns false rest := by
  induction run with
  | nil => rfl
  | cons c run ih =>
    obtain ⟨hc, hrun⟩ := List.forall_mem_cons.1 h
    rw [List.cons_append, joinRuns, if_pos hc, ih hrun, List.cons_append]

theorem joinRuns_append_of_other {run rest : List Char} (h : ∀ c ∈ run, isHeaderChar c = false) :
    joinRuns true (run ++ rest) = joinRuns true rest := by
  induction run with
  | nil => rfl
  | cons c run ih =>
    obtain ⟨hc, hrun⟩ := List.forall_mem_cons.1 h
    rw [List.cons_append, joinRuns, hc, if_neg Bool.false_ne_true, if_pos rfl, ih hrun]

/-- In front of a character for names it does not matter whether a run came before. -/
theorem joinRuns_of_head {inRun : Bool} {cs : List Char}
    (h : ∀ c ∈ cs.head?, isHeaderChar c = true) : joinRuns inRun cs = joinRuns false cs := by
  cases cs with
  | nil => rfl
  | cons c cs => rw [joinRuns, joinRuns, if_pos (h c rfl), if_pos (h c rfl)]

/-- **The loop that joins runs gives each maximal run its one place in the name.** -/
theorem joinRuns_flatten {rs : List (List Char)} (hlow : ∀ c ∈ rs.flatten, c.isUpper = false)
    (hnil : [] ∉ rs) (hkind : ∀ run ∈ rs, run.IsChain fun a b => sameKind a b)
    (hmax : rs.IsChain fun r s => ∃ hr hs, sameKind (r.getLast hr) (s.head hs) = false) :
    joinRuns false rs.flatten = rs.flatMap joined := by
  induction rs with
  | nil => rfl
  | cons run rs ih =>
    rw [List.flatten_cons] at hlow
    obtain ⟨hlowrun, hlowrest⟩ := List.forall_mem_append.1 hlow
    obtain ⟨hkindrun, hkindrest⟩ := List.forall_mem_cons.1 hkind
    have ih := ih hlowrest (fun h => hnil (List.mem_cons_of_mem _ h)) hkindrest hmax.tail
    obtain _ | ⟨c, run⟩ := run
    · exact absurd List.mem_cons_self hnil
    have hall : ∀ d ∈ c :: run, isNameChar d = isNameChar c :=
      List.forall_mem_cons.2 ⟨rfl, fun d => isNameChar_of_mem_run hkindrun⟩
    have hheader : ∀ d ∈ c :: run, isHeaderChar d = isNameChar c := fun d hd =>
      (isHeaderChar_eq (hlowrun d hd)).trans (hall d hd)
    rw [List.flatten_cons, List.flatMap_cons]
    cases hc : isNameChar c with
    | true =>
      have hjoined : joined (c :: run) = c :: run :=
        if_pos (List.all_eq_true.2 fun d hd => (hall d hd).trans hc)
      rw [joinRuns_append_of_name fun d hd => (hheader d hd).trans hc, ih, hjoined]
    | false =>
      have hjoined : joined (c :: run) = ['_'] := if_neg fun h =>
        Bool.false_ne_true (hc.symm.trans (List.all_eq_true.1 h c List.mem_cons_self))
      have hrun : ∀ d ∈ run, isHeaderChar d = false := fun d hd =>
        (hheader d (List.mem_cons_of_mem _ hd)).trans hc
      -- the run ends where it does because the next character is of the other kind
      have hnext : ∀ d ∈ rs.flatten.head?, isHeaderChar d = true := by
        intro d hd
        obtain _ | ⟨next, rs⟩ := rs
        · cases hd
        obtain ⟨hr, hs, hdiffer⟩ := (List.isChain_cons_cons.1 hmax).1
        obtain _ | ⟨e, next⟩ := next
        · exact absurd rfl hs
        obtain rfl : e = d := Option.some.inj hd
        rw [isHeaderChar_eq (hlowrest e List.mem_cons_self)]
        have hlast := (hall _ (List.getLast_mem hr)).trans hc
        simpa [sameKind, hlast] using hdiffer
      rw [List.cons_append, joinRuns, (hheader c List.mem_cons_self).trans hc,
        if_neg Bool.false_ne_true, if_neg Bool.false_ne_true, joinRuns_append_of_other hrun,
        joinRuns_of_head hnext, ih, hjoined, List.singleton_append]

theorem isNameChar_of_mem_joined {run : List Char} {c : Char} (h : c ∈ joined run) :
    isNameChar c = true := by
  rw [joined] at h
  split_ifs at h with hall
  · exact List.all_eq_true.1 hall c h
  · rw [List.mem_singleton.1 h]
    rfl

/-! ### Names -/

theorem dropWhile_isHeaderStart {cs : List Char} (h : ∀ c ∈ cs, c.isUpper = false) :
    (cs.dropWhile fun c => !isHeaderStart c) = cs.dropWhile fun c => !isNameStart c := by
  induction cs with
  | nil => rfl
  | cons c cs ih =>
    obtain ⟨hc, hcs⟩ := List.forall_mem_cons.1 h
    rw [List.dropWhile_cons, List.dropWhile_cons, isHeaderStart_eq hc, ih hcs]

/-- The column name of a header text, run by run. -/
theorem headerChars_eq (cs : List Char) :
    headerChars cs =
      ((runs (Text.lower cs)).flatMap joined).dropWhile fun c => !isNameStart c := by
  have hjoin : joinRuns false (Text.lower cs) = (runs (Text.lower cs)).flatMap joined := by
    conv_lhs => rw [← List.flatten_splitBy sameKind (Text.lower cs)]
    refine joinRuns_flatten ?_ (List.nil_notMem_splitBy _ _)
      (fun _ => List.isChain_of_mem_splitBy) (List.isChain_getLast_head_splitBy _ _)
    rw [List.flatten_splitBy]
    exact fun c => Text.isUpper_of_mem_lower
  rw [headerChars, hjoin]
  refine dropWhile_isHeaderStart fun c hc => ?_
  obtain ⟨run, -, hc⟩ := List.mem_flatMap.1 hc
  exact (ascii_of_isNameChar (isNameChar_of_mem_joined hc)).2

/-- A text in the normal form of column names: nothing, or a character that starts a name and
characters for names behind it. -/
def IsName (cs : List Char) : Prop :=
  cs = [] ∨ ∃ c rest, cs = c :: rest ∧ isNameStart c = true ∧ ∀ d ∈ rest, isNameChar d = true

theorem IsName.forall_isNameChar {cs : List Char} (h : IsName cs) :
    ∀ c ∈ cs, isNameChar c = true := by
  obtain rfl | ⟨c, rest, rfl, hc, hrest⟩ := h
  · exact fun _ h => absurd h List.not_mem_nil
  · exact List.forall_mem_cons.2 ⟨isNameChar_of_isNameStart hc, hrest⟩

theorem isName_headerChars (cs : List Char) : IsName (headerChars cs) := by
  rcases hcs : headerChars cs with _ | ⟨c, rest⟩
  · exact .inl rfl
  obtain ⟨hc, hrest⟩ := headerChars_facts hcs
  have hsub : ∀ d ∈ c :: rest, d.isUpper = false := by
    intro d hd
    rw [← hcs, headerChars_eq] at hd
    obtain ⟨run, -, hd⟩ := List.mem_flatMap.1 ((List.dropWhile_suffix _).subset hd)
    exact (ascii_of_isNameChar (isNameChar_of_mem_joined hd)).2
  obtain ⟨hupper, hupperrest⟩ := List.forall_mem_cons.1 hsub
  refine .inr ⟨c, rest, rfl, (isHeaderStart_eq hupper).symm.trans hc, fun d hd => ?_⟩
  exact (isHeaderChar_eq (hupperrest d hd)).symm.trans (hrest d hd)

/-- A text in normal form is its own column name. -/
theorem headerChars_of_isName {cs : List Char} (h : IsName cs) : headerChars cs = cs := by
  have hchars := h.forall_isNameChar
  have hlower : Text.lower cs = cs :=
    Text.lowerAfter_of_ascii fun c hc => ascii_of_isNameChar (hchars c hc)
  have hheader : ∀ c ∈ cs, isHeaderChar c = true := fun c hc =>
    (isHeaderChar_eq (ascii_of_isNameChar (hchars c hc)).2).trans (hchars c hc)
  have hjoin : joinRuns false cs = cs := by
    have hend : joinRuns false (cs ++ []) = cs ++ [] := joinRuns_append_of_name hheader
    rwa [List.append_nil] at hend
  rw [headerChars, hlower, hjoin]
  obtain rfl | ⟨c, rest, rfl, hc, -⟩ := h
  · rfl
  · have hstart : isHeaderStart c = true :=
      (isHeaderStart_eq (ascii_of_isNameChar (hchars c List.mem_cons_self)).2).trans hc
    rw [List.dropWhile_cons, hstart, Bool.not_true, if_neg Bool.false_ne_true]

/-- **Header texts come to names.**  The column name of a text is nothing, or a letter `a`–`z` or
underscore with characters `0`–`9`, `a`–`z` and `_` behind it.  It is its own column name.  It is
the same for all texts that are alike in lower case, and it is the text in lower case with one
underscore for each maximal run of other characters, from the first letter or underscore on. -/
theorem normalizeHeader_normal (s : String) :
    IsName (normalizeHeader s).toList ∧
      normalizeHeader (normalizeHeader s) = normalizeHeader s ∧
      (∀ t : String, Text.lower t.toList = Text.lower s.toList →
        normalizeHeader t = normalizeHeader s) ∧
      (normalizeHeader s).toList =
        ((runs (Text.lower s.toList)).flatMap joined).dropWhile fun c => !isNameStart c := by
  have hchars : (normalizeHeader s).toList = headerChars s.toList := String.toList_ofList
  refine ⟨?_, ?_, fun t ht => ?_, ?_⟩
  · rw [hchars]
    exact isName_headerChars _
  · rw [normalizeHeader, hchars, headerChars_of_isName (isName_headerChars _), normalizeHeader]
  · rw [normalizeHeader, headerChars, ht, ← headerChars, ← normalizeHeader]
  · rw [hchars, headerChars_eq]

/-- `Price (EUR)` and `PRICE (eur)` are alike in lower case, so they come to one name. -/
theorem normalizeHeader_price :
    Text.lower "Price (EUR)".toList = Text.lower "PRICE (eur)".toList ∧
      normalizeHeader "Price (EUR)" = normalizeHeader "PRICE (eur)" := by
  have hlower : Text.lower "Price (EUR)".toList = Text.lower "PRICE (eur)".toList := by
    rw [String.toList_ofList, String.toList_ofList]
    decide +kernel
  exact ⟨hlower, (normalizeHeader_normal "PRICE (eur)").2.2.1 _ hlower⟩

end Sheet
end MailMerge
