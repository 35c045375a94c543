/-
# The segments of paths

A path with a slash in it has the segments of what stands before the slash and then those
of what stands behind.  So trimming the end of a path keeps its segments, and the path
above it has one segment fewer.
-/

import MailMerge.Path
import Mathlib.Data.List.DropRight

namespace MailMerge

/-! ### Splitting -/

namespace Text

variable {sep : Char} {cs : List Char}

theorem splitOn_nil (sep : Char) : splitOn sep [] = [[]] := rfl

theorem splitOn_cons_self (sep : Char) (cs : List Char) :
    splitOn sep (sep :: cs) = [] :: splitOn sep cs := by
  rw [splitOn, RangeSet.pieces, if_pos rfl, splitOn]

theorem splitOn_ne_nil (sep : Char) (cs : List Char) : splitOn sep cs ≠ [] := by
  cases cs with
  | nil => simp [splitOn_nil]
  | cons c cs =>
    rw [splitOn, RangeSet.pieces]
    split
    · simp
    · split <;> simp

theorem splitOn_cons {c : Char} (h : c ≠ sep) {p : List Char} {ps : List (List Char)}
    (hcs : splitOn sep cs = p :: ps) : splitOn sep (c :: cs) = (c :: p) :: ps := by
  rw [splitOn] at hcs
  rw [splitOn, RangeSet.pieces, if_neg h, hcs]

theorem splitOn_append (sep : Char) (as bs : List Char) :
    splitOn sep (as ++ sep :: bs) = splitOn sep as ++ splitOn sep bs := by
  induction as with
  | nil => exact splitOn_cons_self sep bs
  | cons a as ih =>
    by_cases ha : a = sep
    · subst ha
      rw [List.cons_append, splitOn_cons_self, splitOn_cons_self, ih, List.cons_append]
    · obtain ⟨p, ps, hps⟩ := List.exists_cons_of_ne_nil (splitOn_ne_nil sep as)
      rw [hps, List.cons_append] at ih
      rw [List.cons_append, splitOn_cons ha ih, splitOn_cons ha hps, List.cons_append]

theorem splitOn_of_notMem (h : sep ∉ cs) : splitOn sep cs = [cs] := by
  induction cs with
  | nil => rfl
  | cons c cs ih =>
    rw [List.mem_cons, not_or] at h
    exact splitOn_cons (Ne.symm h.1) (ih h.2)

end Text

namespace Path

variable {cs last : List Char} {s above : String}

/-! ### Segments -/

theorem segments_append (as bs : List Char) :
    segments (as ++ '/' :: bs) = segments as ++ segments bs := by
  rw [segments, Text.splitOn_append, List.filter_append, segments, segments]

theorem segments_of_notMem (h : '/' ∉ cs) (hne : cs ≠ []) (hdot : cs ≠ ['.']) :
    segments cs = [cs] := by
  rw [segments, Text.splitOn_of_notMem h]
  simp [hne, hdot]

theorem segments_slash (as : List Char) : segments (as ++ ['/']) = segments as :=
  (segments_append as []).trans (List.append_nil _)

/-! ### Trimming -/

/-- The end of a path, read backwards, has nothing to be trimmed. -/
def Settled : List Char → Prop
  | '/' :: _ :: _ => False
  | '.' :: '/' :: _ => False
  | _ => True

theorem settled_go {fuel : Nat} {back : List Char} (h : back.length ≤ fuel) :
    Settled (trimEnd.go fuel back) := by
  induction fuel generalizing back with
  | zero =>
    obtain rfl := List.length_eq_zero_iff.1 (Nat.le_zero.1 h)
    trivial
  | succ fuel ih =>
    unfold trimEnd.go
    split
    · exact ih (Nat.le_of_succ_le_succ h)
    · split
      · trivial
      · exact ih (Nat.le_of_succ_le_succ h)
    · next h₁ h₂ =>
      unfold Settled
      split
      · exact absurd rfl (h₁ _ _)
      · exact absurd rfl (h₂ _)
      · trivial

theorem go_suffix (fuel : Nat) (back : List Char) : trimEnd.go fuel back <:+ back := by
  induction fuel generalizing back with
  | zero => exact List.suffix_rfl
  | succ fuel ih =>
    unfold trimEnd.go
    split
    · exact (ih _).trans (List.suffix_cons _ _)
    · next rest =>
      split
      · next hrest => exact List.isEmpty_iff.1 hrest ▸ List.suffix_cons _ _
      · exact (ih _).trans (List.suffix_cons _ _)
    · exact List.suffix_rfl

theorem go_ne_nil {back : List Char} (fuel : Nat) (h : back ≠ []) : trimEnd.go fuel back ≠ [] := by
  induction fuel generalizing back with
  | zero => exact h
  | succ fuel ih =>
    unfold trimEnd.go
    split
    · exact ih (List.cons_ne_nil _ _)
    · split
      · exact List.cons_ne_nil _ _
      · exact ih (List.cons_ne_nil _ _)
    · exact h

theorem segments_go (fuel : Nat) (back : List Char) :
    segments (trimEnd.go fuel back).reverse = segments back.reverse := by
  have hdot : ∀ as, segments (as ++ ['/', '.']) = segments as := fun as =>
    (segments_append as ['.']).trans (List.append_nil _)
  induction fuel generalizing back with
  | zero => rfl
  | succ fuel ih =>
    unfold trimEnd.go
    split
    · rw [ih]
      exact (List.reverse_cons ▸ segments_slash _).symm
    · next rest =>
      have hrest : segments ('.' :: '/' :: rest).reverse = segments rest.reverse := by
        rw [List.reverse_cons, List.reverse_cons, List.append_assoc]
        exact hdot _
      rw [hrest]
      split
      · next h =>
        rw [List.isEmpty_iff.1 h]
        rfl
      · rw [ih, List.reverse_cons, segments_slash]
    · rfl

theorem isPrefix_trimEnd (cs : List Char) : trimEnd cs <+: cs := by
  have h := go_suffix cs.length cs.reverse
  rwa [← List.reverse_prefix, List.reverse_reverse] at h

theorem segments_trimEnd (cs : List Char) : segments (trimEnd cs) = segments cs := by
  rw [trimEnd, segments_go, List.reverse_reverse]

theorem settled_trimEnd (cs : List Char) : Settled (trimEnd cs).reverse := by
  rw [trimEnd, List.reverse_reverse]
  exact settled_go (Nat.le_of_eq List.length_reverse)

theorem trimEnd_ne_nil (h : cs ≠ []) : trimEnd cs ≠ [] := by
  rw [trimEnd, Ne, List.reverse_eq_nil_iff]
  exact go_ne_nil _ (by simpa using h)

theorem isAbsolute_of_isPrefix {as : List Char} (h : as <+: cs) (hne : as ≠ []) :
    isAbsolute as = isAbsolute cs := by
  obtain ⟨bs, rfl⟩ := h
  obtain ⟨a, as, rfl⟩ := List.exists_cons_of_ne_nil hne
  rfl

/-- What a trimmed path is: nothing, the root, a last segment alone, or one behind a slash. -/
theorem Settled.cases (h : Settled cs.reverse) : cs = [] ∨ cs = ['/'] ∨
    ∃ last, '/' ∉ last ∧ last ≠ [] ∧
      (cs = last ∨ last ≠ ['.'] ∧ ∃ front, cs = front ++ '/' :: last) := by
  by_cases hslash : '/' ∈ cs.reverse
  · obtain ⟨back, rest, hsplit, hback⟩ := List.eq_append_cons_of_mem hslash
    have hcs : cs = rest.reverse ++ '/' :: back.reverse := by
      rw [← cs.reverse_reverse, hsplit]
      simp
    rw [hsplit] at h
    rcases back with _ | ⟨c, back⟩
    · rcases rest with _ | ⟨c, rest⟩
      · exact .inr (.inl hcs)
      · exact h.elim
    · refine .inr (.inr ⟨(c :: back).reverse, by rwa [List.mem_reverse], by simp,
        .inr ⟨?_, rest.reverse, hcs⟩⟩)
      intro hdot
      rw [show c :: back = ['.'] from List.reverse_inj.1 hdot] at h
      exact h
  · rw [List.mem_reverse] at hslash
    rcases cs with _ | ⟨c, cs⟩
    · exact .inl rfl
    · exact .inr (.inr ⟨c :: cs, hslash, List.cons_ne_nil _ _, .inl rfl⟩)

/-! ### The path above -/

/-- What the path above has to do with a path. -/
structure IsAbove (above s : String) : Prop where
  settled : Settled above.toList.reverse
  shorter : above.length < s.length
  start : above.toList <+: s.toList
  isAbsolute : isAbsolute above.toList = isAbsolute s.toList
  segments : segments above.toList = (segments s.toList).dropLast

/-- What stands up to the last slash of a trimmed path is shorter by its last segment. -/
theorem Settled.rdropWhile (h : Settled cs.reverse) (hne : cs ≠ []) (hroot : cs ≠ ['/']) :
    let front := cs.rdropWhile (· ≠ '/')
    front.length < cs.length ∧ Path.isAbsolute front = Path.isAbsolute cs ∧
      segments front = (segments cs).dropLast := by
  obtain hcs | hcs | ⟨last, hslash, hlast, hcs⟩ := h.cases
  · exact absurd hcs hne
  · exact absurd hcs hroot
  have hnot : ∀ c ∈ last, decide (c ≠ '/') = true := fun c hc =>
    decide_eq_true fun he => hslash (he ▸ hc)
  rcases hcs with rfl | ⟨hdot, as, rfl⟩
  · rw [List.rdropWhile_eq_nil_iff.2 hnot]
    refine ⟨List.length_pos_iff.2 hlast, ?_, ?_⟩
    · obtain ⟨c, cs, rfl⟩ := List.exists_cons_of_ne_nil hlast
      have hc : c ≠ '/' := fun he => hslash (he ▸ List.mem_cons_self)
      simp [Path.isAbsolute, hc]
    · by_cases hdot : cs = ['.']
      · rw [hdot]
        rfl
      · rw [segments_of_notMem hslash hlast hdot]
        rfl
  · have hfront : (as ++ '/' :: last).rdropWhile (· ≠ '/') = as ++ ['/'] := by
      rw [List.rdropWhile, List.reverse_append, List.reverse_cons, List.append_assoc,
        List.dropWhile_append_of_pos fun c hc => hnot c (List.mem_reverse.1 hc)]
      simp
    rw [hfront, segments_append, segments_of_notMem hslash hlast hdot, List.dropLast_concat]
    refine ⟨?_, isAbsolute_of_isPrefix ⟨last, by simp⟩ (by simp), segments_slash as⟩
    have := List.length_pos_iff.2 hlast
    simpa

theorem parent?_eq (s : String) : parent? s =
    if trimEnd s.toList = [] ∨ trimEnd s.toList = ['/'] then none
    else some (String.ofList (trimEnd ((trimEnd s.toList).rdropWhile (· ≠ '/')))) := by
  rw [parent?]
  simp only [Bool.or_eq_true, List.isEmpty_iff, beq_iff_eq, List.reverse_eq_iff,
    List.reverse_singleton]
  rfl

theorem parent?_eq_none (h : parent? s = none) : segments s.toList = [] := by
  rw [parent?_eq] at h
  split_ifs at h with hroot
  rw [← segments_trimEnd]
  rcases hroot with hcs | hcs <;> rw [hcs] <;> rfl

theorem isAbove_of_parent? (h : parent? s = some above) : IsAbove above s := by
  rw [parent?_eq] at h
  split_ifs at h with hroot
  rw [not_or] at hroot
  have hprefix := isPrefix_trimEnd s.toList
  have hsegments := segments_trimEnd s.toList
  obtain ⟨hshorter, habsolute, hdropLast⟩ :=
    (settled_trimEnd s.toList).rdropWhile hroot.1 hroot.2
  have hfront := List.rdropWhile_prefix (fun c => decide (c ≠ '/')) (trimEnd s.toList)
  generalize (trimEnd s.toList).rdropWhile (fun c => decide (c ≠ '/')) = front at *
  have hchars : above.toList = trimEnd front := by
    rw [← Option.some.inj h, String.toList_ofList]
  exact {
    settled := hchars ▸ settled_trimEnd front
    shorter := by
      rw [← String.length_toList, ← String.length_toList, hchars]
      exact ((isPrefix_trimEnd front).length_le.trans_lt hshorter).trans_le hprefix.length_le
    start := hchars ▸ (isPrefix_trimEnd front).trans (hfront.trans hprefix)
    isAbsolute := by
      rw [hchars, ← isAbsolute_of_isPrefix hprefix hroot.1, ← habsolute]
      by_cases hnil : front = []
      · rw [hnil]
        rfl
      · exact isAbsolute_of_isPrefix (isPrefix_trimEnd front) (trimEnd_ne_nil hnil)
    segments := by rw [hchars, segments_trimEnd, hdropLast, hsegments] }

end Path
end MailMerge
