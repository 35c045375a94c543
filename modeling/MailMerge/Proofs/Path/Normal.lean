/-
# Normal forms of paths

A path is brought into its normal form by putting its components together again, one seen from
the path of those before it.  Such a component is a segment without slashes, so it goes behind a
slash wherever something stands before it that does not end in one (`Path.toList_foldl_join`);
hence the normal form is the segments of the path with slashes between them, behind the root or
the `.` that the path starts with (`Path.toList_normalize`).  Splitting it again gives back the
same segments, and everything else follows from that: the normal form of a normal form is itself,
and no slash or `.` is left that says nothing.
-/

import MailMerge.Proofs.Path
import Mathlib.Data.List.Basic

namespace MailMerge

/-! ### Pieces and what they were joined from -/

namespace Text

variable {sep : Char} {cs : List Char}

theorem splitOn_eq (sep : Char) (cs : List Char) : splitOn sep cs = cs.splitOn sep := by
  induction cs with
  | nil => rfl
  | cons c cs ih =>
    rw [List.splitOn_cons_eq_if_modifyHead, ← ih]
    by_cases hc : c = sep
    · rw [if_pos (beq_iff_eq.2 hc), hc, splitOn_cons_self]
    · obtain ⟨p, ps, hps⟩ := List.exists_cons_of_ne_nil (splitOn_ne_nil sep cs)
      rw [if_neg (by simpa using hc), splitOn_cons hc hps, hps, List.modifyHead_cons]

/-- Parts that do not hold the separator are the pieces of what they are joined to. -/
theorem splitOn_intercalate {ps : List (List Char)} (h : ∀ p ∈ ps, sep ∉ p) (hne : ps ≠ []) :
    splitOn sep ([sep].intercalate ps) = ps := by
  rw [splitOn_eq, List.splitOn_intercalate sep h hne]

theorem notMem_of_mem_splitOn {p : List Char} (h : p ∈ splitOn sep cs) : sep ∉ p := by
  induction cs generalizing p with
  | nil =>
    obtain rfl := List.mem_singleton.1 h
    exact List.not_mem_nil
  | cons c cs ih =>
    by_cases hc : c = sep
    · rw [hc, splitOn_cons_self] at h
      rcases List.mem_cons.1 h with rfl | h
      · exact List.not_mem_nil
      · exact ih h
    · obtain ⟨q, qs, hqs⟩ := List.exists_cons_of_ne_nil (splitOn_ne_nil sep cs)
      rw [splitOn_cons hc hqs] at h
      rcases List.mem_cons.1 h with rfl | h
      · exact List.not_mem_cons_of_ne_of_not_mem (Ne.symm hc) (ih (hqs ▸ List.mem_cons_self))
      · exact ih (hqs ▸ List.mem_cons_of_mem q h)

/-- Between two separators, and behind one at the end, there is an empty piece. -/
theorem nil_mem_tail_splitOn {ds : List Char} (h : ds = [] ∨ ∃ es, ds = sep :: es) :
    [] ∈ (splitOn sep (cs ++ sep :: ds)).tail := by
  obtain ⟨p, ps, hps⟩ := List.exists_cons_of_ne_nil (splitOn_ne_nil sep cs)
  rw [splitOn_append, hps, List.cons_append, List.tail_cons]
  rcases h with rfl | ⟨es, rfl⟩
  · exact List.mem_append_right ps List.mem_cons_self
  · rw [splitOn_cons_self]
    exact List.mem_append_right ps List.mem_cons_self

end Text

namespace Path

variable {cs seg : List Char} {segs : List (List Char)} {base s : String}

/-! ### Components and segments -/

/-- A segment that says something. -/
structure IsSegment (seg : List Char) : Prop where
  ne_nil : seg ≠ []
  ne_dot : seg ≠ ['.']
  slash : '/' ∉ seg

theorem isSegment_of_mem (h : seg ∈ segments cs) : IsSegment seg := by
  obtain ⟨hmem, hsays⟩ := List.mem_filter.1 h
  rw [Bool.not_eq_true', Bool.or_eq_false_iff] at hsays
  exact ⟨by simpa using hsays.1, by simpa using hsays.2, Text.notMem_of_mem_splitOn hmem⟩

theorem text_ofSegment? (seg : List Char) : (Component.ofSegment? seg).map Component.text =
    if seg.isEmpty || seg == ['.'] then none else some (String.ofList seg) := by
  unfold Component.ofSegment?
  split_ifs with hsays hup
  · rfl
  · rw [beq_iff_eq.1 hup]
    rfl
  · rfl

/-- The names on a path are its segments, whatever it starts with. -/
theorem map_text_components (cs : List Char) : (components cs).map Component.text =
    (if isAbsolute cs then ["/"] else if startsHere cs then ["."] else []) ++
      (segments cs).map String.ofList := by
  have hnames : ∀ pieces : List (List Char),
      (pieces.filterMap Component.ofSegment?).map Component.text =
        (pieces.filter fun seg => !(seg.isEmpty || seg == ['.'])).map String.ofList := by
    intro pieces
    rw [List.map_filterMap, ← List.filterMap_eq_map', List.filterMap_filter]
    congr 1
    funext seg
    rw [text_ofSegment?]
    cases seg.isEmpty || seg == ['.'] <;> rfl
  rw [components, List.map_append, hnames, segments]
  split_ifs <;> rfl

/-! ### Putting segments together -/

theorem IsSegment.isAbsolute (h : IsSegment seg) : isAbsolute seg = false := by
  obtain ⟨c, cs, rfl⟩ := List.exists_cons_of_ne_nil h.ne_nil
  have hc : c ≠ '/' := fun he => h.slash (he ▸ List.mem_cons_self)
  simpa [Path.isAbsolute] using hc

theorem IsSegment.getLast? (h : IsSegment seg) : seg.getLast? ≠ some '/' :=
  fun he => h.slash (List.mem_of_getLast? he)

theorem toList_join (h : IsSegment seg) (base : String) :
    (join base (String.ofList seg)).toList =
      if base.toList = [] ∨ base.toList.getLast? = some '/' then base.toList ++ seg
      else base.toList ++ '/' :: seg := by
  rw [join, String.toList_ofList, h.isAbsolute, if_neg Bool.false_ne_true]
  have hempty : base.isEmpty = true ↔ base.toList = [] := by simp
  simp only [Bool.or_eq_true, hempty, beq_iff_eq]
  split_ifs <;> simp

/-- Behind a path that does not end in a slash each segment gets one before it. -/
theorem toList_foldl_join (h : ∀ seg ∈ segs, IsSegment seg) (hne : base.toList ≠ [])
    (hlast : base.toList.getLast? ≠ some '/') :
    (segs.foldl (fun path seg => join path (String.ofList seg)) base).toList =
      ['/'].intercalate (base.toList :: segs) := by
  induction segs generalizing base with
  | nil => exact List.intercalate_singleton.symm
  | cons seg segs ih =>
    obtain ⟨hseg, hsegs⟩ := List.forall_mem_cons.1 h
    have hjoin := toList_join hseg base
    rw [if_neg (not_or.2 ⟨hne, hlast⟩)] at hjoin
    have hlast' : (base.toList ++ '/' :: seg).getLast? ≠ some '/' := by
      obtain ⟨c, cs, rfl⟩ := List.exists_cons_of_ne_nil hseg.ne_nil
      simpa using hseg.getLast?
    rw [List.foldl_cons, ih hsegs (by simp [hjoin]) (hjoin ▸ hlast'), hjoin]
    cases segs with
    | nil => simp
    | cons seg' segs => simp [List.intercalate_cons_cons]

/-- At the start, and behind the root, the first segment gets none. -/
theorem toList_foldl_join_start (h : ∀ seg ∈ segs, IsSegment seg)
    (hbase : base.toList = [] ∨ base.toList.getLast? = some '/') :
    (segs.foldl (fun path seg => join path (String.ofList seg)) base).toList =
      base.toList ++ ['/'].intercalate segs := by
  cases segs with
  | nil => exact (List.append_nil _).symm
  | cons seg segs =>
    obtain ⟨hseg, hsegs⟩ := List.forall_mem_cons.1 h
    have hjoin := toList_join hseg base
    rw [if_pos hbase] at hjoin
    have hne : base.toList ++ seg ≠ [] := by simp [hseg.ne_nil]
    have hlast : (base.toList ++ seg).getLast? ≠ some '/' := by
      rw [List.getLast?_append_of_ne_nil _ hseg.ne_nil]
      exact hseg.getLast?
    rw [List.foldl_cons, toList_foldl_join hsegs (hjoin ▸ hne) (hjoin ▸ hlast), hjoin]
    cases segs with
    | nil => simp
    | cons seg' segs => simp [List.intercalate_cons_cons]

/-! ### The normal form -/

theorem startsHere_iff : startsHere cs = true ↔ ∃ ps, Text.splitOn '/' cs = ['.'] :: ps := by
  obtain ⟨p, ps, hps⟩ := List.exists_cons_of_ne_nil (Text.splitOn_ne_nil '/' cs)
  rw [startsHere, hps]
  simp

theorem isAbsolute_iff : isAbsolute cs = true ↔ ∃ ds, cs = '/' :: ds := by
  cases cs <;> simp [isAbsolute]

theorem not_isAbsolute_of_startsHere (h : startsHere cs = true) : ¬isAbsolute cs = true := by
  intro habs
  obtain ⟨ps, hps⟩ := startsHere_iff.1 h
  obtain ⟨ds, rfl⟩ := isAbsolute_iff.1 habs
  rw [Text.splitOn_cons_self] at hps
  exact absurd (List.cons.inj hps).1 (by decide)

/-- A path that starts neither at the root nor with `.` starts with a segment, unless it is
empty. -/
theorem exists_segment (hne : cs ≠ []) (habs : ¬isAbsolute cs = true)
    (hhere : ¬startsHere cs = true) : ∃ seg segs, segments cs = seg :: segs := by
  obtain ⟨c, cs, rfl⟩ := List.exists_cons_of_ne_nil hne
  have hc : c ≠ '/' := by simpa [isAbsolute] using habs
  obtain ⟨p, ps, hps⟩ := List.exists_cons_of_ne_nil (Text.splitOn_ne_nil '/' cs)
  have hsplit := Text.splitOn_cons hc hps
  have hdot : c :: p ≠ ['.'] := fun he => hhere (startsHere_iff.2 ⟨ps, he ▸ hsplit⟩)
  have hsays : ((c :: p).isEmpty || c :: p == ['.']) = false := by
    rw [List.isEmpty_cons, Bool.false_or, beq_eq_false_iff_ne.2 hdot]
  exact ⟨c :: p, _, by rw [segments, hsplit]; exact List.filter_cons_of_pos (congrArg not hsays)⟩

theorem toList_ofComponents (cs : List Char) : (ofComponents (components cs)).toList =
    if isAbsolute cs then '/' :: ['/'].intercalate (segments cs)
    else if startsHere cs then ['/'].intercalate (['.'] :: segments cs)
    else ['/'].intercalate (segments cs) := by
  have hsegs : ∀ seg ∈ segments cs, IsSegment seg := fun seg => isSegment_of_mem
  have hfold : ofComponents (components cs) =
      ((components cs).map Component.text).foldl join "" := by
    rw [ofComponents, List.foldl_map]
  rw [hfold, map_text_components, List.foldl_append, List.foldl_map]
  split_ifs with habs hhere
  · exact toList_foldl_join_start hsegs (.inr rfl)
  · exact toList_foldl_join hsegs (by decide) (by decide)
  · exact toList_foldl_join_start hsegs (.inl rfl)

/-- **The normal form of a path** is its segments with slashes between them, behind the root or
the `.` that it starts with. -/
theorem toList_normalize (s : String) : (normalize s).toList =
    if s = "" then ['.']
    else if isAbsolute s.toList then '/' :: ['/'].intercalate (segments s.toList)
    else if startsHere s.toList then ['/'].intercalate (['.'] :: segments s.toList)
    else ['/'].intercalate (segments s.toList) := by
  by_cases hs : s = ""
  · rw [if_pos hs, hs]
    rfl
  have hparts := toList_ofComponents s.toList
  have hne : (ofComponents (components s.toList)).toList ≠ [] := by
    rw [hparts]
    split_ifs with habs hhere
    · exact List.cons_ne_nil _ _
    · cases segments s.toList <;> simp [List.intercalate_cons_cons]
    · obtain ⟨seg, segs, hsegs⟩ := exists_segment (mt String.toList_eq_nil_iff.1 hs) habs hhere
      have hseg : IsSegment seg := isSegment_of_mem (hsegs ▸ List.mem_cons_self)
      rw [hsegs]
      cases segs <;> simp [List.intercalate_cons_cons, hseg.ne_nil]
  rw [if_neg hs, normalize, if_neg (by simpa using hs)]
  dsimp only
  rw [if_neg (by simpa using hne), hparts]

/-! ### The pieces of a normal form -/

theorem segments_intercalate (h : ∀ seg ∈ segs, IsSegment seg) :
    segments (['/'].intercalate segs) = segs := by
  cases segs with
  | nil => rfl
  | cons seg segs =>
    rw [segments, Text.splitOn_intercalate (fun p hp => (h p hp).slash) (List.cons_ne_nil _ _),
      List.filter_eq_self]
    intro p hp
    simp [(h p hp).ne_nil, (h p hp).ne_dot]

/-- **Segments are neither dropped nor moved.** -/
theorem segments_normalize (s : String) : segments (normalize s).toList = segments s.toList := by
  have hsegs : ∀ seg ∈ segments s.toList, IsSegment seg := fun seg => isSegment_of_mem
  rw [toList_normalize]
  split_ifs with hs habs hhere
  · rw [hs]
    rfl
  · exact (segments_append [] _).trans (segments_intercalate hsegs)
  · cases hcases : segments s.toList with
    | nil => rfl
    | cons seg segs =>
      rw [hcases] at hsegs
      rw [List.intercalate_cons_cons, List.append_assoc]
      exact (segments_append ['.'] _).trans (segments_intercalate hsegs)
  · exact segments_intercalate hsegs

/-- **Only the first piece of a normal form can say nothing,** unless it is the root. -/
theorem isSegment_of_mem_tail (s : String) : normalize s = "/" ∨
    ∀ p ∈ (Text.splitOn '/' (normalize s).toList).tail, IsSegment p := by
  have hsegs : ∀ seg ∈ segments s.toList, IsSegment seg := fun seg => isSegment_of_mem
  have hslash : ∀ p ∈ segments s.toList, '/' ∉ p := fun p hp => (hsegs p hp).slash
  by_cases hnil : segments s.toList = []
  · have hform := toList_normalize s
    rw [hnil] at hform
    have hdot : ∀ p, p ∉ (Text.splitOn '/' ['.']).tail := fun _ => List.not_mem_nil
    split_ifs at hform with hs habs hhere
    · exact .inr (hform ▸ fun p hp => absurd hp (hdot p))
    · exact .inl (String.toList_inj.1 hform)
    · exact .inr (hform ▸ fun p hp => absurd hp (hdot p))
    · obtain ⟨seg, segs, h⟩ := exists_segment (mt String.toList_eq_nil_iff.1 hs) habs hhere
      exact absurd (hnil.symm.trans h) (List.cons_ne_nil _ _).symm
  · refine .inr fun p hp => hsegs p ?_
    have hpieces := Text.splitOn_intercalate hslash hnil
    rw [toList_normalize] at hp
    split_ifs at hp with hs habs hhere
    · exact absurd (hs ▸ rfl) hnil
    · rwa [Text.splitOn_cons_self, hpieces] at hp
    · rwa [Text.splitOn_intercalate (List.forall_mem_cons.2 ⟨by decide, hslash⟩)
        (List.cons_ne_nil _ _)] at hp
    · rw [hpieces] at hp
      exact List.mem_of_mem_tail hp

theorem eq_root_of_nil_mem_tail
    (h : [] ∈ (Text.splitOn '/' (normalize s).toList).tail) : normalize s = "/" :=
  (isSegment_of_mem_tail s).resolve_right fun htail => (htail [] h).ne_nil rfl

theorem isAbsolute_normalize (s : String) :
    isAbsolute (normalize s).toList = isAbsolute s.toList := by
  rw [toList_normalize]
  split_ifs with hs habs hhere
  · rw [hs]
    rfl
  · rw [habs]
    rfl
  · rw [eq_false_of_ne_true habs]
    cases segments s.toList <;> rfl
  · obtain ⟨seg, segs, hsegs⟩ := exists_segment (mt String.toList_eq_nil_iff.1 hs) habs hhere
    have hseg : IsSegment seg := isSegment_of_mem (hsegs ▸ List.mem_cons_self)
    rw [hsegs, eq_false_of_ne_true habs, ← hseg.isAbsolute]
    obtain ⟨c, cs, rfl⟩ := List.exists_cons_of_ne_nil hseg.ne_nil
    cases segs <;> rfl

/-- A normal form starts with `.` where the path does. -/
theorem startsHere_normalize (hne : s ≠ "") :
    startsHere (normalize s).toList = (!isAbsolute s.toList && startsHere s.toList) := by
  have hslash : ∀ p ∈ segments s.toList, '/' ∉ p := fun p hp => (isSegment_of_mem hp).slash
  rw [toList_normalize, if_neg hne]
  split_ifs with habs hhere
  · rw [startsHere, Text.splitOn_cons_self, habs]
    rfl
  · rw [startsHere, Text.splitOn_intercalate (List.forall_mem_cons.2 ⟨by decide, hslash⟩)
      (List.cons_ne_nil _ _), eq_false_of_ne_true habs, hhere]
    rfl
  · obtain ⟨seg, segs, hsegs⟩ := exists_segment (mt String.toList_eq_nil_iff.1 hne) habs hhere
    have hseg : IsSegment seg := isSegment_of_mem (hsegs ▸ List.mem_cons_self)
    rw [startsHere, Text.splitOn_intercalate hslash (by simp [hsegs]), hsegs,
      eq_false_of_ne_true habs, eq_false_of_ne_true hhere]
    simpa using hseg.ne_dot

theorem normalize_ne_empty (s : String) : normalize s ≠ "" := by
  unfold normalize
  dsimp only
  split_ifs with hs hpath
  · decide
  · decide
  · exact fun he => hpath (by rw [he]; rfl)

/-- **A normal form is its own normal form.** -/
theorem normalize_idempotent (s : String) : normalize (normalize s) = normalize s := by
  by_cases hs : s = ""
  · rw [hs]
    decide
  apply String.toList_inj.1
  rw [toList_normalize (normalize s), if_neg (normalize_ne_empty s), segments_normalize,
    isAbsolute_normalize, startsHere_normalize hs, toList_normalize s, if_neg hs]
  cases isAbsolute s.toList <;> rfl

/-- What a normal form keeps of a path and what it leaves out. -/
structure Normalizes (s : String) : Prop where
  ofEmpty : s = "" → normalize s = "."
  ofRoot : isAbsolute s.toList = true →
    (normalize s).toList = '/' :: ['/'].intercalate (segments s.toList)
  ofHere : startsHere s.toList = true → (normalize s).toList =
    if segments s.toList = [] then ['.'] else '.' :: '/' :: ['/'].intercalate (segments s.toList)
  ofName : s ≠ "" → isAbsolute s.toList = false → startsHere s.toList = false →
    (normalize s).toList = ['/'].intercalate (segments s.toList)
  idempotent : normalize (normalize s) = normalize s
  absolute : isAbsolute (normalize s).toList = isAbsolute s.toList
  /-- No `..` and no name is dropped or moved. -/
  segments : segments (normalize s).toList = segments s.toList
  single : ¬ ['/', '/'] <:+: (normalize s).toList
  /-- A `.` stands only at the start. -/
  dots : ['.'] ∉ (Text.splitOn '/' (normalize s).toList).tail
  trailing : (normalize s).toList.getLast? = some '/' → normalize s = "/"

/-- **Normal forms of paths.**  The normal form of a path is its segments with slashes between
them, behind the root or the `.` that it starts with; `.` stands for the empty path.  So it says
what the path says, once, and without the slashes and `.` segments that say nothing. -/
theorem normalizes (s : String) : Normalizes s where
  ofEmpty hs := by
    rw [hs]
    rfl
  ofRoot habs := by
    have hne : s ≠ "" := fun he => by simp [he, isAbsolute] at habs
    rw [toList_normalize, if_neg hne, if_pos habs]
  ofHere hhere := by
    have hne : s ≠ "" := fun he => by rw [he] at hhere; exact absurd hhere (by decide)
    have habs := not_isAbsolute_of_startsHere hhere
    rw [toList_normalize, if_neg hne, if_neg habs, if_pos hhere]
    cases Path.segments s.toList <;> simp [List.intercalate_cons_cons]
  ofName hne habs hhere := by
    rw [toList_normalize, if_neg hne, if_neg (ne_true_of_eq_false habs),
      if_neg (ne_true_of_eq_false hhere)]
  idempotent := normalize_idempotent s
  absolute := isAbsolute_normalize s
  segments := segments_normalize s
  single := by
    rintro ⟨as, bs, hform⟩
    rw [List.append_assoc] at hform
    have hroot : normalize s = "/" := eq_root_of_nil_mem_tail (by
      rw [← hform]
      exact Text.nil_mem_tail_splitOn (.inr ⟨bs, rfl⟩))
    have hlength := congrArg List.length hform
    rw [hroot] at hlength
    simp at hlength
    omega
  dots hdot := by
    rcases isSegment_of_mem_tail s with hroot | htail
    · rw [hroot] at hdot
      exact absurd hdot (by decide)
    · exact (htail _ hdot).ne_dot rfl
  trailing hlast := by
    obtain ⟨as, hform⟩ := List.getLast?_eq_some_iff.1 hlast
    apply eq_root_of_nil_mem_tail
    rw [hform]
    exact Text.nil_mem_tail_splitOn (.inl rfl)

/-- Repeated and final slashes and `.` segments behind the first say nothing, `..` does. -/
example : normalize "./a//b/./../c/." = "./a/b/../c" := by decide +kernel

end Path
end MailMerge
