/-
# The place that a path spells out

A path without `..` spells out its place (`FileTree.placeOf`), whatever stands in the
tree: that is where it leads, if it leads anywhere.  The `.`s on it ask for folders that
the names behind them ask for anyway, so only one at its end makes a difference, and a
trimmed path has none there.
-/

import MailMerge.Proofs.FileTree.Write
import MailMerge.Proofs.Path

namespace MailMerge
namespace FileTree

variable {t : FileTree} {place start : Location} {path : String} {names : List String}

/-! ### The place that a path spells out -/

/-- The folder that a path starts from. -/
def startOf (t : FileTree) (path : String) : Location :=
  if Path.isAbsolute path.toList then [] else t.here

/-- The names on a path that lead on. -/
def routeOf (path : String) : List String := (Path.segments path.toList).map String.ofList

/-- The place that the names on a path spell out. -/
def placeOf (t : FileTree) (path : String) : Location := t.startOf path ++ routeOf path

theorem startOf_congr {t' : FileTree} (h : t'.here = t.here) (path : String) :
    t'.startOf path = t.startOf path := by
  rw [startOf, h, startOf]

theorem placeOf_congr {t' : FileTree} (h : t'.here = t.here) (path : String) :
    t'.placeOf path = t.placeOf path := by
  rw [placeOf, startOf_congr h, placeOf]

theorem filter_namesOf (path : String) :
    (namesOf path.toList).filter (· ≠ ".") = routeOf path := by
  have hdot : ∀ cs : List Char, (decide (String.ofList cs ≠ ".")) = !(cs == ['.']) := by
    intro cs
    have : String.ofList cs = "." ↔ cs = ['.'] :=
      ⟨fun h => by simpa using congrArg String.toList h, fun h => by rw [h]⟩
    by_cases hcs : cs = ['.'] <;> simp [this, hcs]
  have hnames : ∀ pieces : List (List Char),
      ((pieces.filter fun name => !name.isEmpty).map String.ofList).filter (· ≠ ".") =
        (pieces.filter fun seg => !(seg.isEmpty || seg == ['.'])).map String.ofList := by
    intro pieces
    rw [List.filter_map, List.filter_filter]
    congr 2
    funext cs
    rw [Function.comp_apply, hdot, Bool.not_or, Bool.and_comm]
  unfold namesOf routeOf Path.segments
  dsimp only
  split
  · rw [List.filter_append, hnames]
    exact List.append_nil _
  · exact hnames _

/-! ### Walks -/

/-- A name that leads on, from a folder to a place in it. -/
def Plain (name : String) : Prop := name ≠ "." ∧ name ≠ ".."

theorem walk_of_none {name : String} (h : t.item? start = none) :
    t.walk start (name :: names) = .error .notFound := by
  rw [walk, enter, h]

theorem walk_of_file {name : String} {content : ByteArray}
    (h : t.item? start = some (.file content)) :
    t.walk start (name :: names) = .error .notAFolder := by
  rw [walk, enter, h]

theorem walk_dot (h : t.item? start = some .folder) :
    t.walk start ("." :: names) = t.walk start names := by
  rw [walk, enter, h]
  rfl

theorem walk_plain {name : String} (h : t.item? start = some .folder) (hname : Plain name) :
    t.walk start (name :: names) = if nameLimit < name.utf8ByteSize then .error .nameTooLong
      else t.walk (start ++ [name]) names := by
  rw [walk, enter, h]
  dsimp only
  rw [if_neg hname.1, if_neg hname.2]
  split_ifs <;> rfl

/-- Where there is no folder, all walks fail alike. -/
theorem walk_eq_of_ne_folder {name name' : String} {names' : List String}
    (h : t.item? start ≠ some .folder) :
    t.walk start (name :: names) = t.walk start (name' :: names') := by
  cases hitem : t.item? start with
  | none => rw [walk_of_none hitem, walk_of_none hitem]
  | some item =>
    cases item with
    | file content => rw [walk_of_file hitem, walk_of_file hitem]
    | folder => exact absurd hitem h

/-- Only a folder can be left. -/
theorem folder_of_walk {name : String} (h : t.walk start (name :: names) = .ok place) :
    t.item? start = some .folder := by
  rw [walk] at h
  split at h
  · next hnext => exact (enter_eq_ok hnext).1
  · cases h

theorem plain_of_mem {name : String} (hup : ".." ∉ names) (h : name ∈ names) (hdot : name ≠ ".") :
    Plain name := ⟨hdot, fun he => hup (he ▸ h)⟩

theorem filter_cons_plain {name : String} (h : name ≠ ".") (names : List String) :
    (name :: names).filter (· ≠ ".") = name :: names.filter (· ≠ ".") :=
  List.filter_cons_of_pos (decide_eq_true h)

theorem filter_cons_dot (names : List String) :
    ("." :: names).filter (· ≠ ".") = names.filter (· ≠ ".") :=
  List.filter_cons_of_neg (by simp)

/-- A walk without a step back arrives at the place that its names spell out. -/
theorem eq_of_walk (hup : ".." ∉ names) (h : t.walk start names = .ok place) :
    place = start ++ names.filter (· ≠ ".") := by
  induction names generalizing start with
  | nil =>
    rw [List.filter_nil, List.append_nil]
    exact (Except.ok.inj h).symm
  | cons name names ih =>
    have hfolder := folder_of_walk h
    have hrest := fun hmem => hup (List.mem_cons_of_mem _ hmem)
    by_cases hdot : name = "."
    · subst hdot
      rw [walk_dot hfolder] at h
      rw [filter_cons_dot]
      exact ih hrest h
    · rw [walk_plain hfolder (plain_of_mem hup List.mem_cons_self hdot)] at h
      split_ifs at h
      rw [ih hrest h, filter_cons_plain hdot, List.append_assoc]
      rfl

/-- Before a further name, a `.` needs no care. -/
theorem walk_filter (hup : ".." ∉ names) (hlast : names.getLast? ≠ some ".") :
    t.walk start names = t.walk start (names.filter (· ≠ ".")) := by
  induction names generalizing start with
  | nil => rfl
  | cons name names ih =>
    have hrest := fun hmem => hup (List.mem_cons_of_mem _ hmem)
    have hlast' : names.getLast? ≠ some "." := fun h => hlast (by rw [List.getLast?_cons, h]; rfl)
    by_cases hfolder : t.item? start = some .folder
    · by_cases hdot : name = "."
      · subst hdot
        rw [walk_dot hfolder, filter_cons_dot, ih hrest hlast']
      · have hplain := plain_of_mem hup List.mem_cons_self hdot
        rw [filter_cons_plain hdot, walk_plain hfolder hplain, walk_plain hfolder hplain,
          ih hrest hlast']
    · by_cases hdot : name = "."
      · subst hdot
        rcases names with _ | ⟨next, names⟩
        · exact absurd rfl hlast
        · rw [filter_cons_dot, walk_eq_of_ne_folder hfolder, ih hrest hlast']
      · rw [filter_cons_plain hdot]
        exact walk_eq_of_ne_folder hfolder

/-! ### Places and paths -/

theorem mem_routeOf {name : String} (hdot : name ≠ ".") :
    name ∈ routeOf path ↔ name ∈ namesOf path.toList := by
  rw [← filter_namesOf]
  simp [hdot]

theorem plain_of_mem_routeOf (hup : ".." ∉ namesOf path.toList) :
    ∀ name ∈ routeOf path, Plain name := by
  intro name hname
  rw [← filter_namesOf, List.mem_filter] at hname
  exact plain_of_mem hup hname.1 (by simpa using hname.2)

theorem eq_placeOf (hup : ".." ∉ namesOf path.toList) (h : t.locate path = .ok place) :
    place = t.placeOf path := by
  rw [placeOf, ← filter_namesOf]
  exact eq_of_walk hup (locate_eq_ok h)

theorem folder_startOf (hw : t.WellFormed) (path : String) :
    t.item? (t.startOf path) = some .folder := by
  unfold startOf
  split
  · rfl
  · exact hw.here

theorem folder_placeOf_empty (hw : t.WellFormed) : t.item? (t.placeOf "") = some .folder := by
  rw [show t.placeOf "" = t.startOf "" from List.append_nil _]
  exact folder_startOf hw ""

theorem dropSlashes_eq (h : Path.Settled path.toList.reverse) : dropSlashes path = path := by
  unfold dropSlashes
  cases hback : path.toList.reverse with
  | nil =>
    obtain rfl : path = "" := by simpa using hback
    rfl
  | cons c back =>
    by_cases hc : c = '/'
    · subst hc
      rw [hback] at h
      rcases back with _ | ⟨d, back⟩
      · have hroot : path = "/" := by
          rw [List.reverse_eq_iff] at hback
          exact String.toList_inj.1 hback
        rw [hroot]
        rfl
      · exact h.elim
    · rw [List.dropWhile_cons_of_neg (by simpa using hc)]
      change String.ofList (c :: back).reverse = path
      rw [← hback, List.reverse_reverse, String.ofList_toList]

theorem getLast?_namesOf {last : List Char} (hslash : '/' ∉ last) (hne : last ≠ []) :
    (namesOf last).getLast? = some (String.ofList last) ∧
      ∀ front, (namesOf (front ++ '/' :: last)).getLast? = some (String.ofList last) := by
  have hpiece : ((Text.splitOn '/' last).filter fun name => !name.isEmpty) = [last] := by
    rw [Text.splitOn_of_notMem hslash]
    simp [hne]
  have hend : last.getLast? ≠ some '/' := fun h => hslash (List.mem_of_getLast? h)
  refine ⟨?_, fun front => ?_⟩
  · rw [namesOf, if_neg hend, hpiece]
    rfl
  · have hend' : (front ++ '/' :: last).getLast? ≠ some '/' := by
      rwa [List.append_cons, List.getLast?_append_of_ne_nil _ hne]
    rw [namesOf, if_neg hend', Text.splitOn_append, List.filter_append, hpiece, List.map_append]
    exact List.getLast?_concat

/-- A trimmed path ends with a name that leads on, if it has one. -/
theorem routeOf_of_getLast? (h : Path.Settled path.toList.reverse)
    (hlast : (namesOf path.toList).getLast? = some ".") : routeOf path = [] := by
  have hof : ∀ {last : List Char}, some (String.ofList last) = some "." → last = ['.'] := fun he =>
    by simpa using congrArg String.toList (Option.some.inj he)
  unfold routeOf
  obtain hcs | hcs | ⟨last, hslash, hne, hcs | ⟨hdot, front, hcs⟩⟩ := h.cases
  · rw [hcs]
    rfl
  · rw [hcs]
    rfl
  · rw [hcs] at hlast ⊢
    rw [(getLast?_namesOf hslash hne).1] at hlast
    rw [hof hlast]
    rfl
  · rw [hcs, (getLast?_namesOf hslash hne).2 front] at hlast
    exact absurd (hof hlast) hdot

/-- From a folder, a way without names leads nowhere else. -/
theorem walk_of_filter_nil (hstart : t.item? start = some .folder)
    (h : names.filter (· ≠ ".") = []) : t.walk start names = .ok start := by
  induction names with
  | nil => rfl
  | cons name names ih =>
    by_cases hdot : name = "."
    · subst hdot
      rw [filter_cons_dot] at h
      rw [walk_dot hstart, ih h]
    · rw [filter_cons_plain hdot] at h
      cases h

/-- A trimmed path is walked by the names that lead on. -/
theorem locate_of_settled (hw : t.WellFormed) (hsettled : Path.Settled path.toList.reverse)
    (hup : ".." ∉ namesOf path.toList) (hne : path ≠ "")
    (hnul : path.toList.contains (Char.ofNat 0) = false) :
    t.locate path = t.walk (t.startOf path) (routeOf path) := by
  have hwalk : t.locate path = t.walk (t.startOf path) (namesOf path.toList) := by
    rw [locate, if_neg (by simpa using hne), if_neg (by simpa using hnul), startOf]
  rw [hwalk]
  by_cases hlast : (namesOf path.toList).getLast? = some "."
  · have hroute := routeOf_of_getLast? hsettled hlast
    rw [hroute]
    exact walk_of_filter_nil (folder_startOf hw path) ((filter_namesOf path).trans hroute)
  · rw [walk_filter hup hlast, filter_namesOf]

end FileTree
end MailMerge
