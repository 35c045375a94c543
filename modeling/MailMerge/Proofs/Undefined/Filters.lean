/-
# Operators and filters on loose values

Operators are applied to whole values only and give whole values; a subscript that lies outside
gives an undefined one.  A filter is applied to loose values, its arguments among them, and
gives a loose one: what it puts into a list is an item, a key, a text, or an entry of a mapping
that the mapping has.  Undefined comes out where nothing is there (`first`, `min`), or where
an argument stands in for the result and is undefined itself (`default`, `int`, `sum`).
-/

import MailMerge.Filter.Apply
import MailMerge.Proofs.Undefined.Values

namespace MailMerge

open Value (Whole Loose)

/-- Arguments that are undefined or whole. -/
structure Filters.Arguments.Loose (H : Handles) (given : Filters.Arguments) : Prop where
  args : ∀ v ∈ given.args, v.Loose H
  kwargs : ∀ e ∈ given.kwargs, e.2.Loose H

namespace Ensures

variable {J : Memory → Prop} {H : Handles} {a : Access} {v w : Value}

/-! ### Operators -/

theorem exactInteger (z : Int) : Ensures J (Whole H) (Operator.exact z) := by
  unfold Operator.exact
  split
  · exact .pure (.int _)
  · exact .throw _

theorem onFloats (operation : String) (f : Float → Float → Float) (v w : Value) :
    Ensures J (Whole H) (Operator.onFloats operation f v w) := by
  unfold Operator.onFloats
  split
  · exact .pure (.float _)
  · exact .throw _

theorem add (hv : v.Whole H) (hw : w.Whole H) : Ensures J (Whole H) (Operator.add v w) := by
  unfold Operator.add
  split
  · exact exactInteger _
  · exact .pure (.str _)
  · refine .pure (.list fun x hx => ?_)
    exact (List.mem_append.1 hx).elim (Value.whole_list.1 hv x) (Value.whole_list.1 hw x)
  · exact onFloats _ _ _ _

theorem sub (v w : Value) : Ensures J (Whole H) (Operator.sub v w) := by
  unfold Operator.sub
  split
  · exact exactInteger _
  · exact onFloats _ _ _ _

theorem repetition (s : String) (times : Nat) :
    Ensures J (Whole H) (Operator.repetition s times) := by
  unfold Operator.repetition
  split
  · exact .pure (.str _)
  · exact .throw _

theorem mul (v w : Value) : Ensures J (Whole H) (Operator.mul v w) := by
  unfold Operator.mul
  split
  · exact exactInteger _
  · exact repetition _ _
  · exact repetition _ _
  · exact onFloats _ _ _ _

theorem div (v w : Value) : Ensures J (Whole H) (Operator.div v w) := by
  unfold Operator.div
  split
  · exact .throw _
  · exact onFloats _ _ _ _

theorem floorDiv (v w : Value) : Ensures J (Whole H) (Operator.floorDiv v w) := by
  unfold Operator.floorDiv
  split
  · split
    · exact .throw _
    · split
      · exact .pure (.int _)
      · exact .throw _
  · split
    · exact .throw _
    · exact onFloats _ _ _ _

theorem mod (v w : Value) : Ensures J (Whole H) (Operator.mod v w) := by
  unfold Operator.mod
  split
  · split
    · exact .throw _
    · exact .pure (.int _)
  · split
    · exact .throw _
    · exact onFloats _ _ _ _

theorem ordering (v w : Value) : Keeps J (Operator.ordering v w) := by
  unfold Operator.ordering
  split
  · exact .pure trivial
  · exact .throw _

theorem contains (v w : Value) : Keeps J (Operator.contains v w) := by
  unfold Operator.contains
  split
  · exact .pure trivial
  · exact .pure trivial
  · exact .pure trivial
  · exact .pure trivial
  · exact .throw _

theorem equal (ha : a.Defined J H) (hv : v.Loose H) (hw : w.Loose H) :
    Keeps J (Operator.equal a v w) :=
  (materialize ha hv).bind fun _ _ => (materialize ha hw).bind fun _ _ => .pure trivial

/-- A result that is read off the answer to a question. -/
theorem ask {α : Type} {x : Read α} (hx : Keeps J x) {f : α → Value} (hf : ∀ b, (f b).Whole H) :
    Ensures J (Whole H) (x >>= fun b => Pure.pure (f b)) := hx.bind fun b _ => .pure (hf b)

/-- **Operators on whole values give whole values.** -/
theorem applyOperator (ha : a.Defined J H) (op : BinaryOp) (hv : v.Whole H) (hw : w.Whole H) :
    Ensures J (Whole H) (Operator.apply a op v w) := by
  cases op with
  | eq => exact ask (equal ha hv.loose hw.loose) fun _ => .bool _
  | ne => exact ask (equal ha hv.loose hw.loose) fun _ => .bool _
  | lt => exact ask (ordering v w) fun _ => .bool _
  | le => exact ask (ordering v w) fun _ => .bool _
  | gt => exact ask (ordering v w) fun _ => .bool _
  | ge => exact ask (ordering v w) fun _ => .bool _
  | isIn => exact ask (contains w v) fun _ => .bool _
  | notIn => exact ask (contains w v) fun _ => .bool _
  | add => exact add hv hw
  | sub => exact sub v w
  | mul => exact mul v w
  | div => exact div v w
  | floorDiv => exact floorDiv v w
  | mod => exact mod v w
  | concat =>
    exact (output ha hv.loose).bind fun _ _ => (output ha hw.loose).bind fun _ _ => .pure (.str _)

theorem negate (v : Value) : Ensures J (Whole H) (Operator.negate v) := by
  unfold Operator.negate
  split
  · exact exactInteger _
  · exact .pure (.float _)
  · exact .throw _

theorem affirm (hv : v.Whole H) : Ensures J (Whole H) (Operator.affirm v) := by
  unfold Operator.affirm
  split
  · exact .pure hv
  · exact .throw _

/-- An item at a place in a list, if the place lies inside. -/
theorem loose_at {items : List Value} (h : ∀ x ∈ items, x.Whole H) (place : Option Nat)
    (i : Int64) : ((place.bind (items[·]?)).getD (Operator.outside i)).Loose H := by
  refine Value.loose_getD (fun x hx => ?_) _
  obtain ⟨n, -, hn⟩ := Option.bind_eq_some_iff.1 hx
  exact h x (List.mem_of_getElem? hn)

/-- **Subscripts of whole values give loose ones.** -/
theorem index (ha : a.Defined J H) (hv : v.Whole H) (w : Value) :
    Ensures J (Loose H) (Operator.index a v w) := by
  unfold Operator.index
  split
  · exact lookup ha hv _
  · exact lookup ha hv _
  · exact .pure (loose_at (Value.whole_list.1 hv) _ _)
  · split
    · split
      · exact .pure (Value.whole_list.1 hv _ (List.mem_of_getElem? ‹_›)).loose
      · exact .throw _
    · exact .throw _
  · refine .pure (loose_at (fun x hx => ?_) _ _)
    obtain ⟨c, -, rfl⟩ := List.mem_map.1 hx
    exact .str _
  · exact .throw _

/-! ### Arguments -/

open Filters

section Arguments

variable {given : Arguments} (hg : given.Loose H)
include hg

theorem loose_param {position : Nat} {key : String} (hv : given.param? position key = some v) :
    v.Loose H := by
  unfold Arguments.param? at hv
  split at hv
  · rename_i hat
    exact hg.args v (List.mem_of_getElem? (hat.trans hv))
  · exact hg.kwargs (key, v) (Dict.mem_of_find? hv)

/-- An argument that stands in for a value. -/
theorem loose_fallback {position : Nat} {key : String} (hw : w.Whole H) :
    ((given.param? position key).getD w).Loose H := by
  rcases hp : given.param? position key with _ | v
  · exact hw.loose
  · exact loose_param hg hp

theorem need (position : Nat) (name : String) :
    Ensures J (Loose H) (given.need position name) := by
  unfold Arguments.need
  split
  · exact .pure (hg.args _ (List.mem_of_getElem? ‹_›))
  · exact .throw _

theorem textOr (ha : a.Defined J H) (position : Nat) (key standIn : String) :
    Keeps J (given.textOr a position key standIn) := by
  unfold Arguments.textOr
  split
  · exact output ha (loose_param hg ‹_›)
  · exact .pure trivial

end Arguments

theorem integer (v : Value) : Keeps J (Filters.integer v) := by
  unfold Filters.integer
  split
  · exact .pure trivial
  · exact .throw _
  · exact .throw _

theorem mapping (hv : v.Loose H) :
    Ensures J (fun x => x.Whole H ∧ x.isMapping = true) (Filters.mapping v) := by
  unfold Filters.mapping
  split
  · exact .throw _
  · rename_i hdefined
    split
    · refine .pure ⟨hv.whole ?_, ‹_›⟩
      cases v with
      | undefined s => exact absurd rfl (hdefined s)
      | _ => rfl
    · exact .throw _

/-! ### Text and numbers -/

theorem onText (ha : a.Defined J H) (f : List Char → List Char) (hv : v.Loose H) :
    Ensures J (Whole H) (Filters.onText a f v) := ask (output ha hv) fun _ => .str _

theorem replace (ha : a.Defined J H) {given : Arguments} (hv : v.Loose H) (hg : given.Loose H) :
    Ensures J (Whole H) (Filters.replace a v given) := by
  refine (output ha hv).bind fun s _ => (need hg 0 _).bind fun x hx => (output ha hx).bind
    fun o _ => (need hg 1 _).bind fun y hy => (output ha hy).bind fun t _ => ?_
  split
  · exact ask (integer _) fun _ => .str _
  · exact .pure (.str _)

theorem truthOfText (s : String) {given : Arguments} (hg : given.Loose H) :
    Ensures J (Loose H) (Filters.truthOfText s given) := by
  unfold Filters.truthOfText
  split
  · exact .pure (Whole.bool _).loose
  · split
    · exact .pure (loose_param hg ‹_›)
    · exact .throw _

theorem toBool (ha : a.Defined J H) {given : Arguments} (hv : v.Loose H) (hg : given.Loose H) :
    Ensures J (Loose H) (Filters.toBool a v given) := by
  refine (defined hv).bind fun x hx => ?_
  split
  · exact .pure (Whole.bool _).loose
  · exact .pure (Whole.bool _).loose
  · split
    · exact .pure (Whole.bool _).loose
    · exact (output ha hx.loose).bind fun s _ => truthOfText s hg

theorem int {given : Arguments} (hv : v.Loose H) (hg : given.Loose H) :
    Ensures J (Loose H) (Filters.int v given) := by
  refine (defined hv).bind fun x _ => ?_
  split
  · exact .pure (Whole.int _).loose
  · exact .pure (Whole.int _).loose
  · exact .pure (Whole.int _).loose
  · split
    · exact .pure (Whole.int _).loose
    · exact .pure (loose_fallback hg (.int 0))
  · exact .pure (loose_fallback hg (.int 0))

theorem float {given : Arguments} (hv : v.Loose H) (hg : given.Loose H) :
    Ensures J (Loose H) (Filters.float v given) := by
  refine (defined hv).bind fun x _ => ?_
  split
  · exact .pure (Whole.float _).loose
  · exact .pure (Whole.float _).loose
  · exact .pure (Whole.float _).loose
  · split
    · exact .pure (Whole.float _).loose
    · exact .pure (loose_fallback hg (.float 0.0))
  · exact .pure (loose_fallback hg (.float 0.0))

theorem abs (hv : v.Loose H) : Ensures J (Whole H) (Filters.abs v) := by
  refine (defined hv).bind fun x _ => ?_
  split
  · exact exactInteger _
  · exact .pure (.float _)
  · exact .throw _

theorem round (ha : a.Defined J H) {given : Arguments} (hv : v.Loose H) (hg : given.Loose H) :
    Ensures J (Whole H) (Filters.round a v given) := by
  have hroundable : ∀ x : Value, Keeps J (Filters.roundable x) := fun x => by
    unfold Filters.roundable
    split
    · exact .pure trivial
    · exact .throw _
  have hprecision : Keeps J (Filters.precision given) := by
    unfold Filters.precision
    split
    · exact integer _
    · exact .pure trivial
  refine (defined hv).bind fun x _ => (hroundable x).bind fun y _ => hprecision.bind fun p _ =>
    (textOr hg ha 1 _ _).bind fun m _ => ?_
  dsimp only
  split
  · exact .pure (.float _)
  · exact .throw _

theorem addTo (v w : Value) : Ensures J (Whole H) (Filters.addTo v w) := by
  unfold Filters.addTo
  split
  · exact exactInteger _
  · unfold Filters.addFloat
    split
    · exact .pure (.float _)
    · exact .throw _

theorem sum {given : Arguments} (hv : v.Loose H) (hg : given.Loose H) :
    Ensures J (Loose H) (Filters.sum v given) :=
  (items hv).bind fun _ _ => foldlM (loose_fallback hg (.int 0)) fun c x _ _ =>
    (addTo c x).imp fun _ => Whole.loose

/-! ### Sequences -/

theorem forall_insertBack {p : Value → Prop} {x : Value} {xs : List Value} (hx : p x)
    (h : ∀ y ∈ xs, p y) : ∀ y ∈ (insertBack x xs).1, p y := by
  induction xs with
  | nil => exact List.forall_mem_singleton.2 hx
  | cons y ys ih =>
    obtain ⟨hy, hys⟩ := List.forall_mem_cons.1 h
    rw [insertBack]
    split
    · exact List.forall_mem_cons.2 ⟨hy, ih hys⟩
    · exact List.forall_mem_cons.2 ⟨hx, h⟩
    · exact List.forall_mem_cons.2 ⟨hx, h⟩

/-- Sorting by insertion brings in no items of its own. -/
theorem forall_sortBack {p : Value → Prop} {xs : List Value} (h : ∀ x ∈ xs, p x) :
    ∀ x ∈ (sortBack xs).1, p x :=
  List.foldlRecOn xs insertNext (motive := fun before => ∀ x ∈ before.1, p x) (by simp)
    fun _ hbefore x hx => forall_insertBack (h x hx) hbefore

theorem sorted {xs : List Value} (h : ∀ x ∈ xs, x.Whole H) :
    Ensures J (fun ys => ∀ y ∈ ys, y.Whole H) (Filters.sorted xs) := by
  have hback := forall_sortBack h
  unfold Filters.sorted
  split
  · rename_i hs
    rw [hs] at hback
    exact .pure fun y hy => hback y (List.mem_reverse.1 hy)
  · exact .throw _

theorem sort (hv : v.Loose H) (given : Arguments) :
    Ensures J (Whole H) (Filters.sort v given) := by
  refine (items hv).bind fun xs hxs => (sorted hxs).bind fun ys hys => .pure (.list ?_)
  split
  · exact fun y hy => hys y (List.mem_reverse.1 hy)
  · exact hys

theorem reverse (hv : v.Loose H) : Ensures J (Whole H) (Filters.reverse v) := by
  unfold Filters.reverse
  split
  · exact .pure (.str _)
  · exact (items hv).bind fun xs hxs => .pure (.list fun x hx => hxs x (List.mem_reverse.1 hx))

/-- Leaving out items brings in none. -/
theorem forall_distinct {p : Value → Prop} {xs : List Value} (h : ∀ x ∈ xs, p x) :
    ∀ x ∈ distinct xs, p x := by
  refine List.foldlRecOn xs _ (motive := fun seen => ∀ x ∈ seen, p x) (by simp)
    fun seen hseen x hx => ?_
  split
  · exact hseen
  · exact fun y hy => (List.mem_append.1 hy).elim (hseen y)
      fun hy => List.mem_singleton.1 hy ▸ h x hx

theorem length (hv : v.Loose H) : Ensures J (Whole H) (Filters.length v) := by
  refine (defined hv).bind fun x _ => ?_
  split
  · exact .pure (.int _)
  · exact .throw _

theorem loose_default {given : Arguments} (hv : v.Loose H) (hg : given.Loose H) :
    (Filters.default v given).Loose H := by
  unfold Filters.default
  split
  · exact loose_fallback hg (.str "")
  · exact hv

theorem join (ha : a.Defined J H) {given : Arguments} (hv : v.Loose H) (hg : given.Loose H) :
    Ensures J (Whole H) (Filters.join a v given) := by
  refine (textOr hg ha 0 _ _).bind fun sep _ => (items hv).bind fun xs hxs => ?_
  have htexts := mapM (Q := fun _ => True) fun x hx => output ha (hxs x hx).loose
  exact htexts.bind fun _ _ => .pure (.str _)

theorem first (hv : v.Loose H) : Ensures J (Loose H) (Filters.first v) :=
  (defined hv).bind fun _ hx => (items hx.loose).bind fun _ hxs =>
    .pure (Value.loose_getD (fun x hx => hxs x (List.mem_of_mem_head? hx)) _)

theorem last (hv : v.Loose H) : Ensures J (Loose H) (Filters.last v) :=
  (defined hv).bind fun _ hx => (items hx.loose).bind fun _ hxs =>
    .pure (Value.loose_getD (fun x hx => hxs x (List.mem_of_mem_getLast? hx)) _)

theorem min (hv : v.Loose H) : Ensures J (Loose H) (Filters.min v) :=
  (items hv).bind fun _ hxs => (sorted hxs).bind fun _ hys =>
    .pure (Value.loose_getD (fun x hx => hys x (List.mem_of_mem_head? hx)) _)

theorem max (hv : v.Loose H) : Ensures J (Loose H) (Filters.max v) :=
  (items hv).bind fun _ hxs => (sorted hxs).bind fun _ hys =>
    .pure (Value.loose_getD (fun x hx => hys x (List.mem_of_mem_getLast? hx)) _)

/-! ### Mappings -/

/-- The value of a key that the mapping has. -/
theorem valueOf (ha : a.Defined J H) (hv : v.Whole H) {key : String} (hkey : key ∈ v.keyNames) :
    Ensures J (Whole H) (Filters.valueOf a v key) := by
  cases hv with
  | @map entries h =>
    refine .pure ?_
    rcases hfind : Dict.find? entries key with _ | w
    · exact .null
    · exact Value.whole_find? h hfind
  | handle h => exact (ha.entry key h).imp fun _ hw => hw.2 hkey
  | _ => exact absurd hkey List.not_mem_nil

theorem values (ha : a.Defined J H) (hv : v.Loose H) :
    Ensures J (Whole H) (Filters.values a v) := by
  refine (mapping hv).bind fun m hm => ?_
  rw [Value.items_of_isMapping hm.2, pure_bind]
  exact (mapKeys fun _ hkey => valueOf ha hm.1 hkey).bind fun _ hxs => .pure (.list hxs)

theorem itemsOf (ha : a.Defined J H) (hv : v.Loose H) :
    Ensures J (Whole H) (Filters.items a v) := by
  refine (mapping hv).bind fun m hm => ?_
  rw [Value.items_of_isMapping hm.2, pure_bind]
  refine (mapKeys (Q := Whole H) fun key hkey => ?_).bind fun xs hxs => .pure (.list hxs)
  refine (valueOf ha hm.1 hkey).bind fun w hw => .pure (.list ?_)
  exact List.forall_mem_cons.2 ⟨.str key, List.forall_mem_singleton.2 hw⟩

/-! ### Patterns -/

theorem patternOf (ha : a.Defined J H) (hv : v.Loose H) (hw : w.Loose H) (given : Arguments)
    (position : Nat) : Keeps J (Filters.patternOf a v w given position) := by
  refine (output ha hv).bind fun s _ => (output ha hw).bind fun t _ => ?_
  dsimp only
  split
  · exact .pure trivial
  · exact .throw _

theorem patternFindAll (ha : a.Defined J H) {given : Arguments} (hv : v.Loose H)
    (hg : given.Loose H) : Ensures J (Whole H) (Filters.patternFindAll a v given) := by
  refine (need hg 0 _).bind fun p hp => (patternOf ha hv hp given 1).bind fun r _ => ?_
  refine .pure (.list fun x hx => ?_)
  obtain ⟨m, -, rfl⟩ := List.mem_map.1 hx
  split
  · exact .str _
  · exact .str _
  · refine .list fun y hy => ?_
    obtain ⟨i, -, rfl⟩ := List.mem_map.1 hy
    exact .str _

theorem patternReplace (ha : a.Defined J H) {given : Arguments} (hv : v.Loose H)
    (hg : given.Loose H) : Ensures J (Whole H) (Filters.patternReplace a v given) :=
  (textOr hg ha 1 _ _).bind fun _ _ => (need hg 0 _).bind fun _ hp =>
    ask (patternOf ha hv hp given 2) fun _ => .str _

theorem whole_select (prog : Pattern.Program) (subject : List Char) (m : Pattern.Match)
    (sel : Selector) : (select prog subject m sel).Whole H := by
  cases sel <;> rw [select] <;> split <;> constructor

theorem patternSearch (ha : a.Defined J H) {given : Arguments} (hv : v.Loose H)
    (hg : given.Loose H) : Ensures J (Whole H) (Filters.patternSearch a v given) := by
  refine (need hg 0 _).bind fun p hp => (patternOf ha hv hp _ 0).bind fun r _ => ?_
  dsimp only
  split
  · exact .pure .null
  · split
    · exact .pure (.str _)
    · refine Ensures.bind (mapM (Q := Whole H) fun x hx => ?_) fun xs hxs => .pure (.list hxs)
      refine (output ha (hg.args x (List.mem_of_mem_drop hx))).bind fun s _ => ?_
      split
      · exact .pure (whole_select _ _ _ _)
      · exact .throw _

theorem patternContains (ha : a.Defined J H) {given : Arguments} (hv : v.Loose H)
    (hg : given.Loose H) : Ensures J (Whole H) (Filters.patternContains a v given) :=
  (need hg 0 _).bind fun _ hp => ask (patternOf ha hv hp given 1) fun _ => .bool _

/-! ### All filters and tests -/

/-- **Filters give loose values.** -/
theorem applyFilter (ha : a.Defined J H) (filter : Filter) {given : Arguments} (hv : v.Loose H)
    (hg : given.Loose H) : Ensures J (Loose H) (filter.apply a v given) := by
  have hloose : ∀ {x : Read Value}, Ensures J (Whole H) x → Ensures J (Loose H) x :=
    fun h => h.imp fun _ => Whole.loose
  cases filter with
  | string => exact hloose (ask (output ha hv) fun _ => .str _)
  | length => exact hloose (length hv)
  | default => exact .pure (loose_default hv hg)
  | join => exact hloose (join ha hv hg)
  | int => exact int hv hg
  | float => exact float hv hg
  | replace => exact hloose (replace ha hv hg)
  | first => exact first hv
  | last => exact last hv
  | abs => exact hloose (abs hv)
  | round => exact hloose (round ha hv hg)
  | list => exact (items hv).bind fun _ hxs => .pure (Whole.list hxs).loose
  | sort => exact hloose (sort hv given)
  | reverse => exact hloose (reverse hv)
  | unique => exact (items hv).bind fun _ hxs => .pure (Whole.list (forall_distinct hxs)).loose
  | keys =>
    exact (mapping hv).bind fun _ hm => (items hm.1.loose).bind fun _ hxs =>
      .pure (Whole.list hxs).loose
  | values => exact hloose (values ha hv)
  | items => exact hloose (itemsOf ha hv)
  | min => exact min hv
  | max => exact max hv
  | sum => exact sum hv hg
  | patternFindAll => exact hloose (patternFindAll ha hv hg)
  | patternReplace => exact hloose (patternReplace ha hv hg)
  | patternSearch => exact hloose (patternSearch ha hv hg)
  | patternContains => exact hloose (patternContains ha hv hg)
  | bool => exact toBool ha hv hg
  | probe =>
    have hcount : Keeps J (modify fun m => { m with uses := m.uses + 1 } : Read PUnit) := by
      rintro m _ _ hm ⟨⟩
      exact ⟨trivial, ha.count m hm⟩
    exact hcount.bind fun _ _ => .pure hv
  | upper => exact hloose (onText ha _ hv)
  | lower => exact hloose (onText ha _ hv)
  | title => exact hloose (onText ha _ hv)
  | capitalize => exact hloose (onText ha _ hv)
  | trim => exact hloose (onText ha _ hv)
  | patternEscape => exact hloose (onText ha _ hv)
  | path => exact hloose (onText ha _ hv)
  | quote => exact hloose (onText ha _ hv)

/-- Tests keep the invariant. -/
theorem holds (ha : a.Defined J H) (test : ValueTest) {given : Arguments} (hv : v.Loose H)
    (hg : given.Loose H) : Keeps J (test.holds a v given) := by
  cases test with
  | even => exact (integer v).bind fun _ _ => .pure trivial
  | odd => exact (integer v).bind fun _ _ => .pure trivial
  | divisibleBy =>
    refine (need hg 0 _).bind fun x _ => (integer x).bind fun n _ => ?_
    dsimp only
    split
    · exact .throw _
    · exact (integer v).bind fun _ _ => .pure trivial
  | eq =>
    exact (materialize ha hv).bind fun _ _ => (need hg 0 _).bind fun _ hx =>
      (materialize ha hx).bind fun _ _ => .pure trivial
  | isIn =>
    exact (need hg 0 _).bind fun _ hx => (defined hx).bind fun _ hx =>
      (items hx.loose).bind fun _ _ => .pure trivial
  | _ => exact .pure trivial

end Ensures
end MailMerge
