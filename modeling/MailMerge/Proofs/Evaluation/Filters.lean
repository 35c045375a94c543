/-
# Filters and tests in parallel

A filter sees of its input the text, the items, the entries, the number or the kind,
and of its arguments the same; on related inputs it gives related results and fails
with the same errors.  `unique` and the test `in` compare items without looking behind
handles, so they run in step only where related values are equal.
-/

import MailMerge.Filter.Apply
import MailMerge.Proofs.Evaluation.Operators

namespace MailMerge

/-- Arguments on two sides. -/
structure Filters.Arguments.Related (B : Bridge) (given given' : Filters.Arguments) : Prop where
  args : Value.RelatedLists B B.left given.args given'.args
  kwargs : Dict.Related (Value.Related B B.left) given.kwargs given'.kwargs

namespace Parallel

open Filters

variable {B : Bridge} {v w : Value} {given given' : Arguments}

section Arguments

variable (hg : given.Related B given')
include hg

theorem param?_rel (position : Nat) (key : String) :
    Option.Rel (Value.Related B B.left) (given.param? position key)
      (given'.param? position key) := by
  have hp := getElem?_rel hg.args position
  unfold Arguments.param?
  revert hp
  rcases given.args[position]? with _ | x <;> rcases given'.args[position]? with _ | y <;>
    intro hp <;> cases hp
  · exact hg.kwargs.find? key
  · exact .some ‹_›

theorem flag_eq (position : Nat) (key : String) :
    given.flag position key = given'.flag position key := by
  have hp := param?_rel hg position key
  unfold Arguments.flag
  revert hp
  rcases given.param? position key with _ | x <;> rcases given'.param? position key with _ | y <;>
    intro hp <;> cases hp
  · rfl
  · exact Value.Related.truthy_eq ‹_›

theorem need (position : Nat) (name : String) :
    Parallel B (Value.Related B B.left) (fun _ => given.need position name)
      (fun _ => given'.need position name) :=
  ofOption (fun _ _ hx => .pure hx) (.throw (B.fault_of_isOwn rfl))
    (getElem?_rel hg.args position)

/-- What is done with an optional argument, or without it. -/
theorem optional {α : Type} {position : Nat} {key : String} {P : α → α → Prop}
    {f g : Value → Access → Read α} {f' g' : Access → Read α}
    (hsome : ∀ x y, Value.Related B B.left x y → Parallel B P (f x) (g y))
    (hnone : Parallel B P f' g') :
    Parallel B P
      (fun a => match given.param? position key with
        | some x => f x a
        | none => f' a)
      (fun a => match given'.param? position key with
        | some y => g y a
        | none => g' a) :=
  ofOption hsome hnone (param?_rel hg position key)

/-- An argument that stands in for a value. -/
theorem fallback_rel {position : Nat} {key : String} {d : Value} (hd : d.AtHand) :
    Value.Related B B.left ((given.param? position key).getD d)
      ((given'.param? position key).getD d) :=
  related_getD (param?_rel hg position key) (.of_atHand hd)

end Arguments

theorem textOr (hg : given.Related B given') (position : Nat) (key standIn : String) :
    Parallel B Eq (fun a => given.textOr a position key standIn)
      (fun a => given'.textOr a position key standIn) :=
  optional hg (fun _ _ hm => output hm) (.pure rfl)

theorem integer (h : Value.Related B B.left v w) :
    Parallel B Eq (fun _ => Filters.integer v) (fun _ => Filters.integer w) := by
  cases h with
  | int k => exact .pure rfl
  | _ => exact .throw (B.fault_of_isOwn rfl)

theorem mapping (h : Value.Related B B.left v w) :
    Parallel B (fun x y => Value.Related B B.left x y ∧ x.isMapping = true)
      (fun _ => Filters.mapping v) (fun _ => Filters.mapping w) := by
  cases h with
  | map h => exact .pure ⟨.map h, rfl⟩
  | handle h => exact .pure ⟨.handle h, rfl⟩
  | opened h => exact .pure ⟨.opened h, rfl⟩
  | _ => exact .throw (B.fault_of_isOwn rfl)

/-! ### Text -/

theorem onText (f : List Char → List Char) (h : Value.Related B B.left v w) :
    Parallel B (Value.Related B B.left) (fun a => Filters.onText a f v)
      (fun a => Filters.onText a f w) :=
  (output h).bind fun _ _ hst => .pure (hst ▸ .str _)

theorem replace (h : Value.Related B B.left v w) (hg : given.Related B given') :
    Parallel B (Value.Related B B.left) (fun a => Filters.replace a v given)
      (fun a => Filters.replace a w given') := by
  refine (output h).bind fun s s' hs => (need hg 0 _).bind fun x x' hx => (output hx).bind
    fun o o' ho => (need hg 1 _).bind fun y y' hy => (output hy).bind fun t t' ht => ?_
  subst hs ho ht
  exact optional hg (fun _ _ hc => (integer hc).bind fun _ _ hn => .pure (hn ▸ .str _))
    (.pure (.str _))

theorem truthOfText (s : String) (hg : given.Related B given') :
    Parallel B (Value.Related B B.left) (fun _ => Filters.truthOfText s given)
      (fun _ => Filters.truthOfText s given') := by
  unfold Filters.truthOfText
  split
  · exact .pure (.bool _)
  · exact optional hg (fun _ _ hc => .pure hc) (.throw (B.fault_of_isOwn rfl))

theorem toBool (h : Value.Related B B.left v w) (hg : given.Related B given') :
    Parallel B (Value.Related B B.left) (fun a => Filters.toBool a v given)
      (fun a => Filters.toBool a w given') := by
  refine (defined h).bind fun x y hxy => ?_
  have hrest : Parallel B (Value.Related B B.left)
      (fun a => if x.isNumber then pure (.bool x.truthy)
        else x.output a >>= fun s => Filters.truthOfText s given)
      (fun a => if y.isNumber then pure (.bool y.truthy)
        else y.output a >>= fun s => Filters.truthOfText s given') := by
    rw [hxy.isNumber_eq, hxy.truthy_eq]
    split
    · exact .pure (.bool _)
    · exact (output hxy).bind fun s _ hst => hst ▸ truthOfText s hg
  cases hxy with
  | bool b => exact .pure (.bool b)
  | null => exact .pure (.bool false)
  | _ => exact hrest

/-! ### Numbers -/

theorem int (h : Value.Related B B.left v w) (hg : given.Related B given') :
    Parallel B (Value.Related B B.left) (fun _ => Filters.int v given)
      (fun _ => Filters.int w given') := by
  refine (defined h).bind fun x y hxy => ?_
  have hf : Parallel B (Value.Related B B.left) (fun _ => pure (fallback given (.int 0)))
      (fun _ => pure (fallback given' (.int 0))) := .pure (fallback_rel hg rfl)
  cases hxy with
  | int k => exact .pure (.int k)
  | float x => exact .pure (.int _)
  | bool b => exact .pure (.int _)
  | str s =>
    dsimp only
    split
    · exact .pure (.int _)
    · exact hf
  | _ => exact hf

theorem float (h : Value.Related B B.left v w) (hg : given.Related B given') :
    Parallel B (Value.Related B B.left) (fun _ => Filters.float v given)
      (fun _ => Filters.float w given') := by
  refine (defined h).bind fun x y hxy => ?_
  have hf : Parallel B (Value.Related B B.left) (fun _ => pure (fallback given (.float 0.0)))
      (fun _ => pure (fallback given' (.float 0.0))) := .pure (fallback_rel hg rfl)
  cases hxy with
  | int k => exact .pure (.float _)
  | float x => exact .pure (.float x)
  | bool b => exact .pure (.float _)
  | str s =>
    dsimp only
    split
    · exact .pure (.float _)
    · exact hf
  | _ => exact hf

theorem abs (h : Value.Related B B.left v w) :
    Parallel B (Value.Related B B.left) (fun _ => Filters.abs v) (fun _ => Filters.abs w) := by
  refine (defined h).bind fun x y hxy => ?_
  cases hxy with
  | int k => exact exactInteger _
  | float x => exact .pure (.float _)
  | _ => exact .throw (B.fault_of_isOwn rfl)

theorem roundable (h : Value.Related B B.left v w) :
    Parallel B Eq (fun _ => Filters.roundable v) (fun _ => Filters.roundable w) := by
  unfold Filters.roundable
  rw [h.float?_eq]
  split
  · exact .pure rfl
  · exact .throw (B.fault_of_isOwn rfl)

theorem round (h : Value.Related B B.left v w) (hg : given.Related B given') :
    Parallel B (Value.Related B B.left) (fun a => Filters.round a v given)
      (fun a => Filters.round a w given') := by
  refine (defined h).bind fun x y hxy => (roundable hxy).bind fun z z' hz => ?_
  have hplaces : Parallel B Eq (fun _ => Filters.precision given)
      (fun _ => Filters.precision given') :=
    optional hg (fun _ _ hp => integer hp) (.pure rfl)
  refine hplaces.bind fun p p' hp => (textOr hg 1 _ _).bind fun m m' hm => ?_
  subst hz hp hm
  dsimp only
  split
  · exact .pure (.float _)
  · exact .throw (B.fault_of_isOwn rfl)

theorem addFloat {t t' : Value} (ht : Value.Related B B.left t t')
    (h : Value.Related B B.left v w) :
    Parallel B (Value.Related B B.left) (fun _ => Filters.addFloat t v)
      (fun _ => Filters.addFloat t' w) := by
  unfold Filters.addFloat
  rw [ht.float?_eq, h.float?_eq, h.kind_eq]
  split
  · exact .pure (.float _)
  · exact .throw (B.fault_of_isOwn rfl)

theorem addTo {t t' : Value} (ht : Value.Related B B.left t t') (h : Value.Related B B.left v w) :
    Parallel B (Value.Related B B.left) (fun _ => Filters.addTo t v)
      (fun _ => Filters.addTo t' w) := by
  have hf := addFloat ht h
  cases ht with
  | int a =>
    cases h with
    | int b => exact exactInteger _
    | _ => exact hf
  | _ => cases h <;> exact hf

theorem sum (h : Value.Related B B.left v w) (hg : given.Related B given') :
    Parallel B (Value.Related B B.left) (fun _ => Filters.sum v given)
      (fun _ => Filters.sum w given') :=
  (items h).bind fun _ _ hxs => foldlM hxs (fallback_rel hg rfl) fun _ _ _ _ ht hx => addTo ht hx

/-! ### Sequences -/

section Sequences

variable {x x' : Value} {xs xs' : List Value}

theorem insertBack_rel (hx : Value.Related B B.left x x')
    (h : Value.RelatedLists B B.left xs xs') :
    Value.RelatedLists B B.left (insertBack x xs).1 (insertBack x' xs').1 ∧
      (insertBack x xs).2 = (insertBack x' xs').2 := by
  induction h with
  | nil => exact ⟨.cons hx .nil, rfl⟩
  | cons hy hys ih =>
    rw [insertBack, insertBack, hx.compare_eq hy, hx.kind_eq, hy.kind_eq]
    split
    · exact ⟨.cons hy ih.1, ih.2⟩
    · exact ⟨.cons hx (.cons hy hys), rfl⟩
    · exact ⟨.cons hx (.cons hy hys), rfl⟩

/-- Sorting by insertion depends on the comparisons alone. -/
theorem sortBack_rel (h : Value.RelatedLists B B.left xs xs') :
    Value.RelatedLists B B.left (sortBack xs).1 (sortBack xs').1 ∧
      (sortBack xs).2 = (sortBack xs').2 := by
  suffices ∀ before before' : List Value × Option Clash,
      Value.RelatedLists B B.left before.1 before'.1 → before.2 = before'.2 →
      Value.RelatedLists B B.left (xs.foldl insertNext before).1 (xs'.foldl insertNext before').1 ∧
        (xs.foldl insertNext before).2 = (xs'.foldl insertNext before').2 from
    this ([], none) ([], none) .nil rfl
  induction h with
  | nil => exact fun before before' hback hclash => ⟨hback, hclash⟩
  | cons hx _ ih =>
    intro before before' hback hclash
    obtain ⟨hback', hclash'⟩ := insertBack_rel hx hback
    rw [List.foldl_cons, List.foldl_cons]
    exact ih _ _ hback' (congrArg₂ Option.or hclash hclash')

theorem sorted (h : Value.RelatedLists B B.left xs xs') :
    Parallel B (Value.RelatedLists B B.left) (fun _ => Filters.sorted xs)
      (fun _ => Filters.sorted xs') := by
  obtain ⟨hsorted, hclash⟩ := sortBack_rel h
  unfold Filters.sorted
  revert hsorted hclash
  rcases sortBack xs with ⟨back, _ | ⟨l, r⟩⟩ <;> rcases sortBack xs' with ⟨back', _ | ⟨l', r'⟩⟩ <;>
    intro hsorted hclash <;> cases hclash
  · exact .pure (List.rel_reverse hsorted)
  · exact .throw (B.fault_of_isOwn rfl)

theorem sort (h : Value.Related B B.left v w) (hg : given.Related B given') :
    Parallel B (Value.Related B B.left) (fun _ => Filters.sort v given)
      (fun _ => Filters.sort w given') := by
  refine (items h).bind fun xs ys hxs => (sorted hxs).bind fun us vs hus => .pure (.list ?_)
  rw [flag_eq hg]
  split
  · exact List.rel_reverse hus
  · exact hus

theorem reverse (h : Value.Related B B.left v w) :
    Parallel B (Value.Related B B.left) (fun _ => Filters.reverse v)
      (fun _ => Filters.reverse w) := by
  have hlist : Parallel B (Value.Related B B.left) (fun _ => do return .list (← v.items).reverse)
      (fun _ => do return .list (← w.items).reverse) :=
    (items h).bind fun _ _ hxs => .pure (.list (List.rel_reverse hxs))
  cases h with
  | str s => exact .pure (.str _)
  | _ => exact hlist

/-- Items that are left out because they equal others are the same where related values are
equal. -/
theorem distinct_rel (hB : B.Exact) (h : Value.RelatedLists B B.left xs xs') :
    Value.RelatedLists B B.left (distinct xs) (distinct xs') := by
  suffices ∀ seen, Value.RelatedLists B B.left seen seen →
      Value.RelatedLists B B.left
        (xs.foldl (fun seen x => if Value.memberOf x seen then seen else seen ++ [x]) seen)
        (xs'.foldl (fun seen x => if Value.memberOf x seen then seen else seen ++ [x]) seen) from
    this [] .nil
  induction h with
  | nil => exact fun seen hseen => hseen
  | cons hx _ ih =>
    intro seen hseen
    obtain rfl := hx.eq_of_exact hB
    rw [List.foldl_cons, List.foldl_cons]
    split
    · exact ih seen hseen
    · exact ih _ (List.rel_append hseen (.cons hx .nil))

theorem length (h : Value.Related B B.left v w) :
    Parallel B (Value.Related B B.left) (fun _ => Filters.length v)
      (fun _ => Filters.length w) := by
  refine (defined h).bind fun x y hxy => ?_
  rw [hxy.size?_eq, hxy.kind_eq]
  split
  · exact .pure (.int _)
  · exact .throw (B.fault_of_isOwn rfl)

theorem default_rel (h : Value.Related B B.left v w) (hg : given.Related B given') :
    Value.Related B B.left (Filters.default v given) (Filters.default w given') := by
  unfold Filters.default
  rw [h.isUndefined_eq, h.truthy_eq, flag_eq hg]
  split
  · exact fallback_rel hg rfl
  · exact h

theorem join (h : Value.Related B B.left v w) (hg : given.Related B given') :
    Parallel B (Value.Related B B.left) (fun a => Filters.join a v given)
      (fun a => Filters.join a w given') := by
  refine (textOr hg 0 _ _).bind fun sep _ hsep => (items h).bind fun xs ys hxs => ?_
  refine (mapM (Q := Eq) hxs fun _ _ hx => output hx).bind fun ss ts hst => ?_
  rw [List.forall₂_eq_eq_eq] at hst
  exact .pure (hsep ▸ hst ▸ .str _)

theorem head?_rel (h : Value.RelatedLists B B.left xs xs') :
    Option.Rel (Value.Related B B.left) xs.head? xs'.head? := by
  cases h with
  | nil => exact .none
  | cons hx _ => exact .some hx

theorem getLast?_rel (h : Value.RelatedLists B B.left xs xs') :
    Option.Rel (Value.Related B B.left) xs.getLast? xs'.getLast? := by
  rw [← List.head?_reverse, ← List.head?_reverse]
  exact head?_rel (List.rel_reverse h)

theorem first (h : Value.Related B B.left v w) :
    Parallel B (Value.Related B B.left) (fun _ => Filters.first v)
      (fun _ => Filters.first w) :=
  (defined h).bind fun _ _ hxy => (items hxy).bind fun _ _ hxs =>
    .pure (related_getD (head?_rel hxs) (.undefined _))

theorem last (h : Value.Related B B.left v w) :
    Parallel B (Value.Related B B.left) (fun _ => Filters.last v)
      (fun _ => Filters.last w) :=
  (defined h).bind fun _ _ hxy => (items hxy).bind fun _ _ hxs =>
    .pure (related_getD (getLast?_rel hxs) (.undefined _))

theorem min (h : Value.Related B B.left v w) :
    Parallel B (Value.Related B B.left) (fun _ => Filters.min v) (fun _ => Filters.min w) :=
  (items h).bind fun _ _ hxs => (sorted hxs).bind fun _ _ hs =>
    .pure (related_getD (head?_rel hs) (.undefined _))

theorem max (h : Value.Related B B.left v w) :
    Parallel B (Value.Related B B.left) (fun _ => Filters.max v) (fun _ => Filters.max w) :=
  (items h).bind fun _ _ hxs => (sorted hxs).bind fun _ _ hs =>
    .pure (related_getD (getLast?_rel hs) (.undefined _))

end Sequences

/-! ### Mappings -/

/-- The keys of a mapping, at hand or not, as the items it is run through by. -/
theorem keyItems (h : Value.Related B B.left v w) (hm : v.isMapping = true) :
    Parallel B (List.Forall₂ fun k l => ∃ s, s ∈ v.keyNames ∧ k = .str s ∧ l = .str s)
      (fun _ => v.items) (fun _ => w.items) := by
  have hkeys : ∀ keys : List String,
      List.Forall₂ (fun k l => ∃ s, s ∈ keys ∧ k = Value.str s ∧ l = Value.str s)
        (keys.map Value.str) (keys.map Value.str) := by
    intro keys
    rw [List.forall₂_map_left_iff, List.forall₂_map_right_iff]
    exact List.forall₂_same.2 fun s hs => ⟨s, hs, rfl, rfl⟩
  cases h with
  | @map xs ys h =>
    refine .pure ?_
    rw [Value.keyNames, ← Value.map_str_keys, ← Value.map_str_keys, ← h.keys_eq]
    exact hkeys _
  | @handle place keys _ => exact .pure (hkeys keys)
  | @opened place keys entries h =>
    refine .pure ?_
    rw [Value.keyNames, ← Value.map_str_keys, B.flat_keys h]
    exact hkeys keys
  | _ => exact absurd hm Bool.false_ne_true

/-- The value of a key that the mapping has. -/
theorem valueOf (h : Value.Related B B.left v w) {s : String} (hs : s ∈ v.keyNames) :
    Parallel B (Value.Related B B.left) (fun a => Filters.valueOf a v s)
      (fun a => Filters.valueOf a w s) := by
  cases h with
  | map h => exact .pure (related_getD (h.find? s) .null)
  | handle h => exact .entry s (B.same_succ h)
  | @opened place keys entries h =>
    have hopen := Parallel.opened s (B.flat_succ h)
    have hbound : Dict.find? entries s ≠ none := by
      rw [Ne, Dict.find?_eq_none_iff, B.flat_keys h]
      exact fun hn => hn hs
    obtain ⟨x, hx⟩ := Option.ne_none_iff_exists'.1 hbound
    simp only [Filters.valueOf, hx, Option.getD_some] at hopen ⊢
    exact hopen
  | _ => exact absurd hs List.not_mem_nil

theorem values (h : Value.Related B B.left v w) :
    Parallel B (Value.Related B B.left) (fun a => Filters.values a v)
      (fun a => Filters.values a w) := by
  refine (mapping h).bind fun x y hxy => (keyItems hxy.1 hxy.2).bind fun ks ls hks => ?_
  refine (mapM hks fun k l hkl => ?_).bind fun _ _ hvs => .pure (.list hvs)
  obtain ⟨s, hs, rfl, rfl⟩ := hkl
  exact valueOf hxy.1 hs

theorem itemsOf (h : Value.Related B B.left v w) :
    Parallel B (Value.Related B B.left) (fun a => Filters.items a v)
      (fun a => Filters.items a w) := by
  refine (mapping h).bind fun x y hxy => (keyItems hxy.1 hxy.2).bind fun ks ls hks => ?_
  refine (mapM hks fun k l hkl => ?_).bind fun _ _ hvs => .pure (.list hvs)
  obtain ⟨s, hs, rfl, rfl⟩ := hkl
  exact (valueOf hxy.1 hs).bind fun _ _ hv => .pure (.list (.cons (.str s) (.cons hv .nil)))

/-! ### Patterns -/

theorem patternOf {p p' : Value} (h : Value.Related B B.left v w)
    (hp : Value.Related B B.left p p') (hg : given.Related B given') (position : Nat) :
    Parallel B Eq (fun a => Filters.patternOf a v p given position)
      (fun a => Filters.patternOf a w p' given' position) := by
  refine (output h).bind fun s s' hs => (output hp).bind fun t t' ht => ?_
  subst hs ht
  rw [flag_eq hg, flag_eq hg]
  dsimp only
  split
  · exact .pure rfl
  · exact .throw (B.fault_of_isOwn rfl)

theorem patternFindAll (h : Value.Related B B.left v w) (hg : given.Related B given') :
    Parallel B (Value.Related B B.left) (fun a => Filters.patternFindAll a v given)
      (fun a => Filters.patternFindAll a w given') := by
  refine (need hg 0 _).bind fun p p' hp => (patternOf h hp hg 1).bind fun r r' hr => ?_
  subst hr
  refine .pure (.of_atHand (Value.atHand_list.2 fun x hx => ?_))
  obtain ⟨m, -, rfl⟩ := List.mem_map.1 hx
  split
  · rfl
  · rfl
  · refine Value.atHand_list.2 fun y hy => ?_
    obtain ⟨i, -, rfl⟩ := List.mem_map.1 hy
    rfl

theorem patternReplace (h : Value.Related B B.left v w) (hg : given.Related B given') :
    Parallel B (Value.Related B B.left) (fun a => Filters.patternReplace a v given)
      (fun a => Filters.patternReplace a w given') := by
  refine (textOr hg 1 _ _).bind fun t t' ht => (need hg 0 _).bind fun p p' hp =>
    (patternOf h hp hg 2).bind fun r r' hr => ?_
  subst ht hr
  exact .pure (.str _)

theorem select_atHand (prog : Pattern.Program) (subject : List Char) (m : Pattern.Match)
    (sel : Selector) : (select prog subject m sel).AtHand := by
  cases sel <;> rw [select] <;> split <;> rfl

theorem patternSearch (h : Value.Related B B.left v w) (hg : given.Related B given') :
    Parallel B (Value.Related B B.left) (fun a => Filters.patternSearch a v given)
      (fun a => Filters.patternSearch a w given') := by
  have hflags : Arguments.Related B { given with args := [] } { given' with args := [] } :=
    ⟨.nil, hg.kwargs⟩
  have hselect := List.forall₂_drop 1 hg.args
  refine (need hg 0 _).bind fun p p' hp => (patternOf h hp hflags 0).bind fun r r' hr => ?_
  subst hr
  obtain ⟨subject, prog⟩ := r
  dsimp only
  cases prog.find? subject with
  | none => exact .pure .null
  | some m =>
    dsimp only
    revert hselect
    rcases given.args.drop 1 with _ | ⟨x, xs⟩ <;> rcases given'.args.drop 1 with _ | ⟨y, ys⟩ <;>
      intro hselect
    · exact .pure (.str _)
    · cases hselect
    · cases hselect
    · refine (mapM hselect fun u u' hu => (output hu).bind fun s s' hs => ?_).bind
        fun _ _ hvs => .pure (.list hvs)
      subst hs
      dsimp only
      split
      · exact .pure (.of_atHand (select_atHand prog subject m _))
      · exact .throw (B.fault_of_isOwn rfl)

theorem patternContains (h : Value.Related B B.left v w) (hg : given.Related B given') :
    Parallel B (Value.Related B B.left) (fun a => Filters.patternContains a v given)
      (fun a => Filters.patternContains a w given') := by
  refine (need hg 0 _).bind fun p p' hp => (patternOf h hp hg 1).bind fun r r' hr => ?_
  subst hr
  exact .pure (.bool _)

/-! ### All filters and tests -/

/-- **Filters run in step**, `unique` where related values are equal. -/
theorem applyFilter {filter : Filter} (hf : B.Exact ∨ filter ≠ .unique)
    (h : Value.Related B B.left v w) (hg : given.Related B given') :
    Parallel B (Value.Related B B.left) (fun a => filter.apply a v given)
      (fun a => filter.apply a w given') := by
  cases filter with
  | string => exact (output h).bind fun _ _ hs => .pure (hs ▸ .str _)
  | length => exact length h
  | default => exact .pure (default_rel h hg)
  | join => exact join h hg
  | int => exact int h hg
  | float => exact float h hg
  | replace => exact replace h hg
  | first => exact first h
  | last => exact last h
  | abs => exact abs h
  | round => exact round h hg
  | list => exact (items h).bind fun _ _ hxs => .pure (.list hxs)
  | sort => exact sort h hg
  | reverse => exact reverse h
  | unique =>
    have hB := hf.resolve_right fun hn => hn rfl
    exact (items h).bind fun _ _ hxs => .pure (.list (distinct_rel hB hxs))
  | keys =>
    exact (mapping h).bind fun _ _ hxy => (items hxy.1).bind fun _ _ hxs => .pure (.list hxs)
  | values => exact values h
  | items => exact itemsOf h
  | min => exact min h
  | max => exact max h
  | sum => exact sum h hg
  | patternFindAll => exact patternFindAll h hg
  | patternReplace => exact patternReplace h hg
  | patternSearch => exact patternSearch h hg
  | patternContains => exact patternContains h hg
  | bool => exact toBool h hg
  | probe => exact Parallel.count.bind fun _ _ _ => .pure h
  | upper => exact onText _ h
  | lower => exact onText _ h
  | title => exact onText _ h
  | capitalize => exact onText _ h
  | trim => exact onText _ h
  | patternEscape => exact onText _ h
  | path => exact onText _ h
  | quote => exact onText _ h

/-- **Tests run in step**, `in` where related values are equal. -/
theorem holds {test : ValueTest} (ht : B.Exact ∨ test ≠ .isIn) (h : Value.Related B B.left v w)
    (hg : given.Related B given') :
    Parallel B Eq (fun a => test.holds a v given) (fun a => test.holds a w given') := by
  cases test with
  | defined => exact .pure (by rw [h.isUndefined_eq])
  | undefined => exact .pure h.isUndefined_eq
  | isTrue => exact .pure (by cases h <;> rfl)
  | isFalse => exact .pure (by cases h <;> rfl)
  | number => exact .pure h.isNumber_eq
  | mapping => exact .pure h.isMapping_eq
  | sequence => exact .pure (by rw [h.size?_eq])
  | iterable => exact .pure (by rw [h.size?_eq])
  | even => exact (integer h).bind fun _ _ hk => .pure (by rw [hk])
  | odd => exact (integer h).bind fun _ _ hk => .pure (by rw [hk])
  | divisibleBy =>
    refine (need hg 0 _).bind fun d d' hd => (integer hd).bind fun k k' hk => ?_
    subst hk
    dsimp only
    split
    · exact .throw (B.fault_of_isOwn rfl)
    · exact (integer h).bind fun _ _ hk => .pure (by rw [hk])
  | eq =>
    refine (materialize h).bind fun l l' hl => (need hg 0 _).bind fun x x' hx =>
      (materialize hx).bind fun r r' hr => .pure ?_
    rw [hl.1, hr.1]
  | isIn =>
    have hB := ht.resolve_right fun hn => hn rfl
    refine (need hg 0 _).bind fun x x' hx => (defined hx).bind fun c c' hc =>
      (items hc).bind fun xs xs' hxs => .pure ?_
    obtain rfl := h.eq_of_exact hB
    rw [Value.relatedLists_eq_of_exact hB hxs]
  | none => exact .pure (by rw [h.kind_eq])
  | boolean => exact .pure (by rw [h.kind_eq])
  | integer => exact .pure (by rw [h.kind_eq])
  | float => exact .pure (by rw [h.kind_eq])
  | string => exact .pure (by rw [h.kind_eq])

end Parallel
end MailMerge
