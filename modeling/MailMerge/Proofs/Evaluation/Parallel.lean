/-
# Evaluations in parallel

`Parallel B P f g` says that two computations run in step: they ask for the same names
and the same entries, get related answers, fail with the same errors, and end in
results that `P` relates.  The one exception is a handle of the left side that stands
for a mapping on the right, which is looked up there without asking anybody.

The judgement speaks of no memory.  What holds of whole evaluations, be it about their
results, the entries they settle or the errors they raise, is proved once by induction
on it.  This module builds it for what values can be asked: `expand` and `output`, the
items of a sequence, the entries of a mapping.
-/

import MailMerge.Proofs.Evaluation.Related

namespace MailMerge

/-- Two computations that run in step. -/
inductive Parallel (B : Bridge) :
    {α β : Type} → (α → β → Prop) → (Access → Read α) → (Access → Read β) → Prop
  | protected pure {α β : Type} {P : α → β → Prop} {x : α} {y : β} :
    P x y → Parallel B P (fun _ => pure x) (fun _ => pure y)
  | protected throw {α β : Type} {P : α → β → Prop} {e : RenderError} :
    B.fault e → Parallel B P (fun _ => throw e) (fun _ => throw e)
  | protected bind {α β γ δ : Type} {P : α → β → Prop} {Q : γ → δ → Prop}
    {f : Access → Read α} {f' : Access → Read β}
    {g : α → Access → Read γ} {g' : β → Access → Read δ} :
    Parallel B P f f' → (∀ x y, P x y → Parallel B Q (g x) (g' y)) →
    Parallel B Q (fun a => f a >>= fun x => g x a) (fun a => f' a >>= fun y => g' y a)
  | name (s : String) :
    Parallel B (Option.Rel (Value.Related B B.left)) (fun a => a.name s) (fun a => a.name s)
  | entry {n : Nat} {place keys : List String} (key : String) : B.same (n + 1) place keys →
    Parallel B (Value.Related B n) (fun a => a.entry place key) (fun a => a.entry place key)
  | opened {n : Nat} {place keys : List String} {entries : Dict Value} (key : String) :
    B.flat (n + 1) place keys entries →
    Parallel B (Value.Related B n) (fun a => a.entry place key)
      (fun _ => pure ((Dict.find? entries key).getD (.undefined key)))
  | count :
    Parallel B (fun _ _ => True)
      (fun _ => (modify fun m => { m with uses := m.uses + 1 } : Read PUnit))
      (fun _ => (modify fun m => { m with uses := m.uses + 1 } : Read PUnit))
  | height {α β : Type} {P : α → β → Prop} {f : Nat → Access → Read α} {g : Nat → Access → Read β} :
    Parallel B P (f B.left) (g B.right) →
    Parallel B P (fun a => f a.height a) (fun a => g a.height a)

namespace Value

/-- The keys of a mapping, at hand or lazy. -/
def keyNames : Value → List String
  | map entries => Dict.keys entries
  | lazy _ keys => keys
  | _ => []

/-- The keys of a mapping as texts. -/
theorem map_str_keys (entries : Dict Value) :
    (Dict.keys entries).map str = entries.map fun e => str e.1 := by
  simp [Dict.keys]

/-- Two values that are equal, without handles and without anything undefined. -/
def SolidEq (v w : Value) : Prop := v = w ∧ v.Solid

/-- What has no handle and nothing undefined inside is its own expansion. -/
theorem expandWith_of_solid {v : Value} {f : List String → List String → Read Value}
    (h : v.Solid) : expandWith f v = pure v := by
  induction v using Value.induction with
  | list items ih =>
    have hitems : expandItems f items = pure items := by
      induction items with
      | nil => rfl
      | cons v rest ihr =>
        rw [solid_list] at h
        rw [expandItems, ih v List.mem_cons_self (h v List.mem_cons_self),
          ihr (fun w hw => ih w (List.mem_cons_of_mem _ hw))
            (solid_list.2 fun w hw => h w (List.mem_cons_of_mem _ hw))]
        rfl
    rw [expandWith, hitems]
    rfl
  | map entries ih =>
    have hentries : expandEntries f entries = pure entries := by
      induction entries with
      | nil => rfl
      | cons e rest ihr =>
        obtain ⟨k, v⟩ := e
        rw [solid_map] at h
        rw [expandEntries, ih (k, v) List.mem_cons_self (h (k, v) List.mem_cons_self),
          ihr (fun w hw => ih w (List.mem_cons_of_mem _ hw))
            (solid_map.2 fun w hw => h w (List.mem_cons_of_mem _ hw))]
        rfl
    rw [expandWith, hentries]
    rfl
  | undefined => exact absurd h not_solid_undefined
  | lazy => exact absurd h not_solid_lazy
  | _ => rfl

theorem expand_of_solid {v : Value} {a : Access} {depth : Nat} (h : v.Solid) :
    expand a depth v = pure v := by
  cases depth <;> exact expandWith_of_solid h

/-- The entries of a solid mapping, expanded one by one. -/
theorem mapM_expand_of_solid {a : Access} {depth : Nat} {entries : Dict Value}
    (h : ∀ e ∈ entries, e.2.Solid) :
    (entries.mapM fun e => do
      let v ← (pure e.2 : Read Value)
      let w ← expand a depth v
      return (e.1, w)) = pure entries := by
  induction entries with
  | nil => rfl
  | cons e rest ih =>
    rw [List.mapM_cons, pure_bind, expand_of_solid (h e List.mem_cons_self),
      ih fun d hd => h d (List.mem_cons_of_mem _ hd)]
    rfl

end Value

namespace Parallel

variable {B : Bridge} {n : Nat} {v w : Value}

section Combinators

variable {α β γ δ : Type} {P : α → β → Prop} {Q : γ → δ → Prop}

theorem imp {R : α → β → Prop} {f : Access → Read α} {g : Access → Read β}
    (h : Parallel B P f g) (hPR : ∀ x y, P x y → R x y) : Parallel B R f g := by
  simpa using h.bind fun x y hxy => .pure (hPR x y hxy)

theorem map {u : α → γ} {v : β → δ} {f : Access → Read α} {g : Access → Read β}
    (h : Parallel B P f g) (huv : ∀ x y, P x y → Q (u x) (v y)) :
    Parallel B Q (fun a => u <$> f a) (fun a => v <$> g a) := by
  simpa only [← bind_pure_comp] using h.bind fun x y hxy => .pure (huv x y hxy)

/-- Computations on the members of two lists, one pair after the other. -/
theorem mapM {xs : List α} {ys : List β} {f : α → Access → Read γ} {g : β → Access → Read δ}
    (h : List.Forall₂ P xs ys) (hfg : ∀ x y, P x y → Parallel B Q (f x) (g y)) :
    Parallel B (List.Forall₂ Q) (fun a => xs.mapM fun x => f x a)
      (fun a => ys.mapM fun y => g y a) := by
  induction h with
  | nil => exact .pure .nil
  | cons hx _ ih =>
    simp only [List.mapM_cons]
    exact (hfg _ _ hx).bind fun u v huv => ih.bind fun us vs hs => .pure (.cons huv hs)

/-- Folds of two lists in step. -/
theorem foldlM {R : γ → δ → Prop} {xs : List α} {ys : List β} {f : γ → α → Read γ}
    {g : δ → β → Read δ} {c : γ} {d : δ} (h : List.Forall₂ P xs ys) (hcd : R c d)
    (hfg : ∀ c d x y, R c d → P x y → Parallel B R (fun _ => f c x) (fun _ => g d y)) :
    Parallel B R (fun _ => xs.foldlM f c) (fun _ => ys.foldlM g d) := by
  induction h generalizing c d with
  | nil => exact .pure hcd
  | cons hx _ ih =>
    simp only [List.foldlM_cons]
    exact (hfg c d _ _ hcd hx).bind fun c d hcd => ih hcd

/-- What is done with an answer, or without one. -/
theorem ofOption {o o' : Option Value} {f : Value → Access → Read γ}
    {g : Value → Access → Read δ} {f' : Access → Read γ} {g' : Access → Read δ}
    (hsome : ∀ x y, Value.Related B n x y → Parallel B Q (f x) (g y))
    (hnone : Parallel B Q f' g') :
    Option.Rel (Value.Related B n) o o' → Parallel B Q
      (fun a => match o with
        | some x => f x a
        | none => f' a)
      (fun a => match o' with
        | some y => g y a
        | none => g' a) := by
  intro h
  cases h with
  | some hx => exact hsome _ _ hx
  | none => exact hnone

end Combinators

theorem defined (h : Value.Related B n v w) :
    Parallel B (Value.Related B n) (fun _ => v.defined) (fun _ => w.defined) := by
  cases h with
  | undefined s => exact .throw (B.fault_of_isOwn rfl)
  | list h => exact .pure (.list h)
  | map h => exact .pure (.map h)
  | handle h => exact .pure (.handle h)
  | opened h => exact .pure (.opened h)
  | _ => exact .pure (by constructor)

/-! ### Expansion -/

/-- Expansions run in step if they do for each handle. -/
theorem expandWith {f g : Access → List String → List String → Read Value}
    (hsame : ∀ place keys, B.same n place keys →
      Parallel B Value.SolidEq (fun a => f a place keys) (fun a => g a place keys))
    (hflat : ∀ place keys entries, B.flat n place keys entries →
      Parallel B Value.SolidEq (fun a => f a place keys) (fun _ => pure (.map entries)))
    (h : Value.Related B n v w) :
    Parallel B Value.SolidEq (fun a => Value.expandWith (f a) v)
      (fun a => Value.expandWith (g a) w) := by
  induction v using Value.induction generalizing w with
  | list xs ih =>
    cases h with
    | @list _ ys h =>
      have hitems : Parallel B (fun us vs => us = vs ∧ ∀ u ∈ us, u.Solid)
          (fun a => Value.expandItems (f a) xs) (fun a => Value.expandItems (g a) ys) := by
        induction h with
        | nil => exact .pure ⟨rfl, by simp⟩
        | cons hx _ ihl =>
          simp only [Value.expandItems]
          refine (ih _ List.mem_cons_self hx).bind fun u v hu =>
            (ihl fun x hx => ih x (List.mem_cons_of_mem _ hx)).bind fun us vs hs => .pure ?_
          rw [hu.1, hs.1]
          exact ⟨rfl, List.forall_mem_cons.2 ⟨hu.1 ▸ hu.2, hs.1 ▸ hs.2⟩⟩
      simp only [Value.expandWith]
      exact hitems.bind fun us vs hs => .pure ⟨by rw [hs.1], Value.solid_list.2 hs.2⟩
  | map xs ih =>
    cases h with
    | @map _ ys h =>
      have hentries : Parallel B (fun us vs => us = vs ∧ ∀ u ∈ us, u.2.Solid)
          (fun a => Value.expandEntries (f a) xs) (fun a => Value.expandEntries (g a) ys) := by
        induction h with
        | nil => exact .pure ⟨rfl, by simp⟩
        | cons hx _ ihl =>
          simp only [Value.expandEntries]
          refine (ih _ List.mem_cons_self hx).bind fun u v hu =>
            (ihl fun x hx => ih x (List.mem_cons_of_mem _ hx)).bind fun us vs hs => .pure ?_
          rw [hu.1, hs.1]
          exact ⟨rfl, List.forall_mem_cons.2 ⟨hu.1 ▸ hu.2, hs.1 ▸ hs.2⟩⟩
      simp only [Value.expandWith]
      exact hentries.bind fun us vs hs => .pure ⟨by rw [hs.1], Value.solid_map.2 hs.2⟩
  | lazy place keys =>
    cases h with
    | handle h => exact hsame place keys h
    | opened h =>
      simp only [Value.expandWith_of_solid (B.flat_solid h)]
      exact hflat place keys _ h
  | undefined s =>
    cases h
    exact .throw (B.fault_of_isOwn rfl)
  | _ =>
    cases h
    exact .pure ⟨rfl, rfl⟩

theorem solidEq_map {us vs : List (String × Value)}
    (h : List.Forall₂ (fun x y => x = y ∧ x.2.Solid) us vs) :
    Value.SolidEq (.map us) (.map vs) := by
  induction h with
  | nil => exact ⟨rfl, rfl⟩
  | cons hx _ ih =>
    obtain ⟨he, hs⟩ := ih
    refine ⟨by rw [hx.1, Value.map.inj he], Value.solid_map.2 ?_⟩
    exact List.forall_mem_cons.2 ⟨hx.2, Value.solid_map.1 hs⟩

/-- **Expansion ends in the same plain value on both sides.** -/
theorem expand {m : Nat} (hm : ∀ {k place keys}, B.same k place keys → n = m)
    (h : Value.Related B n v w) :
    Parallel B Value.SolidEq (fun a => Value.expand a n v) (fun a => Value.expand a m w) := by
  induction n generalizing v w m with
  | zero =>
    cases m with
    | zero =>
      exact expandWith (fun place keys hs => .throw (B.same_zero hs))
        (fun place keys entries hf => absurd hf B.flat_zero) h
    | succ m =>
      exact expandWith (fun place keys hs => absurd (hm hs) (by omega))
        (fun place keys entries hf => absurd hf B.flat_zero) h
  | succ n ih =>
    have hsame : ∀ place keys, B.same (n + 1) place keys →
        Parallel B Value.SolidEq (fun a => do
            let es ← keys.mapM fun key => do
              let v ← a.entry place key
              return (key, ← Value.expand a n v)
            return .map es)
          (fun a => do
            let es ← keys.mapM fun key => do
              let v ← a.entry place key
              return (key, ← Value.expand a n v)
            return .map es) := by
      intro place keys hs
      have hkeys : List.Forall₂ Eq keys keys := List.forall₂_same.2 fun _ _ => rfl
      refine (mapM (Q := fun x y => x = y ∧ x.2.Solid) hkeys fun key _ hk => ?_).bind
        fun us vs hs => .pure (solidEq_map hs)
      subst hk
      exact (Parallel.entry key hs).bind fun v w hv =>
        (ih (fun _ => rfl) hv).bind fun v w hv => .pure ⟨by rw [hv.1], hv.2⟩
    have hflat : ∀ place keys entries, B.flat (n + 1) place keys entries →
        Parallel B Value.SolidEq (fun a => do
            let es ← keys.mapM fun key => do
              let v ← a.entry place key
              return (key, ← Value.expand a n v)
            return .map es)
          (fun _ => pure (.map entries)) := by
      intro place keys entries hf
      have hsolid := Value.solid_map.1 (B.flat_solid hf)
      have hkeys : List.Forall₂ (fun key (e : String × Value) => key = e.1 ∧ e ∈ entries)
          keys entries := by
        rw [← B.flat_keys hf, Dict.keys, List.forall₂_map_left_iff]
        exact List.forall₂_same.2 fun e he => ⟨rfl, he⟩
      have hopen : ∀ e ∈ entries, Parallel B (Value.Related B n) (fun a => a.entry place e.1)
          (fun _ => pure e.2) := by
        intro e he
        have := Parallel.opened e.1 hf
        rwa [Dict.find?_of_mem (B.flat_ordered hf) he] at this
      -- the right side, entry by entry
      have hright : (fun a => do
          let es ← entries.mapM fun e => do
            let v ← (pure e.2 : Read Value)
            let w ← Value.expand a n v
            return (e.1, w)
          return Value.map es) = fun _ => (pure (.map entries) : Read Value) := by
        funext a
        rw [Value.mapM_expand_of_solid hsolid, pure_bind]
      rw [← hright]
      refine (mapM (Q := fun x y => x = y ∧ x.2.Solid) hkeys fun key e hk => ?_).bind
        fun us vs hs => .pure (solidEq_map hs)
      obtain ⟨rfl, he⟩ := hk
      exact (hopen e he).bind fun v w hv =>
        (ih (fun _ => rfl) hv).bind fun v w hv => .pure ⟨by rw [hv.1], hv.2⟩
    cases m with
    | zero => exact expandWith (fun place keys hs => absurd (hm hs) (by omega)) hflat h
    | succ m =>
      refine expandWith (fun place keys hs => ?_) hflat h
      obtain rfl := Nat.succ.inj (hm hs)
      exact hsame place keys hs

theorem materialize (h : Value.Related B B.left v w) :
    Parallel B Value.SolidEq (fun a => v.materialize a) (fun a => w.materialize a) :=
  height (f := fun n a => Value.expand a n v) (g := fun n a => Value.expand a n w)
    (expand B.even h)

theorem output (h : Value.Related B B.left v w) :
    Parallel B Eq (fun a => v.output a) (fun a => w.output a) := by
  have hm := materialize h
  cases h with
  | str s => exact .pure rfl
  | _ => exact hm.bind fun v w hv => .pure (congrArg Value.display hv.1)

/-! ### Items and entries -/

theorem relatedLists_keys (keys : List String) :
    Value.RelatedLists B n (keys.map Value.str) (keys.map Value.str) := by
  refine List.forall₂_same.2 fun v hv => ?_
  obtain ⟨k, -, rfl⟩ := List.mem_map.1 hv
  exact .str k

theorem relatedLists_chars (s : String) :
    Value.RelatedLists B n (Value.chars s) (Value.chars s) := by
  refine List.forall₂_same.2 fun v hv => ?_
  obtain ⟨c, -, rfl⟩ := List.mem_map.1 hv
  exact .str _

theorem items (h : Value.Related B n v w) :
    Parallel B (Value.RelatedLists B n) (fun _ => v.items) (fun _ => w.items) := by
  cases h with
  | list h => exact .pure h
  | @map xs ys h =>
    refine .pure ?_
    rw [← Value.map_str_keys, ← Value.map_str_keys, h.keys_eq]
    exact relatedLists_keys _
  | @handle place keys h => exact .pure (relatedLists_keys keys)
  | @opened place keys entries h =>
    refine .pure ?_
    rw [← Value.map_str_keys, B.flat_keys h]
    exact relatedLists_keys _
  | str s => exact .pure (relatedLists_chars s)
  | _ => exact .throw (B.fault_of_isOwn rfl)

/-- A key that is missing gives the same undefined value on both sides. -/
theorem related_getD {o o' : Option Value} (h : Option.Rel (Value.Related B n) o o')
    {d d' : Value} (hd : Value.Related B n d d') : Value.Related B n (o.getD d) (o'.getD d') := by
  cases h with
  | some h => exact h
  | none => exact hd

theorem lookup (h : Value.Related B n v w) (key : String) :
    Parallel B (Value.Related B n) (fun a => v.lookup a key) (fun a => w.lookup a key) := by
  cases h with
  | map h => exact .pure (related_getD (h.find? key) (.undefined key))
  | handle h => exact .entry key (B.same_succ h)
  | opened h => exact .opened key (B.flat_succ h)
  | _ => exact .pure (.undefined key)

theorem pairs (h : Value.Related B B.left v w) :
    Parallel B (Value.RelatedLists B B.left) (fun a => v.pairs a) (fun a => w.pairs a) := by
  refine (items h).bind fun ks ls hk => mapM hk fun k l hkl => ?_
  refine (output hkl).bind fun s t hst => ?_
  subst hst
  exact (lookup h s).bind fun x y hxy => .pure (.list (.cons hkl (.cons hxy .nil)))

end Parallel
end MailMerge
