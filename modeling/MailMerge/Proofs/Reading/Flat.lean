/-
# Lazy mappings made flat

Where every entry can be read, a handle on a mapping stands for a plain mapping: the one
of its entries, mappings inside made flat in turn (`Flattens`).  Making values plain by
`Value.expand` gives just that.  Evaluation with the handles and evaluation with the
plain mappings run in step over this bridge, so names may be looked up among plain
values instead (`Reading.simulates_plain`).
-/

import MailMerge.Proofs.Reading.Afresh

namespace MailMerge

/-- A handle stands for a plain mapping: with the same keys, and with each entry as it is read,
or made flat in turn. -/
def Flattens (a : Access) : Nat → List String → List String → Dict Value → Prop
  | 0, _, _, _ => False
  | n + 1, place, keys, es => Dict.keys es = keys ∧ Dict.Ordered es ∧
    (∀ key, key ∉ keys → Read.Gives (a.entry place key) (.ok (.undefined key))) ∧
    ∀ e ∈ es, ∃ v, Read.Gives (a.entry place e.1) (.ok v) ∧ (v.Solid ∧ e.2 = v ∨
      ∃ p ks ds, v = .lazy p ks ∧ e.2 = .map ds ∧ Flattens a n p ks ds)

namespace Flattens

variable {a : Access} {n : Nat} {place keys : List String} {es : Dict Value}

theorem succ (h : Flattens a n place keys es) : Flattens a (n + 1) place keys es := by
  induction n generalizing place keys es with
  | zero => exact h.elim
  | succ n ih =>
    obtain ⟨hkeys, hordered, hmissing, hentries⟩ := h
    refine ⟨hkeys, hordered, hmissing, fun e he => ?_⟩
    obtain ⟨v, hv, hshape⟩ := hentries e he
    exact ⟨v, hv, hshape.imp_right fun ⟨p, ks, ds, hp, hd, hflat⟩ => ⟨p, ks, ds, hp, hd, ih hflat⟩⟩

theorem keys_eq (h : Flattens a n place keys es) : Dict.keys es = keys := by
  cases n with
  | zero => exact h.elim
  | succ n => exact h.1

theorem ordered (h : Flattens a n place keys es) : Dict.Ordered es := by
  cases n with
  | zero => exact h.elim
  | succ n => exact h.2.1

/-- What is flat is solid. -/
theorem solid (h : Flattens a n place keys es) : (Value.map es).Solid := by
  induction n generalizing place keys es with
  | zero => exact h.elim
  | succ n ih =>
    obtain ⟨-, -, -, hentries⟩ := h
    refine Value.solid_map.2 fun e he => ?_
    obtain ⟨v, -, ⟨hv, rfl⟩ | ⟨p, ks, ds, -, hd, hflat⟩⟩ := hentries e he
    · exact hv
    · exact hd ▸ ih hflat

/-- Reading computations in a row. -/
theorem gives_mapM {α β : Type} {f : α → Read β} {xs : List α} {ys : List β}
    (h : List.Forall₂ (fun x y => Read.Gives (f x) (.ok y)) xs ys) :
    Read.Gives (xs.mapM f) (.ok ys) := by
  induction h with
  | nil => exact Read.gives_pure _
  | cons hx _ ih =>
    rw [List.mapM_cons]
    exact hx.bind_ok (ih.bind_ok (Read.gives_pure _))

/-- **Expansion makes a handle flat.** -/
theorem gives_expand (h : Flattens a n place keys es) {depth : Nat} (hd : n ≤ depth) :
    Read.Gives (Value.expand a depth (.lazy place keys)) (.ok (.map es)) := by
  induction n generalizing place keys es depth with
  | zero => exact h.elim
  | succ n ih =>
    obtain ⟨depth, rfl⟩ : ∃ d, depth = d + 1 := ⟨depth - 1, by omega⟩
    obtain ⟨rfl, -, -, hentries⟩ := h
    refine Read.Gives.bind_ok (gives_mapM ?_) (Read.gives_pure (Value.map es))
    rw [Dict.keys, List.forall₂_map_left_iff]
    refine List.forall₂_same.2 fun e he => ?_
    obtain ⟨v, hv, hshape⟩ := hentries e he
    refine hv.bind_ok (Read.Gives.bind_ok ?_ (Read.gives_pure e))
    rcases hshape with ⟨hsolid, he⟩ | ⟨p, ks, ds, rfl, he, hflat⟩
    · rw [he, Value.expand_of_solid hsolid]
      exact Read.gives_pure v
    · rw [he]
      exact ih hflat (by omega)

end Flattens

/-- The bridge from handles to what they stand for. -/
def Bridge.flatten (a : Access) : Bridge where
  same _ _ _ := False
  flat := Flattens a
  fault _ := True
  left := a.height
  right := 0
  same_succ h := h
  flat_succ h := h.succ
  even h := h.elim
  same_zero h := h.elim
  flat_zero h := h
  flat_keys h := h.keys_eq
  flat_ordered h := h.ordered
  flat_solid h := h.solid
  fault_of_isOwn _ := trivial

namespace Reading

variable {a : Access}

/-- A computation with one result is followed by that result. -/
theorem follows_of_gives {α β : Type} {P : α → β → Prop} {x : Read α} {v : α} {w : β}
    (hx : Read.Gives x (.ok v)) (hvw : P v w) (m m' : Memory) :
    Follows P (fun _ => True) (fun _ _ => True) (x m) (.ok w m') := by
  have hm := hx m
  rcases h : x m with ⟨u, m₁⟩ | ⟨e, m₁⟩ <;> rw [h] at hm <;> cases hm
  exact ⟨hvw, trivial⟩

/-- **Plain values in the place of variables:** if each name gives what it stands for, access to
the plain values answers in step. -/
theorem simulates_plain {values : Dict Value} (hname : ∀ s, ∃ o, Read.Gives (a.name s) (.ok o) ∧
      Option.Rel (Value.Related (.flatten a) a.height) o (Dict.find? values s)) :
    Simulates (.flatten a) (fun _ => True) (fun _ _ => True) a (plain values) := by
  refine ⟨rfl, rfl, fun _ _ => trivial, fun _ _ _ => trivial, ?_, fun _ _ _ h => h.elim, ?_⟩
  · intro s m m' _
    obtain ⟨o, ho, hrel⟩ := hname s
    exact follows_of_gives ho hrel m m'
  · intro n place keys es key m m' hflat _
    obtain ⟨hkeys, hordered, hmissing, hentries⟩ := hflat
    rcases hfind : Dict.find? es key with _ | w
    · have hnot : key ∉ keys := hkeys ▸ Dict.find?_eq_none_iff.1 hfind
      exact follows_of_gives (hmissing key hnot) (.undefined key) m m'
    · obtain ⟨v, hv, ⟨hsolid, he⟩ | ⟨p, ks, ds, rfl, he, hflat⟩⟩ :=
        hentries (key, w) (Dict.mem_of_find? hfind)
      · obtain rfl : w = v := he
        exact follows_of_gives hv (.of_atHand hsolid.atHand) m m'
      · obtain rfl : w = .map ds := he
        exact follows_of_gives hv (.opened hflat) m m'

end Reading
end MailMerge
