/-
# Copies of values

What is written out or compared is a copy of a value, in which something else stands in place of
its lazy mappings.  A copy of a list is made item by item and one of a mapping entry by entry, so
it depends on a memory only where what replaces a lazy mapping does
(`Value.exists_gives_expandWith`): between names that are plain values, nowhere
(`Value.gives_output_plain`).
-/

import MailMerge.Proofs.Reading.Afresh

namespace MailMerge

namespace Value

theorem expandItems_eq_mapM (f : List String → List String → Read Value) (vs : List Value) :
    expandItems f vs = vs.mapM (expandWith f) := by
  induction vs with
  | nil => rfl
  | cons v vs ih => rw [expandItems, ih, List.mapM_cons]

theorem expandEntries_eq_mapM (f : List String → List String → Read Value) (es : Dict Value) :
    expandEntries f es = es.mapM fun e => (e.1, ·) <$> expandWith f e.2 := by
  induction es with
  | nil => rfl
  | cons e es ih =>
    rw [expandEntries, ih, List.mapM_cons]
    simp only [map_eq_pure_bind, bind_assoc, pure_bind]

/-- A copy has one result if what replaces each lazy mapping has one. -/
theorem exists_gives_expandWith {f : List String → List String → Read Value}
    (hf : ∀ place keys, ∃ r, Read.Gives (f place keys) r) (v : Value) :
    ∃ r, Read.Gives (v.expandWith f) r := by
  induction v using Value.induction with
  | list items ih =>
    rw [expandWith, expandItems_eq_mapM]
    exact Read.exists_gives_bind (Read.exists_gives_mapM ih) fun _ => ⟨_, Read.gives_pure _⟩
  | map entries ih =>
    rw [expandWith, expandEntries_eq_mapM]
    refine Read.exists_gives_bind (Read.exists_gives_mapM fun e he => ?_) fun _ =>
      ⟨_, Read.gives_pure _⟩
    obtain ⟨r, hr⟩ := ih e he
    exact ⟨_, hr.map _⟩
  | lazy place keys => exact hf place keys
  | undefined name => exact ⟨_, Read.gives_throw _⟩
  | _ => exact ⟨_, Read.gives_pure _⟩

/-- **Between plain names nothing that is written out depends on a memory.** -/
theorem gives_output_plain (values : Dict Value) (v : Value) :
    Read.Gives (v.output (Reading.plain values))
      (Finish.result (v.output (Reading.plain values) {})) := by
  have hexists : ∃ r, Read.Gives (v.output (Reading.plain values)) r := by
    cases v with
    | str s => exact ⟨_, Read.gives_pure s⟩
    | _ =>
      refine Read.exists_gives_bind (exists_gives_expandWith (fun _ _ => ?_) _)
        fun _ => ⟨_, Read.gives_pure _⟩
      exact ⟨_, Read.gives_throw _⟩
  obtain ⟨r, hr⟩ := hexists
  rwa [hr {}]

end Value
end MailMerge
