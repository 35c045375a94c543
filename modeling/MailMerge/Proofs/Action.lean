/-
# How actions run

An action takes a state and gives a result and the state behind it; a failure keeps the
state it happened in.  These are the laws of results and of actions, for every kind of
state, and what the basic actions on files and events do to a world.
-/

import MailMerge.Event

namespace MailMerge

/-! ### Results -/

section

variable {ε δ α β : Type} {r : Except ε α}

/-- A sequence that succeeds has a first part that succeeds. -/
theorem exists_of_bind_ok {f : α → Except ε β} {b : β} (h : (r >>= f) = .ok b) :
    ∃ a, r = .ok a ∧ f a = .ok b := by
  cases r with
  | error e => cases h
  | ok a => exact ⟨a, rfl, h⟩

/-- A sequence that fails has a part that fails. -/
theorem error_of_bind_error {f : α → Except ε β} {e : ε} (h : (r >>= f) = .error e) :
    r = .error e ∨ ∃ a, r = .ok a ∧ f a = .error e := by
  cases r with
  | error e' =>
    cases h
    exact .inl rfl
  | ok a => exact .inr ⟨a, rfl, h⟩

theorem exists_of_map_ok {u : α → β} {b : β} (h : r.map u = .ok b) :
    ∃ a, r = .ok a ∧ u a = b := by
  cases r with
  | error e => cases h
  | ok a => exact ⟨a, rfl, Except.ok.inj h⟩

theorem error_of_map_error {u : α → β} {e : ε} (h : r.map u = .error e) : r = .error e := by
  cases r with
  | error e' => exact congrArg _ (Except.error.inj h)
  | ok a => cases h

theorem ok_of_mapError_ok {wrap : ε → δ} {a : α} (h : r.mapError wrap = .ok a) : r = .ok a := by
  cases r with
  | error e => cases h
  | ok b => exact congrArg _ (Except.ok.inj h)

theorem exists_of_mapError_error {wrap : ε → δ} {d : δ} (h : r.mapError wrap = .error d) :
    ∃ e, r = .error e ∧ d = wrap e := by
  cases r with
  | error e => exact ⟨e, rfl, (Except.error.inj h).symm⟩
  | ok a => cases h

end

/-! ### Actions -/

namespace Action

section

variable {σ α β : Type} {x : ExceptT Failure (StateM σ) α} {f : α → ExceptT Failure (StateM σ) β}
  {s s' : σ}

/-- After a success the rest goes on in the state behind it. -/
theorem bind_ok {a : α} (h : x s = (.ok a, s')) : (x >>= f) s = f a s' := by
  change (match x s with | (r, s') => ExceptT.bindCont f r s') = _
  rw [h]
  rfl

/-- After a failure there is no rest. -/
theorem bind_error {e : Failure} (h : x s = (.error e, s')) : (x >>= f) s = (.error e, s') := by
  change (match x s with | (r, s') => ExceptT.bindCont f r s') = _
  rw [h]
  rfl

/-- A sequence runs its first part and, if that succeeds, the rest. -/
theorem bind_apply (x : ExceptT Failure (StateM σ) α) (f : α → ExceptT Failure (StateM σ) β)
    (s : σ) : (x >>= f) s = match x s with
      | (.ok a, s') => f a s'
      | (.error e, s') => (.error e, s') := by
  rcases h : x s with ⟨e | a, s'⟩
  · exact bind_error h
  · exact bind_ok h

theorem map_apply (u : α → β) (x : ExceptT Failure (StateM σ) α) (s : σ) :
    (u <$> x) s = ((x s).1.map u, (x s).2) := by
  rw [← bind_pure_comp, bind_apply]
  rcases x s with ⟨e | a, s'⟩ <;> rfl

end

variable {w : World}

theorem files_bind {β : Type} (f : FileTree → Action β) : (files >>= f) w = f w.files w := rfl

theorem setFiles_bind {β : Type} (t : FileTree) (f : Unit → Action β) :
    (setFiles t >>= f) w = f () { w with files := t } := rfl

theorem report_bind {β : Type} (e : Event) (f : Unit → Action β) :
    (report e >>= f) w = f () { w with events := w.events ++ [e] } := rfl

theorem ofExcept_apply {ε α : Type} (wrap : ε → Failure) (r : Except ε α) :
    (ofExcept wrap r : Action α) w = (r.mapError wrap, w) := by
  cases r <;> rfl

end Action
end MailMerge
