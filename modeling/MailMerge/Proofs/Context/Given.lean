/-
# Variables that hold no template

A variable is kept as an entry, a mapping as a mapping of entries, and read back through them.
Where nothing waits to be rendered that makes no difference: the name is written out as the
value that was given, and an error is the error of writing out that value
(`Context.Binds.render_given`).
-/

import MailMerge.Proofs.Context.Name
import MailMerge.Proofs.Template.Output

namespace MailMerge

open MonadExcept (ofExcept)

namespace Value

variable {v : Value} {r : Except RenderError Value}

/-- A text is its own plain form, so every value is written out as the display of one. -/
theorem output_eq (a : Access) (v : Value) : v.output a = display <$> v.materialize a := by
  rw [map_eq_pure_bind]
  cases v with
  | str s =>
    rw [materialize, expand_of_solid (show Solid (str s) from rfl)]
    rfl
  | _ => rfl

/-- What has no handle inside is made plain without reading anything. -/
def Expands (v : Value) (r : Except RenderError Value) : Prop :=
  ∀ f, expandWith f v = ofExcept r

theorem AtHand.exists_expands (h : v.AtHand) : ∃ r, v.Expands r := by
  induction v using Value.induction with
  | list items ih =>
    have hitems : ∃ r : Except RenderError _, ∀ f, expandItems f items = ofExcept r := by
      rw [atHand_list] at h
      induction items with
      | nil => exact ⟨.ok [], fun _ => rfl⟩
      | cons v rest ihr =>
        rw [List.forall_mem_cons] at h
        obtain ⟨r, hr⟩ := ih v List.mem_cons_self h.1
        obtain ⟨rs, hrs⟩ := ihr (fun w hw => ih w (List.mem_cons_of_mem _ hw)) h.2
        refine ⟨do return (← r) :: (← rs), fun f => ?_⟩
        rw [expandItems, hr, hrs]
        cases r <;> cases rs <;> rfl
    obtain ⟨rs, hrs⟩ := hitems
    refine ⟨.list <$> rs, fun f => ?_⟩
    rw [expandWith, hrs]
    cases rs <;> rfl
  | map entries ih =>
    have hentries : ∃ r : Except RenderError _, ∀ f, expandEntries f entries = ofExcept r := by
      rw [atHand_map] at h
      induction entries with
      | nil => exact ⟨.ok [], fun _ => rfl⟩
      | cons e rest ihr =>
        rw [List.forall_mem_cons] at h
        obtain ⟨r, hr⟩ := ih e List.mem_cons_self h.1
        obtain ⟨rs, hrs⟩ := ihr (fun w hw => ih w (List.mem_cons_of_mem _ hw)) h.2
        refine ⟨do return (e.1, ← r) :: (← rs), fun f => ?_⟩
        rw [expandEntries, hr, hrs]
        cases r <;> cases rs <;> rfl
    obtain ⟨rs, hrs⟩ := hentries
    refine ⟨.map <$> rs, fun f => ?_⟩
    rw [expandWith, hrs]
    cases rs <;> rfl
  | undefined s => exact ⟨.error (.undefined s), fun _ => rfl⟩
  | lazy => exact absurd h not_atHand_lazy
  | _ => exact ⟨.ok _, fun _ => rfl⟩

theorem Expands.expand (h : v.Expands r) (a : Access) (depth : Nat) :
    v.expand a depth = ofExcept r := by
  cases depth <;> exact h _

end Value

namespace Reading

variable {render : String → Read String} {a : Access} {d : Delimiters} {m : Memory}

/-- Entries in a row are made plain as their values are. -/
theorem mapM_expand {place : List String} {depth : Nat} {es : Dict Value}
    (hhand : ∀ e ∈ es, e.2.AtHand)
    (h : ∀ e ∈ es, ∀ r, e.2.Expands r →
      (a.entry place e.1 >>= Value.expand a depth) m = (ofExcept r : Read Value) m)
    (f : List String → List String → Read Value) :
    ((Dict.keys es).mapM fun key => do
      let v ← a.entry place key
      return (key, ← Value.expand a depth v)) m = Value.expandEntries f es m := by
  induction es with
  | nil => rfl
  | cons e es ih =>
    obtain ⟨r, hr⟩ := (hhand e List.mem_cons_self).exists_expands
    have hfirst := h e List.mem_cons_self r hr
    have hrest := ih (fun e he => hhand e (List.mem_cons_of_mem _ he))
      fun e he => h e (List.mem_cons_of_mem _ he)
    rw [Dict.keys, List.map_cons, List.mapM_cons, ← Dict.keys, Value.expandEntries, hr f,
      ← bind_assoc, bind_assoc]
    refine (Read.bind_congr hfirst _).trans ?_
    cases r with
    | error e => rfl
    | ok w => exact Read.bind_congr hrest _

/-- **A variable that holds no template is made plain as its value,** through the entries that
it is kept as. -/
theorem entry_expand (ha : a.entry = entry render) {v : Value} (hhand : v.AtHand) (ho : v.InOrder)
    (hw : (Entry.ofValue d v).waiting = 0) {place : List String} {key : String}
    (hm : m.vars.lookup? place key = some (Entry.ofValue d v)) {depth : Nat}
    (hd : (Entry.ofValue d v).height ≤ depth) {r : Except RenderError Value} (hr : v.Expands r) :
    (a.entry place key >>= Value.expand a depth) m = (ofExcept r : Read Value) m := by
  have hbind : ∀ {w : Value}, a.entry place key m = .ok w m →
      (a.entry place key >>= Value.expand a depth) m = Value.expand a depth w m := fun h =>
    Read.bind_congr (y := pure _) h _
  induction v using Value.induction generalizing place key depth r with
  | map es ih =>
    obtain ⟨depth, rfl⟩ : ∃ n, depth = n + 1 :=
      ⟨depth - 1, (Nat.sub_add_cancel (le_trans (Nat.le_add_left 1 _) hd)).symm⟩
    have hentry : a.entry place key m = .ok (.lazy (place ++ [key]) (Dict.keys es)) m := by
      rw [ha, entry, hm, ← Vars.keys_ofEntries]
      rfl
    have hin : m.vars.at? (place ++ [key]) = some (Entry.ofEntries d es) := Vars.at?_append hm
    have hentries : ∀ e ∈ es, ∀ r, e.2.Expands r →
        (a.entry (place ++ [key]) e.1 >>= Value.expand a depth) m =
          (ofExcept r : Read Value) m := by
      intro e he r hr
      have hfind : Dict.find? (Entry.ofEntries d es) e.1 = some (Entry.ofValue d e.2) := by
        rw [Vars.find?_ofEntries, Dict.find?_of_mem (Value.inOrder_map.1 ho).1 he]
        rfl
      refine ih e he (Value.atHand_map.1 hhand e he) ((Value.inOrder_map.1 ho).2 e he) ?_ ?_ ?_ hr
        fun h => Read.bind_congr (y := pure _) h _
      · exact Nat.le_zero.1 (hw ▸ Entry.waiting_le_waitingIn hfind)
      · rw [Vars.lookup?_eq_bind, hin]
        exact hfind
      · exact (Entry.height_le_heightOf hfind).trans (Nat.le_of_succ_le_succ hd)
    rw [hbind hentry, ← hr fun _ _ => throw (.invalid .tooDeep)]
    exact Read.bind_congr (mapM_expand (Value.atHand_map.1 hhand) hentries _) _
  | str s =>
    rw [hbind, hr.expand]
    rw [Entry.ofValue] at hm hw
    split_ifs at hm hw
    · cases hw
    · rw [ha, entry, hm]
  | lazy => exact absurd hhand Value.not_atHand_lazy
  | _ =>
    rw [hbind (by rw [ha, entry, hm]; rfl), hr.expand]

end Reading

namespace Context

variable {c : Context} {name : String} {v : Value}

/-- **A variable that holds no template is written out as it was given.** -/
theorem Binds.render_given (h : c.Binds name (Entry.ofValue c.env.delimiters v))
    (hd : c.env.delimiters = {}) (hname : IsName name) (hhand : v.AtHand) (ho : v.InOrder)
    (hw : (Entry.ofValue c.env.delimiters v).waiting = 0) (a : Access) :
    Read.Gives (v.output a) (c.render (c.env.outputOf name)).1 := by
  obtain ⟨r, hr⟩ := hhand.exists_expands
  obtain ⟨render, hentry⟩ : ∃ render, c.access.entry = Reading.entry render := by
    rw [access, Reading.access_eq]
    exact ⟨_, rfl⟩
  have hheight : (Entry.ofValue c.env.delimiters v).height ≤ c.access.height := by
    rw [access, Reading.access_height]
    exact Entry.height_le_heightOf h.entry
  have hexpand := Reading.entry_expand hentry hhand ho hw
    (show c.memory.vars.lookup? [] name = _ from h.entry) hheight hr
  have hrun : (c.render (c.env.outputOf name)).1 =
      Finish.result ((Value.display <$> (ofExcept r : Read Value)) c.memory) := by
    rw [Context.render, run_result, Environment.renderSource_name hd hname,
      Read.bind_congr h.name_eq, bind_map_left, map_eq_pure_bind, ← Read.bind_congr hexpand,
      bind_assoc]
    simp only [Option.getD_some, Value.output_eq, Value.materialize, map_eq_pure_bind]
  intro m
  rw [hrun, Value.output_eq, Value.materialize, hr.expand]
  cases r <;> rfl

end Context
end MailMerge
