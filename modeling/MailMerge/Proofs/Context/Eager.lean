/-
# Lazy equals eager

Where every variable can be read, a template that asks for no membership renders as it
does against a plain map of all names: the parent's values before the globals before the
variables, those with everything lazy in them read (`Context.flat`).  A lazy mapping is
told from the plain mapping of its entries by nothing else in a template.
-/

import MailMerge.Proofs.Context.Cycles
import MailMerge.Proofs.Reading.Flat

namespace MailMerge

namespace Context

/-- The value of a variable with everything lazy in it read. -/
def materialized (c : Context) (key : String) : Except RenderError Value :=
  (c.run fun a => do (← a.entry [] key).materialize a).1

/-- All names of a context as plain values. -/
def flat (c : Context) : Dict Value :=
  Dict.overlay c.parent (Dict.overlay c.env.globals
    (c.vars.filterMap fun e => (c.materialized e.1).toOption.map (e.1, ·)))

/-- Every entry at every place can be read. -/
def Readable (c : Context) : Prop :=
  ∀ place key e, c.vars.lookup? place key = some e →
    ∃ v, (c.run fun a => a.entry place key).1 = .ok v

/-- Whether every entry can be read is a matter of the entries there are. -/
theorem readable_iff {c : Context} : (∀ spot ∈ Entry.spotsIn c.vars,
    (c.vars.lookup? spot.1 spot.2).isSome = true →
      (c.run fun a => a.entry spot.1 spot.2).1.toBool = true) ↔ c.Readable := by
  constructor
  · intro h place key e he
    have hok := h (place, key) (Vars.mem_spotsIn_of_lookup? he) (by rw [he]; rfl)
    rcases hr : (c.run fun a => a.entry place key).1 with d | v
    · simp only [hr, Except.toBool, Bool.false_eq_true] at hok
    · exact ⟨v, rfl⟩
  · intro h spot _ hs
    obtain ⟨e, he⟩ := Option.isSome_iff_exists.1 hs
    obtain ⟨v, hv⟩ := h spot.1 spot.2 e he
    rw [hv, Except.toBool]

instance (c : Context) : Decidable c.Readable := decidable_of_iff _ readable_iff

/-- The value that a name has among the plain values of a context. -/
theorem find?_flat (c : Context) (s : String) :
    Dict.find? c.flat s = (Dict.find? c.parent s).or ((Dict.find? c.env.globals s).or
      (if Dict.has c.vars s then (c.materialized s).toOption else none)) := by
  rw [flat, Dict.find?_overlay, Dict.find?_overlay,
    Dict.find?_filterMap c.vars fun k => (c.materialized k).toOption]

section

variable {c : Context} {place : List String} {key : String} {v : Value} {e : Entry}

/-- What an entry gives afresh is solid, or a handle on the mapping it is. -/
theorem solid_or_handle (hs : c.vars.Shows Value.Solid) (he : c.vars.lookup? place key = some e)
    (hv : Read.Gives (c.afresh.entry place key) (.ok v)) :
    v.Solid ∨ ∃ deep, e = .nested deep ∧ v = .lazy (place ++ [key]) (Dict.keys deep) := by
  have hface := Vars.face?_of_lookup? he
  have hshown := hs (place, key) e.face hface
  rw [afresh, Reading.afresh_eq] at hv
  simp only [Reading.entryAfresh, hface] at hv
  cases e with
  | literal w =>
    obtain rfl := Except.ok.inj (hv {})
    exact .inl hshown
  | resolved w =>
    obtain rfl := Except.ok.inj (hv {})
    exact .inl hshown
  | nested deep =>
    obtain rfl := Except.ok.inj (hv {})
    exact .inr ⟨deep, rfl, rfl⟩
  | rendering s => cases hv {}
  | template source =>
    have hm := hv {}
    simp only [Entry.face, Reading.valueOf] at hm
    split at hm
    · obtain rfl := Except.ok.inj hm
      exact .inl (Value.coerce_solid _ _)
    · cases hm

/-- An entry that is there gives a value afresh. -/
theorem exists_gives (h : c.AtRest) (hr : c.Readable) (he : c.vars.lookup? place key = some e) :
    ∃ v, Read.Gives (c.afresh.entry place key) (.ok v) := by
  obtain ⟨v, hv⟩ := hr place key e he
  have hentry : Parallel (.all (Entry.heightOf c.vars)) Eq (fun a => a.entry place key)
      (fun a => a.entry place key) :=
    (@Parallel.entry _ 0 place [] key trivial).imp fun _ _ hvw =>
      hvw.eq_of_exact (Bridge.all_exact _)
  exact ⟨v, hv ▸ h.gives_run hentry⟩

variable (h : c.Plain Value.Solid) (hr : c.Readable)
include h hr

/-- **Every mapping can be made flat.** -/
theorem exists_flattens {n : Nat} {inner : Vars} (hin : c.vars.at? place = some inner)
    (hn : Entry.heightOf inner < n) : ∃ es, Flattens c.afresh n place (Dict.keys inner) es := by
  induction n generalizing place inner with
  | zero => omega
  | succ n ih =>
    have hlookup : ∀ key, c.vars.lookup? place key = Dict.find? inner key := fun key => by
      rw [Vars.lookup?_eq_bind, hin]
      rfl
    have hentry : ∀ key ∈ Dict.keys inner, ∃ w v, Read.Gives (c.afresh.entry place key) (.ok v) ∧
        (v.Solid ∧ w = v ∨
          ∃ p ks ds, v = .lazy p ks ∧ w = .map ds ∧ Flattens c.afresh n p ks ds) := by
      intro key hkey
      obtain ⟨e, he⟩ : ∃ e, Dict.find? inner key = some e :=
        Option.ne_none_iff_exists'.1 fun hnone => Dict.find?_eq_none_iff.1 hnone hkey
      obtain ⟨v, hv⟩ := exists_gives h.atRest hr ((hlookup key).trans he)
      rcases solid_or_handle h.vars ((hlookup key).trans he) hv with hsolid | ⟨deep, rfl, rfl⟩
      · exact ⟨v, v, hv, .inl ⟨hsolid, rfl⟩⟩
      · have hdeep : Entry.heightOf deep + 1 ≤ Entry.heightOf inner := Entry.height_le_heightOf he
        obtain ⟨ds, hds⟩ := ih (Vars.at?_append ((hlookup key).trans he)) (by omega)
        exact ⟨.map ds, _, hv, .inr ⟨_, _, ds, rfl, rfl, hds⟩⟩
    obtain ⟨es, hkeys, hes⟩ := Dict.exists_of_keys hentry
    refine ⟨es, hkeys, ?_, fun key hkey => ?_, hes⟩
    · rw [Dict.ordered_iff_keys, hkeys]
      exact Dict.ordered_iff_keys.1 (h.atRest.order place inner hin)
    · have hface : c.vars.face? (place, key) = none := by
        rw [Vars.face?, hlookup key, Dict.find?_eq_none_iff.2 hkey]
        rfl
      exact Reading.gives_entry (congrArg (Face.value? (place, key)) hface)

/-- A variable and its plain value are related. -/
theorem related_materialized (he : Dict.find? c.vars key = some e) :
    ∃ v w, Read.Gives (c.afresh.entry [] key) (.ok v) ∧ c.materialized key = .ok w ∧
      Value.Related (.flatten c.afresh) c.afresh.height v w := by
  obtain ⟨v, hv⟩ := exists_gives h.atRest hr (show c.vars.lookup? [] key = some e from he)
  have hread : Parallel (.all (Entry.heightOf c.vars)) Eq
      (fun a => do (← a.entry [] key).materialize a)
      (fun a => do (← a.entry [] key).materialize a) :=
    ((@Parallel.entry (.all (Entry.heightOf c.vars)) (Entry.heightOf c.vars) [] [] key trivial).bind
      fun _ _ hvw => Parallel.materialize hvw).imp fun _ _ hvw => hvw.1
  have hgives := h.atRest.gives_run hread
  have hmaterialized : ∀ w, Read.Gives (v.materialize c.afresh) (.ok w) →
      c.materialized key = .ok w := fun w hw => hgives.unique (hv.bind_ok hw)
  rcases solid_or_handle h.vars (show c.vars.lookup? [] key = some e from he) hv with
    hsolid | ⟨deep, rfl, rfl⟩
  · refine ⟨v, v, hv, hmaterialized v ?_, .of_atHand hsolid.atHand⟩
    rw [Value.materialize, Value.expand_of_solid hsolid]
    exact Read.gives_pure v
  · have hdeep : Entry.heightOf deep + 1 ≤ Entry.heightOf c.vars := Entry.height_le_heightOf he
    have hheight : c.afresh.height = Entry.heightOf c.vars := Reading.afresh_height _ _ _ _ _
    obtain ⟨es, hes⟩ := exists_flattens h hr (n := c.afresh.height)
      (Vars.at?_append (show c.vars.lookup? [] key = some (.nested deep) from he)) (by omega)
    exact ⟨_, .map es, hv, hmaterialized _ (hes.gives_expand le_rfl), .opened hes⟩

/-- A name gives afresh what its plain value stands for. -/
theorem exists_name (s : String) : ∃ o, Read.Gives (c.afresh.name s) (.ok o) ∧
      Option.Rel (Value.Related (.flatten c.afresh) c.afresh.height) o (Dict.find? c.flat s) := by
  have hshown : ∀ {d : Dict Value} {v : Value}, (Value.map d).AtHand → Dict.find? d s = some v →
      Value.Related (.flatten c.afresh) c.afresh.height v v := fun hd hv =>
    .of_atHand (Value.atHand_map.1 hd (s, _) (Dict.mem_of_find? hv))
  have hname : c.afresh.name s = Reading.nameAfresh c.env c.parent (Reading.renderAfresh c.env
      c.parent (Entry.heightOf c.vars) (Entry.waitingIn c.vars)) c.vars s := by
    rw [afresh, Reading.afresh_eq]
  rw [find?_flat, hname, Reading.nameAfresh]
  rcases hparent : Dict.find? c.parent s with _ | v
  · rcases hglobal : Dict.find? c.env.globals s with _ | v
    · rcases hvars : Dict.find? c.vars s with _ | e
      · have hhas : Dict.has c.vars s = false := by rw [Dict.has, hvars]; rfl
        simp only [hhas, Bool.false_eq_true, if_false, Option.or_none]
        exact ⟨none, Read.gives_pure _, .none⟩
      · have hhas : Dict.has c.vars s = true := by rw [Dict.has, hvars]; rfl
        obtain ⟨v, w, hv, hw, hvw⟩ := related_materialized h hr hvars
        simp only [hhas, if_true, hw, Except.toOption, Option.none_or]
        rw [afresh, Reading.afresh_eq] at hv
        exact ⟨some v, hv.map some, .some hvw⟩
    · exact ⟨some v, Read.gives_pure _, .some (hshown h.globals hglobal)⟩
  · exact ⟨some v, Read.gives_pure _, .some (hshown h.parent hparent)⟩

/-- A template renders in the context as against the plain values. -/
theorem renderTemplate_flat {template : Template} (ht : template.MembershipFree) :
    (c.renderTemplate template).1 = c.env.renderTemplateWith c.flat template := by
  have hgives :=
    h.atRest.gives_run (Parallel.renderTemplate c.env template (.inl (Bridge.all_exact _)))
  have hfollows : Follows Eq (fun _ => True) (fun _ _ => True)
      (Evaluation.renderTemplate c.env c.afresh template {})
      (Evaluation.renderTemplate c.env (Reading.plain c.flat) template {}) :=
    (Parallel.renderTemplate c.env template (.inr ht)).follows
      (Reading.simulates_plain (exists_name h hr)) trivial
  rw [renderTemplate, ← hgives {}, Environment.renderTemplateWith, run_result]
  exact hfollows.result_eq

/-- **Lazy equals eager,** for templates and for sources. -/
theorem render_flat {source : String} {template : Template} (ht : template.MembershipFree)
    (hsource : c.env.parse source = .ok template) :
    (c.render source).1 = c.env.renderWith c.flat source := by
  have heq := renderTemplate_flat h hr ht
  simp only [renderTemplate, Environment.renderTemplateWith] at heq
  simp only [render, Environment.renderWith, Evaluation.renderSource, hsource]
  exact heq

end

/-- **Lazy equals eager.**  In any context of solid values in which every entry can be read, the
variables have plain values, and a template that asks for no membership renders as it does
against these, the globals over them and the parent's values over both. -/
theorem render_eq_flat_performAll (env : Environment) (parent values : Dict Value)
    (hv : (Value.map values).InOrder ∧ (Value.map values).Solid)
    (hp : (Value.map parent).AtHand) (hg : (Value.map env.globals).AtHand)
    (ops : List Operation)
    (hops : ∀ op ∈ ops, op.Brings Value.InOrder ∧ op.Brings Value.Solid) (c : Context)
    (hc : c = (ofValues env parent values).performAll ops) (hr : c.Readable)
    (template : Template) (ht : template.MembershipFree) :
    (∀ s, Dict.has c.vars s = true → ∃ v, c.materialized s = .ok v) ∧
    (c.renderTemplate template).1 = c.env.renderTemplateWith c.flat template ∧
    ∀ source, c.env.parse source = .ok template →
      (c.render source).1 = c.env.renderWith c.flat source := by
  have hplain : c.Plain Value.Solid := by
    rw [hc]
    exact Plain.performAll (fun _ => Value.solid_map.1) Value.coerce_solid
      ⟨.ofValues env parent hv.1, Vars.all_ofDict (.shows fun _ => Value.solid_map.1) hv.2, hp, hg⟩
      hops
  refine ⟨fun s hs => ?_, renderTemplate_flat hplain hr ht,
    fun source hsource => render_flat hplain hr ht hsource⟩
  obtain ⟨e, he⟩ := Option.isSome_iff_exists.1 hs
  obtain ⟨-, w, -, hw, -⟩ := related_materialized hplain hr he
  exact ⟨w, hw⟩

/-- A text that reads into a mapping, and the mapping itself. -/
theorem render_eq_flat_performAll_nested :
    ((ofValues {} [] [("n", .map [("x", .str "{{ 1 + 1 }}")])]).set "a"
      (.str "{{ n.x }}!")).Readable ∧
    (((ofValues {} [] [("n", .map [("x", .str "{{ 1 + 1 }}")])]).set "a"
      (.str "{{ n.x }}!")).renderTemplate [.output (.name "a"), .output (.name "n")]).1 =
      Environment.renderTemplateWith {} (flat ((ofValues {} []
        [("n", .map [("x", .str "{{ 1 + 1 }}")])]).set "a" (.str "{{ n.x }}!")))
          [.output (.name "a"), .output (.name "n")] := by
  have hr : ((ofValues {} [] [("n", .map [("x", .str "{{ 1 + 1 }}")])]).set "a"
    (.str "{{ n.x }}!")).Readable := by decide +kernel
  have hequal := render_eq_flat_performAll {} [] [("n", .map [("x", .str "{{ 1 + 1 }}")])]
    (by decide) (by decide) (by decide) [.set "a" (.str "{{ n.x }}!")] (by decide) _
    rfl hr [.output (.name "a"), .output (.name "n")] (by decide)
  exact ⟨hr, hequal.2.1⟩

end Context
end MailMerge
