/-
# What a text stands for

A literal denotes no handle and nothing undefined, however deeply its lists and mappings
lie one inside the other, and neither does a truth word or a text.  So the value that a
variable is resolved to is solid (`Value.coerce_solid`).
-/

import MailMerge.Proofs.Value.Inside
import MailMerge.Value.Coerce

namespace MailMerge
namespace Value
namespace Literal

/-- What a reader takes off a text is solid. -/
def ReadsSolid (item : Reader Value) : Prop := ∀ cs v rest, item cs = some (v, rest) → v.Solid

section

variable {item : Reader Value} (hitem : ReadsSolid item)
include hitem

theorem items?_solid {close : Char} {fuel : Nat} {cs rest : List Char} {vs : List Value}
    (h : items? close item fuel cs = some (vs, rest)) : ∀ v ∈ vs, v.Solid := by
  induction fuel generalizing cs vs rest with
  | zero => cases h
  | succ fuel ih =>
    rw [items?] at h
    split at h
    · obtain ⟨rfl, -⟩ := Prod.mk.inj (Option.some.inj h)
      simp
    · obtain ⟨⟨first, cs'⟩, hfirst, h⟩ := Option.bind_eq_some_iff.1 h
      have hsolid := hitem _ _ _ hfirst
      dsimp only at h
      split at h
      · obtain ⟨⟨more, cs''⟩, hmore, h⟩ := Option.bind_eq_some_iff.1 h
        obtain ⟨rfl, -⟩ := Prod.mk.inj (Option.some.inj h)
        exact List.forall_mem_cons.2 ⟨hsolid, ih hmore⟩
      · obtain ⟨cs'', -, h⟩ := Option.bind_eq_some_iff.1 h
        obtain ⟨rfl, -⟩ := Prod.mk.inj (Option.some.inj h)
        exact List.forall_mem_cons.2 ⟨hsolid, by simp⟩

theorem entries?_solid {fuel : Nat} {before es : Dict Value} {cs rest : List Char}
    (hb : ∀ e ∈ before, e.2.Solid) (h : entries? item fuel before cs = some (es, rest)) :
    ∀ e ∈ es, e.2.Solid := by
  induction fuel generalizing before cs with
  | zero => cases h
  | succ fuel ih =>
    rw [entries?] at h
    split at h
    · obtain ⟨rfl, -⟩ := Prod.mk.inj (Option.some.inj h)
      exact hb
    · obtain ⟨⟨k, _⟩, -, h⟩ := Option.bind_eq_some_iff.1 h
      obtain ⟨key, -, h⟩ := Option.bind_eq_some_iff.1 h
      obtain ⟨_, -, h⟩ := Option.bind_eq_some_iff.1 h
      obtain ⟨⟨v, _⟩, hv, h⟩ := Option.bind_eq_some_iff.1 h
      have hsolid := hitem _ _ _ hv
      have hall : ∀ e ∈ Dict.insert key v before, e.2.Solid := fun e he =>
        (Dict.mem_insert he).elim (fun h => h ▸ hsolid) (hb e)
      dsimp only at h
      split at h
      · exact ih hall h
      · obtain ⟨_, -, h⟩ := Option.bind_eq_some_iff.1 h
        obtain ⟨rfl, -⟩ := Prod.mk.inj (Option.some.inj h)
        exact hall

theorem tuple?_solid {fuel : Nat} {cs rest : List Char} {v : Value}
    (h : tuple? item fuel cs = some (v, rest)) : v.Solid := by
  rw [tuple?] at h
  split at h
  · obtain ⟨rfl, -⟩ := Prod.mk.inj (Option.some.inj h)
    rfl
  · obtain ⟨⟨first, _⟩, hfirst, h⟩ := Option.bind_eq_some_iff.1 h
    have hsolid := hitem _ _ _ hfirst
    dsimp only at h
    split at h
    · obtain ⟨rfl, -⟩ := Prod.mk.inj (Option.some.inj h)
      exact hsolid
    · obtain ⟨_, -, h⟩ := Option.bind_eq_some_iff.1 h
      obtain ⟨⟨more, _⟩, hmore, h⟩ := Option.bind_eq_some_iff.1 h
      obtain ⟨rfl, -⟩ := Prod.mk.inj (Option.some.inj h)
      exact solid_list.2 (List.forall_mem_cons.2 ⟨hsolid, items?_solid hitem hmore⟩)

end

theorem decimal?_solid : ReadsSolid decimal? := by
  intro cs v rest h
  unfold decimal? at h
  dsimp only at h
  split at h
  · cases h
  · split_ifs at h
    · obtain ⟨n, -, h⟩ := Option.map_eq_some_iff.1 h
      obtain ⟨rfl, -⟩ := Prod.mk.inj h
      rfl
    · obtain ⟨x, -, h⟩ := Option.map_eq_some_iff.1 h
      obtain ⟨rfl, -⟩ := Prod.mk.inj h
      rfl

theorem number?_solid : ReadsSolid number? := by
  intro cs v rest h
  unfold number? at h
  split at h
  · split at h
    · dsimp only at h
      split_ifs at h
      obtain ⟨n, -, h⟩ := Option.map_eq_some_iff.1 h
      obtain ⟨rfl, -⟩ := Prod.mk.inj h
      rfl
    · exact decimal?_solid _ _ _ h
  · exact decimal?_solid _ _ _ h

theorem signed?_solid {negative : Bool} {v w : Value} (h : signed? negative v = some w) :
    w.Solid := by
  unfold signed? at h
  split at h
  · split_ifs at h
    · obtain ⟨n, -, rfl⟩ := Option.map_eq_some_iff.1 h
      rfl
    · obtain rfl := Option.some.inj h
      rfl
  · obtain rfl := Option.some.inj h
    rfl
  · cases h

theorem constant?_solid {word : String} {v : Value} (h : constant? word = some v) : v.Solid := by
  unfold constant? at h
  split_ifs at h <;> obtain rfl := Option.some.inj h <;> rfl

/-- **A literal is solid.** -/
theorem value?_solid (fuel : Nat) : ReadsSolid (value? fuel) := by
  induction fuel with
  | zero => exact fun _ _ _ h => by cases h
  | succ fuel ih =>
    intro cs v rest h
    rw [value?] at h
    split at h
    · cases h
    · split_ifs at h
      · obtain ⟨_, -, h⟩ := Option.map_eq_some_iff.1 h
        obtain ⟨rfl, -⟩ := Prod.mk.inj h
        rfl
      · obtain ⟨⟨vs, _⟩, hvs, h⟩ := Option.map_eq_some_iff.1 h
        obtain ⟨rfl, -⟩ := Prod.mk.inj h
        exact solid_list.2 (items?_solid ih hvs)
      · exact tuple?_solid ih h
      · obtain ⟨⟨es, _⟩, hes, h⟩ := Option.map_eq_some_iff.1 h
        obtain ⟨rfl, -⟩ := Prod.mk.inj h
        exact solid_map.2 (entries?_solid ih (by simp) hes)
      · obtain ⟨⟨w, _⟩, -, h⟩ := Option.bind_eq_some_iff.1 h
        obtain ⟨u, hu, h⟩ := Option.bind_eq_some_iff.1 h
        obtain ⟨rfl, -⟩ := Prod.mk.inj (Option.some.inj h)
        exact signed?_solid hu
      · exact number?_solid _ _ _ h
      · obtain ⟨w, hw, h⟩ := Option.map_eq_some_iff.1 h
        obtain ⟨rfl, -⟩ := Prod.mk.inj h
        exact constant?_solid hw

end Literal

/-- **What a text stands for is solid.** -/
theorem coerce_solid (source rendered : String) : (coerce source rendered).Solid := by
  unfold coerce
  split_ifs
  · rfl
  · dsimp only
    split
    · rename_i v hv
      unfold ofLiteral? at hv
      split at hv
      · split_ifs at hv
        obtain rfl := Option.some.inj hv
        exact Literal.value?_solid _ _ _ _ ‹_›
      · cases hv
    · split <;> rfl

end Value
end MailMerge
