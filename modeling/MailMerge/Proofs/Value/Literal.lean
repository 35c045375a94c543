/-
# Reading what is written inside a list

Inside a list or mapping a value is written in a form that reads as a literal.  Each kind
of value has one lemma: what is written of it, in front of anything that may follow a value
in a list or mapping, reads as the value and leaves what follows.

| value | written | what may follow |
| --- | --- | --- |
| text | in quotes | anything |
| integer | digits, behind a minus if it is negative | a closing character |
| constant | its name | a closing character |
| list, mapping | items or entries between brackets | anything |
-/

import MailMerge.Proofs.Dict
import MailMerge.Proofs.Number.Word
import MailMerge.Proofs.Rows
import MailMerge.Value.Coerce

namespace MailMerge

namespace Value
namespace Literal

variable {fuel n : Nat} {cs rest : List Char}

/-! ### What may follow a value -/

/-- The characters that can follow a value in a list or mapping. -/
def isCloser (c : Char) : Bool := c == ',' || c == ']' || c == '\x7d'

/-- The end of a text or a closing character. -/
def Closes (rest : List Char) : Prop := ∀ c ∈ rest.head?, isCloser c = true

theorem closes_nil : Closes [] := fun _ h => by cases h

theorem closes_cons {c : Char} (h : isCloser c = true) : Closes (c :: rest) :=
  fun _ hd => Option.some.inj hd ▸ h

theorem Closes.eq (h : Closes rest) : rest = [] ∨ ∃ cs, rest = ',' :: cs ∨ rest = ']' :: cs ∨
    rest = '\x7d' :: cs := by
  cases rest with
  | nil => exact .inl rfl
  | cons c cs =>
    have hc := h c rfl
    simp only [isCloser, Bool.or_eq_true, beq_iff_eq] at hc
    rcases hc with (rfl | rfl) | rfl <;> simp

/-- A character that a value can start with: no blank, and no end of a list or mapping. -/
def isOpener (c : Char) : Bool := !Text.isBlank c && c != ']' && c != '\x7d'

/-- A text that starts as a value does. -/
def Opens (cs : List Char) : Prop := ∃ c rest, cs = c :: rest ∧ isOpener c = true

theorem Opens.ne_nil (h : Opens cs) : cs ≠ [] := by
  obtain ⟨c, rest, rfl, -⟩ := h
  exact List.cons_ne_nil _ _

theorem eat?_blank (c : Char) (cs : List Char) : eat? c (' ' :: cs) = eat? c cs := rfl

theorem eat?_cons (c : Char) {d : Char} (hd : Text.isBlank d = false) (cs : List Char) :
    eat? c (d :: cs) = if d = c then some cs else none := by
  rw [eat?, Text.trimStart, List.dropWhile_cons_of_neg (by simp [hd])]

/-- Where a value starts, no list or mapping ends. -/
theorem Opens.eat?_eq_none (h : Opens cs) (rest : List Char) :
    eat? ']' (cs ++ rest) = none ∧ eat? '\x7d' (cs ++ rest) = none := by
  obtain ⟨c, cs', rfl, hc⟩ := h
  simp only [isOpener, Bool.and_eq_true, Bool.not_eq_true', bne_iff_ne, ne_eq] at hc
  obtain ⟨⟨hblank, hbracket⟩, hbrace⟩ := hc
  rw [List.cons_append, eat?_cons _ hblank, eat?_cons _ hblank, if_neg hbracket, if_neg hbrace]
  exact ⟨rfl, rfl⟩

theorem value?_blank (fuel : Nat) (cs : List Char) : value? fuel (' ' :: cs) = value? fuel cs := by
  cases fuel with
  | zero => rfl
  | succ fuel => rfl

/-- A value is read by what it starts with. -/
theorem value?_cons (fuel : Nat) {c : Char} (hc : Text.isBlank c = false) (cs : List Char) :
    value? (fuel + 1) (c :: cs) =
      if c = '\'' ∨ c = '"' then
        (string? c cs).map fun (text, rest) => (.str (String.ofList text), rest)
      else if c = '[' then (items? ']' (value? fuel) fuel cs).map fun (vs, rest) => (.list vs, rest)
      else if c = '(' then tuple? (value? fuel) fuel cs
      else if c = '\x7b' then
        (entries? (value? fuel) fuel [] cs).map fun (es, rest) => (.map es, rest)
      else if c = '+' ∨ c = '-' then do
        let (v, rest) ← value? fuel cs
        let v ← signed? (c = '-') v
        pure (v, rest)
      else if c.isDigit || c = '.' then number? (c :: cs)
      else if Text.isIdentStart c then
        let word := (c :: cs).takeWhile Text.isIdentChar
        (constant? (String.ofList word)).map fun v => (v, (c :: cs).drop word.length)
      else none := by
  rw [value?, Text.trimStart, List.dropWhile_cons_of_neg (by simp [hc])]

/-! ### Texts -/

/-- A character is read back from what is written of it. -/
theorem string?_escapeChar {quote : Char} (hquote : quote = '\'' ∨ quote = '"') (c : Char)
    (cs : List Char) : string? quote (escapeChar quote c ++ cs) =
      (string? quote cs).map fun (text, rest) => (c :: text, rest) := by
  unfold escapeChar
  split_ifs with h₁ h₂ h₃ h₄ h₅
  · subst h₁
    rfl
  · subst h₂
    rfl
  · subst h₃
    rfl
  · subst h₄
    rfl
  · obtain rfl | rfl := hquote <;> subst h₅ <;> rfl
  · rw [List.singleton_append, string?.eq_4 _ _ _ (fun h => absurd h h₁)
      (fun _ _ h => absurd h h₁), if_neg h₅, if_neg h₂]

theorem string?_written {quote : Char} (hquote : quote = '\'' ∨ quote = '"')
    (cs rest : List Char) :
    string? quote (cs.flatMap (escapeChar quote) ++ quote :: rest) = some (cs, rest) := by
  induction cs with
  | nil => obtain rfl | rfl := hquote <;> rfl
  | cons c cs ih =>
    rw [List.flatMap_cons, List.append_assoc, string?_escapeChar hquote, ih]
    rfl

theorem quoteFor_eq (cs : List Char) : quoteFor cs = '\'' ∨ quoteFor cs = '"' := by
  unfold quoteFor
  split_ifs
  · exact .inr rfl
  · exact .inl rfl

/-- **A text is read back,** whatever its characters. -/
theorem value?_quoteText (fuel : Nat) (s : String) (rest : List Char) :
    value? (fuel + 1) ((quoteText s).toList ++ rest) = some (.str s, rest) := by
  have hquote := quoteFor_eq s.toList
  have hblank : Text.isBlank (quoteFor s.toList) = false := by
    obtain h | h := hquote <;> rw [h] <;> rfl
  rw [quoteText, String.toList_ofList, quoteChars, List.cons_append, List.cons_append,
    value?_cons fuel hblank, if_pos hquote, List.append_assoc, List.singleton_append,
    string?_written hquote]
  exact congrArg (fun s => some (Value.str s, rest)) String.ofList_toList

theorem opens_quoteText (s : String) : Opens (quoteText s).toList := by
  rw [quoteText, String.toList_ofList]
  refine ⟨quoteFor s.toList, _, rfl, ?_⟩
  obtain h | h := quoteFor_eq s.toList <;> rw [h] <;> rfl

/-! ### Integers -/

theorem radixValue?_ten {c : Char} (h : c.isDigit = true) :
    (Number.radixValue? 10 c).isSome = true :=
  Number.forall_isDigit (p := fun c => (Number.radixValue? 10 c).isSome = true) (by decide) h

/-- Digits are taken up to a closing character. -/
theorem digits_append {ds : List Char} (hds : ∀ c ∈ ds, c.isDigit = true) (hrest : Closes rest)
    (after : Bool) : digits 10 after (ds ++ rest) = (ds, rest) := by
  induction ds generalizing after with
  | nil => rcases hrest.eq with rfl | ⟨cs, rfl | rfl | rfl⟩ <;> cases after <;> rfl
  | cons c ds ih =>
    rw [List.cons_append, digits.eq_def]
    simp only [if_pos (radixValue?_ten (hds c List.mem_cons_self)),
      ih fun d hd => hds d (List.mem_cons_of_mem _ hd)]

theorem properInteger_toDigits (n : Nat) : properInteger (Nat.toDigits 10 n) = true := by
  unfold properInteger
  split
  · next h => simp [(Number.toDigits_eq_zero_cons h).2]
  · rfl

/-- A natural number is read back from its digits, if it fits. -/
theorem decimal?_toDigits (n : Nat) (hrest : Closes rest) :
    decimal? (Nat.toDigits 10 n ++ rest) = (Number.fit? n).map fun m => (.int m, rest) := by
  have hwhole : decimal? (Nat.toDigits 10 n ++ rest) =
      if properInteger (Nat.toDigits 10 n) then
        (Number.readInt? (Nat.toDigits 10 n)).map fun m => (.int m, rest)
      else none := by
    unfold decimal?
    rw [digits_append (fun c hc => Number.isDigit_of_mem_toDigits hc) hrest]
    rcases hrest.eq with rfl | ⟨cs, rfl | rfl | rfl⟩ <;> rfl
  rw [hwhole, if_pos (properInteger_toDigits n), Number.readInt?_toDigits]

theorem number?_toDigits (n : Nat) (hrest : Closes rest) :
    number? (Nat.toDigits 10 n ++ rest) = (Number.fit? n).map fun m => (.int m, rest) := by
  rw [← decimal?_toDigits n hrest]
  obtain ⟨d, ds, hds⟩ := List.exists_cons_of_ne_nil (Nat.toDigits_ne_nil (b := 10) (n := n))
  rw [hds]
  by_cases hd : d = '0'
  · -- a zero in front is all there is of the number, and a closing character is no radix
    subst hd
    obtain ⟨-, rfl⟩ := Number.toDigits_eq_zero_cons hds
    rcases hrest.eq with rfl | ⟨cs, rfl | rfl | rfl⟩ <;> rfl
  · exact number?.eq_2 _ fun c cs h => hd (List.cons.inj h).1

theorem value?_toDigits (fuel n : Nat) (hrest : Closes rest) :
    value? (fuel + 1) (Nat.toDigits 10 n ++ rest) =
      (Number.fit? n).map fun m => (.int m, rest) := by
  rw [← number?_toDigits n hrest]
  obtain ⟨c, cs, hcs⟩ := List.exists_cons_of_ne_nil (Nat.toDigits_ne_nil (b := 10) (n := n))
  have hdigit : c.isDigit = true := Number.isDigit_of_mem_toDigits (hcs ▸ List.mem_cons_self)
  have hother : Text.isBlank c = false ∧ ¬ (c = '\'' ∨ c = '"') ∧ c ≠ '[' ∧ c ≠ '(' ∧
      c ≠ '\x7b' ∧ ¬ (c = '+' ∨ c = '-') :=
    Number.forall_isDigit (p := fun c => Text.isBlank c = false ∧ ¬ (c = '\'' ∨ c = '"') ∧
      c ≠ '[' ∧ c ≠ '(' ∧ c ≠ '\x7b' ∧ ¬ (c = '+' ∨ c = '-')) (by decide) hdigit
  obtain ⟨hblank, h₁, h₂, h₃, h₄, h₅⟩ := hother
  rw [hcs, List.cons_append, value?_cons fuel hblank, if_neg h₁, if_neg h₂, if_neg h₃, if_neg h₄,
    if_neg h₅, if_pos (by simp [hdigit])]

/-- **An integer is read back,** unless it is the least one. -/
theorem value?_int {m : Int64} (hm : m ≠ Int64.minValue) (hrest : Closes rest) :
    value? (fuel + 2) ((toString m.toInt).toList ++ rest) = some (.int m, rest) := by
  have hmagnitude := Number.toInt_neg_of_ne_minValue hm
  rw [Number.toList_toString]
  split_ifs with hneg
  · -- the magnitude fits too, since there is room for it above zero
    have hk : Number.fit? m.toInt.natAbs = some (-m) := by
      rw [Number.fit?_eq_some_iff]
      omega
    have hback : signed? true (.int (-m)) = some (.int m) := by
      have hfit : Number.fit? (-(-m).toInt) = some m := by
        rw [Number.fit?_eq_some_iff]
        omega
      rw [signed?, if_pos rfl, hfit]
      rfl
    rw [List.cons_append, value?_cons (fuel + 1) (by decide), if_neg (by decide),
      if_neg (by decide), if_neg (by decide), if_neg (by decide), if_pos (by decide),
      value?_toDigits fuel _ hrest, hk]
    change (signed? true (.int (-m)) >>= fun v => pure (v, rest)) = _
    rw [hback]
    rfl
  · have hfit : Number.fit? m.toInt.natAbs = some m := by
      rw [Number.fit?_eq_some_iff]
      omega
    rw [value?_toDigits _ _ hrest, hfit]
    rfl

theorem opens_int (m : Int64) : Opens (toString m.toInt).toList := by
  rw [Number.toList_toString]
  split_ifs
  · exact ⟨'-', _, rfl, rfl⟩
  · obtain ⟨c, cs, hcs⟩ := List.exists_cons_of_ne_nil
      (Nat.toDigits_ne_nil (b := 10) (n := m.toInt.natAbs))
    exact ⟨c, cs, hcs, Number.forall_isDigit (p := fun c => isOpener c = true) (by decide)
      (Number.isDigit_of_mem_toDigits (hcs ▸ List.mem_cons_self))⟩

/-! ### Constants -/

theorem value?_bool (b : Bool) (hrest : Closes rest) :
    value? (fuel + 1) ((write false (.bool b)).toList ++ rest) = some (.bool b, rest) := by
  rcases hrest.eq with rfl | ⟨cs, rfl | rfl | rfl⟩ <;> cases b <;> rfl

theorem value?_null (hrest : Closes rest) :
    value? (fuel + 1) ((write false .null).toList ++ rest) = some (.null, rest) := by
  rcases hrest.eq with rfl | ⟨cs, rfl | rfl | rfl⟩ <;> rfl

/-! ### Lists and mappings -/

/-- A reader that takes a value off what is written of it, in front of what may follow. -/
def Takes (item : Reader Value) (v : Value) : Prop :=
  ∀ rest, Closes rest → item (v.repr.toList ++ rest) = some (v, rest)

section

variable {item : Reader Value} (hblank : ∀ cs, item (' ' :: cs) = item cs)
include hblank

theorem items?_blank (close : Char) (fuel : Nat) (cs : List Char) :
    items? close item fuel (' ' :: cs) = items? close item fuel cs := by
  cases fuel with
  | zero => rfl
  | succ fuel => rw [items?, items?, eat?_blank, hblank]

theorem entries?_blank (fuel : Nat) (before : Dict Value) (cs : List Char) :
    entries? item fuel before (' ' :: cs) = entries? item fuel before cs := by
  cases fuel with
  | zero => rfl
  | succ fuel => rw [entries?, entries?, eat?_blank, hblank]

/-- **Items are read back one after the other.** -/
theorem items?_written {vs : List Value} (hopens : ∀ v ∈ vs, Opens v.repr.toList)
    (htakes : ∀ v ∈ vs, Takes item v) (hfuel : vs.length < fuel) (rest : List Char) :
    items? ']' item fuel
      (List.intercalate [',', ' '] (vs.map fun v => v.repr.toList) ++ ']' :: rest) =
        some (vs, rest) := by
  induction vs generalizing fuel with
  | nil =>
    obtain ⟨fuel, rfl⟩ := Nat.exists_eq_add_one.2 hfuel
    rfl
  | cons v vs ih =>
    obtain ⟨fuel, rfl⟩ := Nat.exists_eq_add_one.2 (Nat.zero_lt_of_lt hfuel)
    have hnone := fun rest => ((hopens v List.mem_cons_self).eat?_eq_none rest).1
    have htake := htakes v List.mem_cons_self
    cases vs with
    | nil =>
      rw [List.map_singleton, List.intercalate_singleton, items?, hnone]
      dsimp only
      rw [htake _ (closes_cons rfl)]
      rfl
    | cons w ws =>
      have hmore := ih (fun u hu => hopens u (List.mem_cons_of_mem _ hu))
        (fun u hu => htakes u (List.mem_cons_of_mem _ hu)) (Nat.lt_of_succ_lt_succ hfuel)
      rw [List.map_cons] at hmore
      rw [List.map_cons, List.map_cons, List.intercalate_cons_cons, List.append_assoc,
        List.append_assoc,
        List.cons_append, List.singleton_append, items?, hnone]
      dsimp only
      rw [htake _ (closes_cons rfl)]
      change (items? ']' item fuel (' ' :: _) >>= _) = _
      rw [items?_blank hblank, hmore]
      rfl

/-- What is written of an entry. -/
def entryText (e : String × Value) : List Char :=
  (quoteText e.1).toList ++ ':' :: ' ' :: e.2.repr.toList

/-- The key of an entry, the colon and the blank, and the value lead to what follows the entry. -/
theorem entries?_entry (fuel : Nat) {before : Dict Value} {k : String} {v : Value}
    (hkey : ∀ rest, item ((quoteText k).toList ++ rest) = some (.str k, rest))
    (htake : Takes item v) (hinsert : Dict.insert k v before = before ++ [(k, v)])
    {rest : List Char} (hrest : Closes rest) :
    entries? item (fuel + 1) before (entryText (k, v) ++ rest) =
      (eat? ',' rest).elim ((eat? '\x7d' rest).map fun cs => (before ++ [(k, v)], cs))
        (entries? item fuel (before ++ [(k, v)])) := by
  have hnone := ((opens_quoteText k).eat?_eq_none (':' :: ' ' :: v.repr.toList ++ rest)).2
  rw [entries?, entryText, List.append_assoc, hnone]
  dsimp only
  rw [hkey]
  change (item (' ' :: (v.repr.toList ++ rest)) >>= _) = _
  rw [hblank, htake _ hrest, ← hinsert]
  dsimp only [Option.bind_eq_bind, Option.bind_some]
  cases eat? ',' rest with
  | some cs => rfl
  | none => cases eat? '\x7d' rest <;> rfl

/-- **Entries are read back one after the other,** behind those before them. -/
theorem entries?_written {es : Dict Value} (before : Dict Value)
    (hkeys : ∀ e ∈ es, ∀ rest, item ((quoteText e.1).toList ++ rest) = some (.str e.1, rest))
    (htakes : ∀ e ∈ es, Takes item e.2) (hordered : Dict.Ordered (before ++ es))
    (hfuel : es.length < fuel) (rest : List Char) :
    entries? item fuel before (List.intercalate [',', ' '] (es.map entryText) ++ '\x7d' :: rest) =
      some (before ++ es, rest) := by
  induction es generalizing fuel before with
  | nil =>
    obtain ⟨fuel, rfl⟩ := Nat.exists_eq_add_one.2 hfuel
    rw [List.append_nil]
    rfl
  | cons e es ih =>
    obtain ⟨fuel, rfl⟩ := Nat.exists_eq_add_one.2 (Nat.zero_lt_of_lt hfuel)
    obtain ⟨k, v⟩ := e
    have hinsert : Dict.insert k v before = before ++ [(k, v)] := by
      refine Dict.insert_of_forall_lt v fun e he => ?_
      exact (List.pairwise_append.1 hordered).2.2 e he (k, v) List.mem_cons_self
    have hentry {rest : List Char} (h : Closes rest) := entries?_entry hblank fuel
      (hkeys (k, v) List.mem_cons_self) (htakes (k, v) List.mem_cons_self) hinsert h
    cases es with
    | nil =>
      rw [List.map_singleton, List.intercalate_singleton, hentry (closes_cons rfl)]
      rfl
    | cons d ds =>
      have hmore := ih (before ++ [(k, v)])
        (fun u hu => hkeys u (List.mem_cons_of_mem _ hu))
        (fun u hu => htakes u (List.mem_cons_of_mem _ hu))
        (by rwa [List.append_assoc]) (Nat.lt_of_succ_lt_succ hfuel)
      rw [List.map_cons] at hmore
      rw [List.map_cons, List.map_cons, List.intercalate_cons_cons, List.append_assoc,
        List.append_assoc, List.cons_append, List.singleton_append, hentry (closes_cons rfl)]
      change entries? item fuel _ (' ' :: _) = _
      rw [entries?_blank hblank, hmore, List.append_assoc]
      rfl

end

end Literal
end Value
end MailMerge
