/-
# Replacement texts

A replacement text is read from the left as parts (`Pattern.parts`): characters that stand for
themselves, and groups by number or by name.  Its form with a dollar is these parts written in
another way, whatever the text is (`Pattern.dollarForm_eq`): a dollar as two, and a group in
braces.  Filling in takes such a part off the front of any text (`Pattern.expand_dollar`), since a
dollar is never left alone and no name holds a brace that ends it; so what is filled in for a text
is what its parts say.
-/

import MailMerge.Filter.Pattern
import Mathlib

namespace MailMerge

theorem Text.splitOnce?_of_notMem {sep : Char} {cs : List Char} (h : sep ∉ cs) (rest : List Char) :
    splitOnce? sep (cs ++ sep :: rest) = some (cs, rest) := by
  rw [splitOnce?]
  induction cs with
  | nil => simp [splitAround?, dropLead?]
  | cons c cs ih =>
    rw [List.mem_cons, not_or] at h
    rw [List.cons_append, splitAround?, dropLead?, if_neg h.1]
    simp only [ih h.2, Option.map_some]

theorem Text.drop_length_takeWhile (p : Char → Bool) (cs : List Char) :
    cs.drop (cs.takeWhile p).length = cs.dropWhile p := by
  calc cs.drop (cs.takeWhile p).length
    _ = (cs.takeWhile p ++ cs.dropWhile p).drop (cs.takeWhile p).length := by
      rw [List.takeWhile_append_dropWhile]
    _ = cs.dropWhile p := List.drop_left

namespace Pattern

/-! ### What a replacement text says -/

/-- A part of a replacement text. -/
inductive Part where
  | literal (c : Char)
  | numbered (digits : List Char)
  | named (name : List Char)
  /-- a reference by name that nothing closes, with what follows it -/
  | unclosed (rest : List Char)
  deriving DecidableEq, Repr

/-- The parts of a replacement text: a backslash with digits is a group by its number, and one
with `g<` a group by its name up to `>`.  Two backslashes are one, and every other character, a
lone backslash included, is itself. -/
def parts : List Char → List Part
  | [] => []
  | '\\' :: '\\' :: cs => .literal '\\' :: parts cs
  | '\\' :: 'g' :: '<' :: cs =>
    if '>' ∈ cs then .named (cs.takeWhile (· ≠ '>')) :: parts (cs.dropWhile (· ≠ '>')).tail
    else [.unclosed cs]
  | '\\' :: cs =>
    if cs.takeWhile Char.isDigit = [] then .literal '\\' :: parts cs
    else .numbered (cs.takeWhile Char.isDigit) :: parts (cs.dropWhile Char.isDigit)
  | c :: cs => .literal c :: parts cs
termination_by cs => cs.length
decreasing_by
  all_goals
    have hdrop := fun p : Char → Bool => (List.dropWhile_sublist (l := cs) p).length_le
    grind

namespace Part

/-- What a part says, where `group` has the texts of the groups. -/
def text (group : List Char → List Char) : Part → List Char
  | literal c => [c]
  | numbered digits => group digits
  | named name => group name
  | unclosed rest => '\\' :: 'g' :: '<' :: rest

/-- A part in the form with a dollar. -/
def dollar : Part → List Char
  | literal c => if c = '$' then ['$', '$'] else [c]
  | numbered digits => groupReference digits
  | named name => groupReference name
  | unclosed rest => groupReference rest

/-- A group by name has one: letters, digits and underscores up to the `>`. -/
def Sound : Part → Prop
  | named name => name ≠ [] ∧ ∀ c ∈ name, Text.isIdentChar c = true
  | unclosed _ => False
  | _ => True

instance : DecidablePred Sound
  | literal _ | numbered _ => inferInstanceAs (Decidable True)
  | named name =>
    decidable_of_iff (name ≠ [] ∧ name.all Text.isIdentChar = true)
      (and_congr_right' List.all_eq_true)
  | unclosed _ => inferInstanceAs (Decidable False)

end Part

/-- Each reference by name in the text is closed behind a name. -/
def Closed (cs : List Char) : Prop := ∀ part ∈ parts cs, part.Sound

variable {cs : List Char} {fuel : Nat}

/-! ### The form with a dollar -/

theorem dollarFormFrom_eq (h : cs.length < fuel) :
    dollarFormFrom fuel cs = (parts cs).flatMap Part.dollar := by
  induction cs using parts.induct generalizing fuel with
  | case1 => cases fuel <;> rw [dollarFormFrom, parts, List.flatMap_nil]
  | case2 cs ih =>
    obtain ⟨fuel, rfl⟩ := Nat.exists_eq_add_one.2 (Nat.zero_lt_of_lt h)
    simp only [List.length_cons] at h
    have hbehind := @ih fuel (by omega)
    rw [dollarFormFrom, parts, List.flatMap_cons, ← hbehind]
    rfl
  | case3 cs hangle ih =>
    obtain ⟨fuel, rfl⟩ := Nat.exists_eq_add_one.2 (Nat.zero_lt_of_lt h)
    simp only [List.length_cons] at h
    have hrest := (List.dropWhile_sublist (l := cs) fun c => decide (c ≠ '>')).length_le
    have htail := List.length_tail (l := cs.dropWhile fun c => decide (c ≠ '>'))
    have hbehind := @ih fuel (by omega)
    rw [dollarFormFrom, parts, if_pos hangle, List.flatMap_cons, ← hbehind, ← List.drop_one]
    rfl
  | case4 cs hangle =>
    obtain ⟨fuel, rfl⟩ := Nat.exists_eq_add_one.2 (Nat.zero_lt_of_lt h)
    have hall : ∀ c ∈ cs, decide (c ≠ '>') = true := fun c hc =>
      decide_eq_true fun he => hangle (he ▸ hc)
    have hsplit : upToAngle cs = (cs, []) := by
      rw [upToAngle, List.takeWhile_eq_self_iff.2 hall, List.dropWhile_eq_nil_iff.2 hall]
      rfl
    have hend : dollarFormFrom fuel [] = [] := by cases fuel <;> rfl
    rw [dollarFormFrom, parts, if_neg hangle, List.flatMap_singleton]
    simp only [hsplit, hend, List.append_nil]
    rfl
  | case5 cs hslash hname hdigits ih =>
    obtain ⟨fuel, rfl⟩ := Nat.exists_eq_add_one.2 (Nat.zero_lt_of_lt h)
    rw [List.length_cons] at h
    have hbehind := @ih fuel (by omega)
    rw [dollarFormFrom, parts, if_pos hdigits, List.flatMap_cons, ← hbehind]
    · simp only [hdigits, List.isEmpty_nil]
      rfl
    all_goals assumption
  | case6 cs hslash hname hdigits ih =>
    obtain ⟨fuel, rfl⟩ := Nat.exists_eq_add_one.2 (Nat.zero_lt_of_lt h)
    rw [List.length_cons] at h
    have hrest := (List.dropWhile_sublist (l := cs) Char.isDigit).length_le
    have hsome : (cs.takeWhile Char.isDigit).isEmpty = false := by simpa using hdigits
    have hbehind := @ih fuel (by omega)
    rw [dollarFormFrom, parts, if_neg hdigits, List.flatMap_cons, ← hbehind]
    · rw [hsome, Text.drop_length_takeWhile]
      rfl
    all_goals assumption
  | case7 c cs _ _ _ ih =>
    obtain ⟨fuel, rfl⟩ := Nat.exists_eq_add_one.2 (Nat.zero_lt_of_lt h)
    rw [List.length_cons] at h
    have hbehind := @ih fuel (by omega)
    rw [parts, List.flatMap_cons, ← hbehind]
    · by_cases hd : c = '$'
      · rw [hd, dollarFormFrom]
        rfl
      · rw [dollarFormFrom, Part.dollar, if_neg hd]
        · rfl
        all_goals assumption
    all_goals assumption

/-- **The form with a dollar is the parts written in another way.** -/
theorem dollarForm_eq (cs : List Char) : dollarForm cs = (parts cs).flatMap Part.dollar :=
  dollarFormFrom_eq (Nat.lt_succ_self _)

/-! ### Filling in -/

section Expand

variable {group : List Char → List Char} {name rest : List Char} {part : Part} {ps : List Part}

/-- The braces of the form with a dollar end where the part ends. -/
def Part.Braced : Part → Prop
  | literal _ => True
  | numbered digits => '\x7d' ∉ digits
  | named name => '\x7d' ∉ name
  | unclosed _ => False

theorem Part.dollar_ne_nil (part : Part) : part.dollar ≠ [] := by
  cases part <;> simp only [dollar, groupReference] <;> grind

theorem expand_groupReference (h : '\x7d' ∉ name) (rest : List Char) :
    expand group (fuel + 1) (groupReference name ++ rest) =
      group name ++ expand group fuel rest := by
  have href : reference? ('\x7b' :: (name ++ '\x7d' :: rest)) = some (name, rest) :=
    Text.splitOnce?_of_notMem h rest
  have hform : groupReference name ++ rest = '$' :: '\x7b' :: (name ++ '\x7d' :: rest) := by
    simp [groupReference]
  rw [hform, expand]
  · simp only [href]
  · simp

/-- A part is taken off the front, whatever stands behind it: a dollar is doubled, so that no name
can follow it. -/
theorem expand_dollar (h : part.Braced) (rest : List Char) :
    expand group (fuel + 1) (part.dollar ++ rest) = part.text group ++ expand group fuel rest := by
  cases part with
  | literal c =>
    by_cases hc : c = '$'
    · rw [hc]
      rfl
    · rw [Part.dollar, if_neg hc, List.singleton_append, expand]
      · rfl
      · exact hc
  | numbered digits => exact expand_groupReference h rest
  | named name => exact expand_groupReference h rest
  | unclosed rest => exact h.elim

theorem expand_flatMap_dollar (h : ∀ part ∈ ps, part.Braced)
    (hfuel : (ps.flatMap Part.dollar).length < fuel) :
    expand group fuel (ps.flatMap Part.dollar) = ps.flatMap (Part.text group) := by
  obtain ⟨fuel, rfl⟩ := Nat.exists_eq_add_one.2 (Nat.zero_lt_of_lt hfuel)
  induction ps generalizing fuel with
  | nil => rfl
  | cons part ps ih =>
    have hpos := List.length_pos_iff.2 part.dollar_ne_nil
    rw [List.flatMap_cons, List.length_append] at hfuel
    obtain ⟨fuel, rfl⟩ := Nat.exists_eq_add_one.2 (show 0 < fuel by omega)
    rw [List.flatMap_cons, expand_dollar (h part List.mem_cons_self), List.flatMap_cons,
      ih (fun part hpart => h part (List.mem_cons_of_mem _ hpart)) fuel (by omega)]

theorem isDigit_of_numbered_mem {digits : List Char} (h : Part.numbered digits ∈ parts cs)
    {d : Char} (hd : d ∈ digits) : d.isDigit = true := by
  fun_induction parts cs with
  | case6 cs _ _ _ ih =>
    rcases List.mem_cons.1 h with hfirst | h
    · rw [Part.numbered.inj hfirst] at hd
      exact List.mem_takeWhile_imp hd
    · exact ih h
  | _ => grind

theorem Closed.braced (h : Closed cs) (hpart : part ∈ parts cs) : part.Braced := by
  have hsound := h part hpart
  cases part with
  | literal c => trivial
  | numbered digits =>
    exact fun hmem => absurd (isDigit_of_numbered_mem hpart hmem) (by decide)
  | named name => exact fun hmem => absurd (hsound.2 _ hmem) (by decide)
  | unclosed rest => exact hsound

theorem Closed.expand_eq (h : Closed cs) (group : List Char → List Char) :
    expand group ((dollarForm cs).length + 1) (dollarForm cs) =
      (parts cs).flatMap (Part.text group) := by
  rw [dollarForm_eq]
  exact expand_flatMap_dollar (fun part hpart => h.braced hpart) (Nat.lt_succ_self _)

/-- A text is closed if a name and `>` follow each `\g<` in it, also one that is not read as a
reference since its backslash is taken by the one before it. -/
theorem closed_of_suffixes
    (h : ∀ after, '\\' :: 'g' :: '<' :: after <:+ cs →
      ∃ name rest, after = name ++ '>' :: rest ∧ name ≠ [] ∧
        ∀ c ∈ name, Text.isIdentChar c = true) : Closed cs := by
  intro part hpart
  fun_induction parts cs with
  | case1 => exact absurd hpart List.not_mem_nil
  | case2 cs ih =>
    rcases List.mem_cons.1 hpart with rfl | hpart
    · trivial
    · exact ih (fun after hs => h after (hs.trans (List.suffix_append ['\\', '\\'] cs))) hpart
  | case3 cs hangle ih =>
    rcases List.mem_cons.1 hpart with rfl | hpart
    · obtain ⟨name, rest, rfl, hne, hname⟩ := h cs (List.suffix_refl _)
      have hopen : ∀ c ∈ name, decide (c ≠ '>') = true := fun c hc =>
        decide_eq_true fun he => absurd (hname c hc) (by rw [he]; decide)
      have htake : (name ++ '>' :: rest).takeWhile (fun c => decide (c ≠ '>')) = name := by
        rw [List.takeWhile_append_of_pos hopen, List.takeWhile_cons_of_neg (by decide),
          List.append_nil]
      rw [htake]
      exact ⟨hne, hname⟩
    · have hbehind := (List.tail_suffix _).trans (List.dropWhile_suffix (l := cs)
        fun c => decide (c ≠ '>'))
      exact ih (fun after hs =>
        h after ((hs.trans hbehind).trans (List.suffix_append ['\\', 'g', '<'] cs))) hpart
  | case4 cs hangle =>
    obtain ⟨name, rest, rfl, -, -⟩ := h cs (List.suffix_refl _)
    exact absurd (List.mem_append_right name List.mem_cons_self) hangle
  | case5 cs _ _ _ ih | case7 c cs _ _ _ ih =>
    rcases List.mem_cons.1 hpart with rfl | hpart
    · trivial
    · exact ih (fun after hs => h after (hs.trans (List.suffix_cons _ cs))) hpart
  | case6 cs _ _ _ ih =>
    rcases List.mem_cons.1 hpart with rfl | hpart
    · trivial
    · have hbehind := List.dropWhile_suffix (l := cs) Char.isDigit
      exact ih (fun after hs =>
        h after ((hs.trans hbehind).trans (List.suffix_cons _ cs))) hpart

end Expand

/-! ### Replacing matches -/

/-- The subject from `position` on with `text m` for each match. -/
def splice (subject : List Char) (text : Match → List Char) : Nat → List Match → List Char
  | position, [] => subject.drop position
  | position, m :: ms =>
    (subject.drop position).take (m.start - position) ++ text m ++ splice subject text m.stop ms

theorem Program.replaceFrom_eq_splice (prog : Program) (subject replacement : List Char)
    (ms : List Match) (position : Nat) :
    prog.replaceFrom subject replacement position ms = splice subject
      (fun m => expand (prog.groupText subject m) (replacement.length + 1) replacement)
      position ms := by
  induction ms generalizing position with
  | nil => rfl
  | cons m ms ih => rw [replaceFrom, splice, ih]

theorem Closed.replaceAll_eq (h : Closed cs) (prog : Program) (subject : List Char) :
    prog.replaceAll subject cs = splice subject
      (fun m => (parts cs).flatMap (Part.text (prog.groupText subject m))) 0
      (prog.findAll subject) := by
  simp only [Program.replaceAll, Program.replaceFrom_eq_splice, h.expand_eq]

/-- A replacement text means its parts if a name and `>` follow each `\g<` in it. -/
theorem replaceAll_of_suffixes
    (h : ∀ after, '\\' :: 'g' :: '<' :: after <:+ cs →
      ∃ name rest, after = name ++ '>' :: rest ∧ name ≠ [] ∧
        ∀ c ∈ name, Text.isIdentChar c = true) (prog : Program) (subject : List Char) :
    prog.replaceAll subject cs = splice subject
      (fun m => (parts cs).flatMap (Part.text (prog.groupText subject m))) 0
      (prog.findAll subject) :=
  (closed_of_suffixes h).replaceAll_eq prog subject

/-- **A replacement text means its parts.**  Whatever the groups hold, what is filled in for its
form with a dollar is the texts of its parts one after another; so this is what replacing puts in
the place of each match. -/
theorem fills_parts (h : Closed cs) :
    (∀ group, expand group ((dollarForm cs).length + 1) (dollarForm cs) =
      (parts cs).flatMap (Part.text group)) ∧
    ∀ (prog : Program) (subject : List Char), prog.replaceAll subject cs = splice subject
      (fun m => (parts cs).flatMap (Part.text (prog.groupText subject m))) 0
      (prog.findAll subject) :=
  ⟨h.expand_eq, h.replaceAll_eq⟩

theorem fills_parts_dollars :
    Closed "$\\1\x7b\\g<x_1>0\x7d\\\\1\\".toList ∧
      dollarForm "$\\1\x7b\\g<x_1>0\x7d\\\\1\\".toList =
        "$$$\x7b1\x7d\x7b$\x7bx_1\x7d0\x7d\\1\\".toList ∧
      ∀ group, expand group 19 "$$$\x7b1\x7d\x7b$\x7bx_1\x7d0\x7d\\1\\".toList =
        '$' :: group ['1'] ++ '\x7b' :: group ['x', '_', '1'] ++ "0\x7d\\1\\".toList := by
  have hparts : parts "$\\1\x7b\\g<x_1>0\x7d\\\\1\\".toList =
      [.literal '$', .numbered ['1'], .literal '\x7b', .named ['x', '_', '1'], .literal '0',
        .literal '\x7d', .literal '\\', .literal '1', .literal '\\'] := by cbv
  have hclosed : Closed "$\\1\x7b\\g<x_1>0\x7d\\\\1\\".toList := by
    rw [Closed, hparts]
    decide
  have hform : dollarForm "$\\1\x7b\\g<x_1>0\x7d\\\\1\\".toList =
      "$$$\x7b1\x7d\x7b$\x7bx_1\x7d0\x7d\\1\\".toList := by decide
  refine ⟨hclosed, hform, fun group => ?_⟩
  have hfills := (fills_parts hclosed).1 group
  rw [hparts, hform] at hfills
  simpa [Part.text] using hfills

end Pattern
end MailMerge
