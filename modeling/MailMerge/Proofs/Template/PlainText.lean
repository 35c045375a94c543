/-
# Texts that cannot be templates

The quick test whether a text can be a template looks for a marker that starts a tag anywhere in
it.  Where it finds none the lexer finds no tag either (`Delimiters.findTag_eq_none`), whatever
the markers are: the whole text is one token, and rendering gives it back without looking up a
name (`Environment.renderSource_of_not_inTemplate`).  So nothing is lost when a variable whose
value fails the test is taken as it is.
-/

import MailMerge.Context
import MailMerge.Proofs.Template.Reparse

namespace MailMerge

namespace Text

variable {p cs ds : List Char}

theorem startsWith_iff_prefix : startsWith p cs = true ↔ p <+: cs := by
  rw [startsWith, Option.isSome_iff_exists]
  exact exists_congr fun rest => dropLead?_eq_some.trans eq_comm

theorem contains_iff_infix : contains p cs = true ↔ p <:+: cs := by
  induction cs with
  | nil => rw [contains, List.isEmpty_iff, List.infix_nil]
  | cons c cs ih => rw [contains, Bool.or_eq_true, startsWith_iff_prefix, ih, List.infix_cons_iff]

end Text

namespace Delimiters

variable {d : Delimiters} {cs : List Char} {s : String}

/-- A text that holds no marker that starts a tag. -/
def Tagless (d : Delimiters) (cs : List Char) : Prop := ∀ kind, ¬ d.start kind <:+: cs

theorem inTemplate_eq_false_iff : d.inTemplate s = false ↔ d.Tagless s.toList := by
  rw [inTemplate, Bool.or_eq_false_iff, Bool.or_eq_false_iff]
  simp only [← Bool.not_eq_true, Text.contains_iff_infix]
  constructor
  · rintro ⟨⟨hblock, hvariable⟩, hcomment⟩ (_ | _ | _)
    · exact hvariable
    · exact hblock
    · exact hcomment
  · exact fun h => ⟨⟨h .block, h .variable⟩, h .comment⟩

theorem Tagless.mono {ds : List Char} (h : d.Tagless ds) (hcs : cs <:+: ds) : d.Tagless cs :=
  fun kind hkind => h kind (hkind.trans hcs)

/-- Where no marker starts there is no tag. -/
theorem tagAt_eq_none (h : ∀ kind, ¬ d.start kind <+: cs) : d.tagAt cs = none := by
  simp only [tagAt, longer, Text.startsWith_iff_prefix, h, if_false]

/-- **A text without markers has no tag.** -/
theorem findTag_eq_none (h : d.Tagless cs) : d.findTag cs = none := by
  have hat : d.tagAt cs = none := tagAt_eq_none fun kind hkind => h kind hkind.isInfix
  induction cs with
  | nil => rw [findTag, hat]; rfl
  | cons c cs ih =>
    have hrest : d.Tagless cs := h.mono (List.suffix_cons c cs).isInfix
    have hat' : d.tagAt cs = none := tagAt_eq_none fun kind hkind => hrest kind hkind.isInfix
    rw [findTag, hat]
    simp only [ih hrest hat', Option.map_none]

end Delimiters

namespace Lexer

variable {d : Delimiters} {w : Whitespace} {cs : List Char}

/-- The nodes of a text without tags: itself, unless it is empty. -/
def plainTree (cs : List Char) : Template := if cs = [] then [] else [.text (String.ofList cs)]

/-- **A text without tags is one token,** and none if it is empty. -/
theorem scan_of_tagless (h : d.Tagless cs) :
    ∃ rows, List.Forall₂ Node.WrittenAs (plainTree cs) rows ∧ (scan d w cs).Gives rows.flatten := by
  have hend : ∀ fuel before (c : Cursor), c.rest = [] →
      run d w fuel before { cursor := c } = ⟨[], none⟩ := by
    intro fuel before c hc
    cases fuel with
    | zero => rfl
    | succ fuel =>
      have hfinish : step d w { cursor := c } = .finish := by simp [step, hc]
      rw [run, hfinish]
  cases cs with
  | nil => exact ⟨[], .nil, by rw [scan, hend _ _ _ rfl]; exact ⟨rfl, rfl⟩⟩
  | cons ch cs =>
    have hstep : step d w { cursor := { rest := ch :: cs } } =
        .emit (.text (String.ofList (ch :: cs)))
          { cursor := Cursor.advance (ch :: cs).length { rest := ch :: cs } } := by
      simp only [step, stepText, Delimiters.findTag_eq_none h, emitText, List.isEmpty_cons,
        Bool.false_eq_true, if_false]
    refine ⟨[[.text (String.ofList (ch :: cs))]], .cons (.text _) .nil, ?_⟩
    have hfuel : 2 * ((ch :: cs).length + 1) = (2 * (ch :: cs).length + 1) + 1 := by omega
    rw [scan, hfuel, run, hstep]
    dsimp only
    rw [hend _ _ _ (by rw [Cursor.rest_advance, List.drop_length])]
    exact ⟨rfl, rfl⟩

end Lexer

/-! ### Without the last line break -/

theorem Text.dropTail?_eq_some {tail cs rest : List Char} :
    dropTail? tail cs = some rest ↔ cs = rest ++ tail := by
  simp only [dropTail?, Option.map_eq_some_iff, dropLead?_eq_some]
  constructor
  · rintro ⟨back, hback, rfl⟩
    rw [← List.reverse_reverse cs, hback, List.reverse_append, List.reverse_reverse]
  · rintro rfl
    exact ⟨rest.reverse, List.reverse_append, List.reverse_reverse rest⟩

namespace Environment

variable {env : Environment} {s : String}

/-- **What is parsed is the source up to one line break at its end,** and all of it just if line
breaks are kept or it ends in none. -/
theorem body_spec (env : Environment) (s : String) :
    ∃ final ∈ [[], ['\n'], ['\r', '\n']], s.toList = env.body s ++ final ∧
      (final = [] ↔ env.keepTrailingNewline = true ∨ s.toList.getLast? ≠ some '\n') := by
  have hdropped : ∀ more rest, env.keepTrailingNewline ≠ true →
      Text.dropTail? (more ++ ['\n']) s.toList = some rest →
      ¬ (env.keepTrailingNewline = true ∨ s.toList.getLast? ≠ some '\n') := by
    intro more rest hkeep h
    rw [Text.dropTail?_eq_some.1 h, ← List.append_assoc, List.getLast?_concat]
    simp [hkeep]
  unfold body
  split_ifs with hkeep
  · exact ⟨[], by simp, by simp, by simp [hkeep]⟩
  unfold dropFinalBreak
  split
  · next rest hrest =>
    exact ⟨['\r', '\n'], by simp, Text.dropTail?_eq_some.1 hrest,
      iff_of_false (by simp) (hdropped ['\r'] rest hkeep hrest)⟩
  · cases hrest : Text.dropTail? ['\n'] s.toList with
    | none =>
      refine ⟨[], by simp, by simp, iff_of_true rfl (.inr fun hlast => ?_)⟩
      obtain ⟨front, hfront⟩ := List.getLast?_eq_some_iff.1 hlast
      rw [Text.dropTail?_eq_some.2 hfront] at hrest
      cases hrest
    | some rest =>
      exact ⟨['\n'], by simp, Text.dropTail?_eq_some.1 hrest,
        iff_of_false (by simp) (hdropped [] rest hkeep hrest)⟩

theorem body_eq (h : env.keepTrailingNewline = true ∨ s.toList.getLast? ≠ some '\n') :
    env.body s = s.toList := by
  obtain ⟨final, -, hs, hfinal⟩ := env.body_spec s
  rw [hs, hfinal.2 h, List.append_nil]

theorem body_tagless (h : env.inTemplate s = false) : env.delimiters.Tagless (env.body s) := by
  obtain ⟨final, -, hs, -⟩ := env.body_spec s
  refine (Delimiters.inTemplate_eq_false_iff.1 h).mono ?_
  rw [hs]
  exact (List.prefix_append _ _).isInfix

theorem parse_of_not_inTemplate (h : env.inTemplate s = false) :
    env.parse s = .ok (Lexer.plainTree (env.body s)) := by
  obtain ⟨rows, htree, hscan⟩ := Lexer.scan_of_tagless (w := env.whitespace) (body_tagless h)
  rw [parse, Template.ofSource_of_rows htree hscan]
  rfl

/-- A text that cannot be a template renders as itself, whatever the names stand for. -/
theorem renderSource_of_not_inTemplate (h : env.inTemplate s = false) (a : Access) :
    Evaluation.renderSource env a s = pure (String.ofList (env.body s)) := by
  rw [Evaluation.renderSource, parse_of_not_inTemplate h]
  dsimp only
  rw [Lexer.plainTree]
  split_ifs with hempty
  · rw [hempty]
    rfl
  · simp only [Evaluation.renderTemplate, Evaluation.renderNodes, Evaluation.renderNode, pure_bind,
      String.append_empty]

/-- **The test whether a text can be a template misses none.**  Whatever the markers and
settings, a text that fails it is parsed as at most one text node, which holds all of it but for
the line break at its end, if it ends in one and that is not kept; and rendering gives that back
from every memory and without a name.
If there is no such line break, the rendered text has the text itself as its value.  So a
variable that is taken as the literal it is reads as it would if it were rendered. -/
theorem plain_of_not_inTemplate (env : Environment) (s : String) (h : env.inTemplate s = false) :
    env.parse s = .ok (if env.body s = [] then [] else [.text (String.ofList (env.body s))]) ∧
    (∃ final ∈ [[], ['\n'], ['\r', '\n']], s.toList = env.body s ++ final ∧
      (final = [] ↔ env.keepTrailingNewline = true ∨ s.toList.getLast? ≠ some '\n')) ∧
    (∀ a, Evaluation.renderSource env a s = pure (String.ofList (env.body s))) ∧
    (env.keepTrailingNewline = true ∨ s.toList.getLast? ≠ some '\n' →
      env.body s = s.toList ∧ Value.coerce s (String.ofList (env.body s)) = .str s ∧
      Entry.ofValue env.delimiters (.str s) = .literal (.str s) ∧
      ∀ a place key (m : Memory),
        (m.vars.lookup? place key = some (Entry.ofValue env.delimiters (.str s)) →
          Reading.entry (Evaluation.renderSource env a) place key m = .ok (.str s) m) ∧
        (m.vars.lookup? place key = some (.template s) →
          ∃ m', Reading.entry (Evaluation.renderSource env a) place key m = .ok (.str s) m')) := by
  refine ⟨parse_of_not_inTemplate h, env.body_spec s, renderSource_of_not_inTemplate h,
    fun hlast => ?_⟩
  have hbody := body_eq hlast
  have hrendered : String.ofList (env.body s) = s := by rw [hbody, String.ofList_toList]
  have hcoerce : Value.coerce s s = .str s := if_pos rfl
  have hentry : Entry.ofValue env.delimiters (.str s) = .literal (.str s) := by
    rw [Entry.ofValue, if_neg (by simpa [inTemplate] using h)]
  refine ⟨hbody, by rw [hrendered, hcoerce], hentry, fun a place key m =>
    ⟨fun hm => ?_, fun hm => ?_⟩⟩
  · rw [Reading.entry, hm, hentry]
  · rw [Reading.entry, hm]
    dsimp only
    rw [Reading.settle, renderSource_of_not_inTemplate h, hrendered]
    exact ⟨_, by rw [← hcoerce]; rfl⟩

/-- An environment whose variable tags start with a marker of their own and end in an empty
one. -/
def openEnded : Environment := { delimiters := { variableStart := "<<", variableEnd := "" } }

/-- A text with a marker that starts no tag here. -/
theorem plain_between_other_markers :
    openEnded.inTemplate "1 < 2 \x7b\x7b" = false ∧
      openEnded.parse "1 < 2 \x7b\x7b" = .ok [.text "1 < 2 \x7b\x7b"] ∧
      ∀ a, Evaluation.renderSource openEnded a "1 < 2 \x7b\x7b" = pure "1 < 2 \x7b\x7b" := by
  obtain ⟨hparse, -, hrender, hlast⟩ :=
    plain_of_not_inTemplate openEnded "1 < 2 \x7b\x7b" (by decide)
  rw [(hlast (.inr (by decide))).1] at hparse hrender
  exact ⟨by decide, hparse, hrender⟩

end Environment
end MailMerge
