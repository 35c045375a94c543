/-
# Raw blocks

Between the tags of a raw block everything is text.  How a tag that holds just a word is written
is stated apart from the reader (`Delimiters.WordTag`), and the reader accepts exactly that
(`Delimiters.wordTag?_eq_some_iff`).  The lexer looks for the tag that ends the block from one
marker to the next and passes over a marker that starts no such tag.  It neither stops early nor
jumps over the end, because a marker that begins in the body lies in the body
(`Delimiters.findEndRaw_append`).  What follows the block makes no tag of what stands in the
body, because a brace opens a tag and occurs nowhere else in it
(`Delimiters.StartsTag.of_append`).
-/

import Mathlib.Data.List.Infix
import MailMerge.Proofs.Template.Interpolation

namespace MailMerge

namespace Text

variable {blanks : List Char} {c : Char}

/-- Blanks in front of a text that starts with none are what is trimmed. -/
theorem trimStart_append (hblanks : ∀ c ∈ blanks, isBlank c = true) (h : isBlank c = false)
    (cs : List Char) : trimStart (blanks ++ c :: cs) = c :: cs := by
  rw [trimStart, List.dropWhile_append_of_pos hblanks, List.dropWhile_cons_of_neg (by simp [h])]

theorem exists_blanks (cs : List Char) :
    ∃ blanks, (∀ c ∈ blanks, isBlank c = true) ∧ cs = blanks ++ trimStart cs :=
  ⟨cs.takeWhile isBlank, fun _ h => List.mem_takeWhile_imp h, List.takeWhile_append_dropWhile.symm⟩

end Text

namespace Delimiters

variable {word : String} {cs rest body : List Char} {strips : Bool}

/-! ### Tags that hold just a word -/

/-- How a tag that holds just a word is written: a sign may follow the marker that starts it,
blanks may stand around the word, and a dash in front of the marker that ends it strips what
follows. -/
structure WordTag where
  sign : List Char
  before : List Char
  behind : List Char
  strips : Bool
  sign_mem : sign ∈ [[], ['-'], ['+']]
  blank_before : ∀ c ∈ before, Text.isBlank c = true
  blank_behind : ∀ c ∈ behind, Text.isBlank c = true

/-- The dash of a tag that strips what follows. -/
def dash (strips : Bool) : List Char := if strips then ['-'] else []

/-- A tag between the default markers, and what follows it. -/
def WordTag.write (t : WordTag) (word : String) (rest : List Char) : List Char :=
  '\x7b' :: '%' :: (t.sign ++ (t.before ++ (word.toList ++
    (t.behind ++ (dash t.strips ++ '%' :: '\x7d' :: rest)))))

/-- The tag with one blank on either side of its word. -/
def WordTag.spaced : WordTag :=
  ⟨[], [' '], [' '], false, by simp, List.all_eq_true.1 rfl, List.all_eq_true.1 rfl⟩

/-- A text starts with a tag that holds just a word. -/
def StartsTag (word : String) (cs : List Char) : Prop :=
  ∃ (t : WordTag) (rest : List Char), cs = t.write word rest

/-! ### The reader of such tags -/

/-- What follows a sign, if there is one. -/
def passSign : List Char → List Char
  | '-' :: cs => cs
  | '+' :: cs => cs
  | cs => cs

/-- Whether a dash comes first, and what follows it. -/
def takeDash : List Char → Bool × List Char
  | '-' :: cs => (true, cs)
  | cs => (false, cs)

/-- The reader takes the parts of a tag one after the other. -/
theorem wordTag?_eq (d : Delimiters) (word : String) (cs : List Char) : d.wordTag? word cs =
    (Text.dropLead? d.blockStart.toList cs).bind fun cs =>
      (Text.dropLead? word.toList (Text.trimStart (passSign cs))).bind fun cs =>
        (Text.dropLead? d.blockEnd.toList (takeDash (Text.trimStart cs)).2).bind fun rest =>
          some ((takeDash (Text.trimStart cs)).1, rest) := rfl

theorem exists_sign (cs : List Char) :
    ∃ sign ∈ [[], ['-'], ['+']], cs = sign ++ passSign cs := by
  unfold passSign
  split
  · exact ⟨['-'], by simp, rfl⟩
  · exact ⟨['+'], by simp, rfl⟩
  · exact ⟨[], by simp, rfl⟩

theorem takeDash_eq (cs : List Char) : cs = dash (takeDash cs).1 ++ (takeDash cs).2 := by
  unfold takeDash
  split <;> rfl

/-- Neither a blank nor the start of a word is taken for a sign. -/
theorem passSign_append (t : WordTag) {c : Char} (hc : Text.isIdentStart c = true) :
    passSign (t.sign ++ (t.before ++ c :: cs)) = t.before ++ c :: cs := by
  have hmem := t.sign_mem
  simp only [List.mem_cons, List.not_mem_nil, or_false] at hmem
  rcases hmem with hsign | hsign | hsign
  · have hother : ∀ s, Text.isBlank s = false → Text.isIdentStart s = false →
        ∀ more, t.before ++ c :: cs ≠ s :: more := by
      intro s hblank hstart more heq
      cases hbefore : t.before with
      | nil =>
        rw [hbefore, List.nil_append, List.cons.injEq] at heq
        rw [heq.1, hstart] at hc
        cases hc
      | cons b before =>
        rw [hbefore, List.cons_append, List.cons.injEq] at heq
        have hb := t.blank_before b (by simp [hbefore])
        rw [heq.1, hblank] at hb
        cases hb
    rw [hsign, List.nil_append]
    unfold passSign
    split
    · next more heq => exact absurd heq (hother '-' (by decide) (by decide) more)
    · next more heq => exact absurd heq (hother '+' (by decide) (by decide) more)
    · rfl
  · rw [hsign]
    rfl
  · rw [hsign]
    rfl

/-- **The reader accepts exactly the tags that hold just the word,** and says whether they
strip what follows. -/
theorem wordTag?_eq_some_iff (hword : Lexer.IsWord word) :
    ({} : Delimiters).wordTag? word cs = some (strips, rest) ↔
      ∃ t : WordTag, t.strips = strips ∧ cs = t.write word rest := by
  constructor
  · intro h
    rw [wordTag?_eq] at h
    obtain ⟨inner, hinner, h⟩ := Option.bind_eq_some_iff.1 h
    obtain ⟨after, hafter, h⟩ := Option.bind_eq_some_iff.1 h
    obtain ⟨last, hlast, h⟩ := Option.bind_eq_some_iff.1 h
    obtain ⟨rfl, rfl⟩ := Prod.mk.inj (Option.some.inj h)
    rw [Text.dropLead?_eq_some] at hinner hafter hlast
    obtain ⟨sign, hsign, hpassed⟩ := exists_sign inner
    obtain ⟨before, hbefore, htrimmed⟩ := Text.exists_blanks (passSign inner)
    obtain ⟨behind, hbehind, hended⟩ := Text.exists_blanks after
    have hdash := takeDash_eq (Text.trimStart after)
    refine ⟨⟨sign, before, behind, (takeDash (Text.trimStart after)).1, hsign, hbefore, hbehind⟩,
      rfl, ?_⟩
    rw [hlast] at hdash
    rw [hdash] at hended
    rw [hafter, hended] at htrimmed
    rw [htrimmed] at hpassed
    rw [hinner, hpassed]
    rfl
  · rintro ⟨t, rfl, rfl⟩
    obtain ⟨c, chars, hchars, hc, -⟩ := hword
    have hinner : Text.dropLead? ({} : Delimiters).blockStart.toList (t.write word rest) =
        some (t.sign ++ (t.before ++ (c :: (chars ++
          (t.behind ++ (dash t.strips ++ '%' :: '\x7d' :: rest)))))) := by
      rw [Text.dropLead?_eq_some, WordTag.write, hchars]
      rfl
    have hafter : Text.dropLead? word.toList (c :: (chars ++
        (t.behind ++ (dash t.strips ++ '%' :: '\x7d' :: rest)))) =
          some (t.behind ++ (dash t.strips ++ '%' :: '\x7d' :: rest)) := by
      rw [Text.dropLead?_eq_some, hchars]
      rfl
    have hended : Text.trimStart (t.behind ++ (dash t.strips ++ '%' :: '\x7d' :: rest)) =
        dash t.strips ++ '%' :: '\x7d' :: rest := by
      cases t.strips <;> exact Text.trimStart_append t.blank_behind (by decide) _
    have hdash : takeDash (dash t.strips ++ '%' :: '\x7d' :: rest) =
        (t.strips, '%' :: '\x7d' :: rest) := by
      cases t.strips <;> rfl
    rw [wordTag?_eq, hinner, Option.bind_some, passSign_append t hc,
      Text.trimStart_append t.blank_before (Text.isBlank_of_isIdentStart hc), hafter,
      Option.bind_some, hended, hdash]
    rfl

theorem startsTag_iff (hword : Lexer.IsWord word) :
    StartsTag word cs ↔ (({} : Delimiters).wordTag? word cs).isSome = true := by
  rw [Option.isSome_iff_exists]
  constructor
  · rintro ⟨t, rest, h⟩
    exact ⟨(t.strips, rest), (wordTag?_eq_some_iff hword).2 ⟨t, rfl, h⟩⟩
  · rintro ⟨⟨strips, rest⟩, h⟩
    obtain ⟨t, -, h⟩ := (wordTag?_eq_some_iff hword).1 h
    exact ⟨t, rest, h⟩

/-! ### The end of a raw block -/

theorem isWord_raw : Lexer.IsWord "raw" := ⟨'r', ['a', 'w'], rfl, rfl, List.all_eq_true.1 rfl⟩

theorem isWord_endraw : Lexer.IsWord "endraw" :=
  ⟨'e', ['n', 'd', 'r', 'a', 'w'], rfl, rfl, List.all_eq_true.1 rfl⟩

instance : Decidable (StartsTag "endraw" cs) :=
  decidable_of_iff _ (startsTag_iff isWord_endraw).symm

theorem StartsTag.append (h : StartsTag word cs) (rest : List Char) :
    StartsTag word (cs ++ rest) := by
  obtain ⟨t, more, rfl⟩ := h
  exact ⟨t, more ++ rest, by simp [WordTag.write]⟩

/-- A tag starts with a brace and has no other. -/
theorem WordTag.exists_write (hword : Lexer.IsWord word) (t : WordTag) :
    ∃ inner, '\x7b' ∉ inner ∧ ∀ rest, t.write word rest = '\x7b' :: (inner ++ rest) := by
  refine ⟨'%' :: (t.sign ++ t.before ++ word.toList ++ t.behind ++ dash t.strips ++
    ['%', '\x7d']), fun hmem => ?_, fun rest => by simp [write]⟩
  have hblanks : ∀ blanks : List Char, (∀ c ∈ blanks, Text.isBlank c = true) →
      '\x7b' ∉ blanks := fun blanks h hin => absurd (h _ hin) (by decide)
  have hsign : '\x7b' ∉ t.sign := by
    have hall : ∀ sign ∈ [[], ['-'], ['+']], '\x7b' ∉ sign := by decide
    exact hall _ t.sign_mem
  have hdash : '\x7b' ∉ dash t.strips := by cases t.strips <;> decide
  have hchars : '\x7b' ∉ word.toList := by
    obtain ⟨c, cs, hchars, hc, hcs⟩ := hword
    rw [hchars, List.mem_cons, not_or]
    exact ⟨fun heq => absurd (heq ▸ hc) (by decide), fun hin => absurd (hcs _ hin) (by decide)⟩
  simp [hsign, hblanks _ t.blank_before, hchars, hblanks _ t.blank_behind, hdash] at hmem

/-- **A tag in front of a brace ends in front of it.** -/
theorem StartsTag.of_append (hword : Lexer.IsWord word) (hcs : cs ≠ [])
    (h : StartsTag word (cs ++ '\x7b' :: rest)) : StartsTag word cs := by
  obtain ⟨t, more, h⟩ := h
  obtain ⟨inner, hbrace, hwrite⟩ := t.exists_write hword
  obtain ⟨c, cs, rfl⟩ := List.exists_cons_of_ne_nil hcs
  rw [hwrite, List.cons_append, List.cons.injEq] at h
  obtain ⟨rfl, h⟩ := h
  rcases List.append_eq_append_iff.1 h with ⟨excess, rfl, hexcess⟩ | ⟨more', rfl, -⟩
  · -- the tag would go on behind the text, over the brace
    cases excess with
    | nil => exact ⟨t, [], by rw [hwrite]; simp⟩
    | cons b excess =>
      rw [List.cons_append, List.cons.injEq] at hexcess
      have hmem : '\x7b' ∈ cs ++ b :: excess := by
        rw [← hexcess.1]
        simp
      exact absurd hmem hbrace
  · exact ⟨t, more', (hwrite more').symm⟩

/-- **The search for the end of a raw block finds the first tag that ends it.**  A marker that is
passed over in the body does not reach behind the body. -/
theorem findEndRaw_append {n : Nat} {r : Bool × List Char} (hn : n ≤ body.length)
    (hbody : ∀ tail, tail <:+ body → tail ≠ [] → ¬ StartsTag "endraw" tail)
    (hend : ({} : Delimiters).wordTag? "endraw" ('\x7b' :: '%' :: rest) = some r) :
    ({} : Delimiters).findEndRaw n (body ++ '\x7b' :: '%' :: rest) = some (body, r) := by
  induction body generalizing n with
  | nil =>
    obtain rfl := Nat.le_zero.1 hn
    have hmarker : Text.startsWith "\x7b%".toList ('\x7b' :: '%' :: rest) = true := rfl
    rw [List.nil_append, findEndRaw]
    dsimp only
    rw [if_pos hmarker, hend]
  | cons c body ih =>
    have hinner : ∀ m, m ≤ body.length → ({} : Delimiters).findEndRaw m
        (body ++ '\x7b' :: '%' :: rest) = some (body, r) := fun m hm =>
      ih hm fun tail htail => hbody tail (htail.trans (List.suffix_cons c body))
    cases n with
    | succ n =>
      rw [List.cons_append, findEndRaw]
      dsimp only
      rw [hinner n (by simpa using hn)]
      rfl
    | zero =>
      rw [List.cons_append, findEndRaw]
      dsimp only
      split_ifs with hmarker
      · have hnone : ({} : Delimiters).wordTag? "endraw" (c :: (body ++ '\x7b' :: '%' :: rest)) =
            none := by
          have hno := hbody (c :: body) List.suffix_rfl (by simp)
          rw [← Option.not_isSome_iff_eq_none, ← startsTag_iff isWord_endraw]
          exact fun h => hno (StartsTag.of_append isWord_endraw (by simp) h)
        have hlength : 1 ≤ body.length := by
          cases body with
          | nil => simp [Text.startsWith, Text.dropLead?] at hmarker
          | cons => simp
        rw [hnone]
        dsimp only
        have hpass : "\x7b%".toList.length - 1 = 1 := rfl
        rw [hpass, hinner 1 hlength]
        rfl
      · rw [hinner 0 (Nat.zero_le _)]
        rfl

end Delimiters

/-! ### The block as a token -/

namespace Lexer

variable {w : Whitespace} {body rest : List Char} {ts : List Token} {c : Cursor}

/-- A line break starts a text. -/
def StartsBreak (cs : List Char) : Prop := ['\n'] <+: cs ∨ ['\r', '\n'] <+: cs

instance : DecidablePred StartsBreak := fun _ => inferInstanceAs (Decidable (_ ∨ _))

/-- A tag that strips nothing, with no line break behind it, leaves the text as it is. -/
theorem leaveTag_of_not_startsBreak (h : ¬ StartsBreak c.rest) (trims : Bool) :
    leaveTag w false trims c = { cursor := c } := by
  rw [leaveTag, if_neg Bool.false_ne_true]
  split_ifs
  · split
    · next hrest => exact absurd (.inl (by simp [hrest])) h
    · next hrest => exact absurd (.inr (by simp [hrest])) h
    · rfl
  · rfl

/-- The tag that opens a raw block, with one blank on either side of its word. -/
def rawTag : List Char := "\x7b% raw %\x7d".toList

/-- The tag that ends a raw block, with one blank on either side of its word. -/
def endRawTag : List Char := "\x7b% endraw %\x7d".toList

/-- A text in which no tag starts that would end a raw block, also not with the tag behind it
that does. -/
def Verbatim (body : List Char) : Prop :=
  ∀ tail, tail <:+ body → tail ≠ [] → ¬ Delimiters.StartsTag "endraw" (tail ++ endRawTag)

/-- **A raw block is its body,** wherever it stands and whatever its body looks like. -/
theorem inText_raw (hbody : Verbatim body) (hbreak : ¬ StartsBreak rest) (h : InText w rest ts) :
    InText w (rawTag ++ (body ++ (endRawTag ++ rest))) (.text (String.ofList body) :: ts) := by
  intro c before hc
  have hopen : ({} : Delimiters).wordTag? "raw" c.rest =
      some (false, body ++ (endRawTag ++ rest)) := by
    rw [Delimiters.wordTag?_eq_some_iff Delimiters.isWord_raw, hc]
    exact ⟨.spaced, rfl, rfl⟩
  have hend : ({} : Delimiters).wordTag? "endraw" (endRawTag ++ rest) = some (false, rest) := by
    rw [Delimiters.wordTag?_eq_some_iff Delimiters.isWord_endraw]
    exact ⟨.spaced, rfl, rfl⟩
  have hfound : ({} : Delimiters).findEndRaw 0 (body ++ (endRawTag ++ rest)) =
      some (body, false, rest) :=
    Delimiters.findEndRaw_append (Nat.zero_le _)
      (fun tail htail hne hstarts => hbody tail htail hne (hstarts.append _)) hend
  have hfind : ({} : Delimiters).findTag c.rest = some (0, .block) := by
    rw [hc]
    exact findTag_marker .block _
  have hplace : (c.advanceTo rest).rest = rest := by
    refine Cursor.rest_advanceTo ?_
    rw [hc]
    exact ⟨rawTag ++ body ++ endRawTag, by simp⟩
  have hstep : stepText {} w { cursor := c } =
      .emit (.text (String.ofList body)) { cursor := c.advanceTo rest } := by
    have hleave := leaveTag_of_not_startsBreak (w := w) (hplace.symm ▸ hbreak) true
    simp only [stepText, hfind, openTag, hopen, hfound, hleave]
  rw [toEnd_text Delimiters.visible_default hfind, hstep]
  exact gives_emit before (h _ _ hplace)

end Lexer

/-! ### What a raw block renders to -/

namespace Environment

open Lexer

/-- A raw block. -/
def rawBlock (body : String) : String := "\x7b% raw %\x7d" ++ body ++ "\x7b% endraw %\x7d"

variable {env : Environment} {body text : String}

/-- A raw block and a text behind it are two texts. -/
theorem parse_rawBlock (hd : env.delimiters = {}) (hbody : Verbatim body.toList)
    (htext : ({} : Delimiters).Tagless text.toList) (hbreak : ¬ StartsBreak text.toList)
    (hlast : text.toList.getLast? ≠ some '\n') :
    env.parse (rawBlock body ++ text) = .ok (.text body :: plainTree text.toList) := by
  have hsource : (rawBlock body ++ text).toList =
      rawTag ++ (body.toList ++ (endRawTag ++ text.toList)) := by
    rw [rawBlock, String.toList_append, String.toList_append, String.toList_append,
      List.append_assoc, List.append_assoc]
    rfl
  have hends : (rawBlock body ++ text).toList.getLast? ≠ some '\n' := by
    have hend : endRawTag.getLast? = some '\x7d' := by decide
    rw [hsource, List.getLast?_append, List.getLast?_append, List.getLast?_append, hend]
    cases htail : text.toList.getLast? with
    | none => simp
    | some c =>
      rw [htail] at hlast
      simpa using hlast
  have hgives := inText_raw (w := env.whitespace) hbody hbreak (inText_last htext)
  have hscan : (scan {} env.whitespace (env.body (rawBlock body ++ text))).Gives
      (.text body :: (textRows text.toList).flatten) := by
    rw [body_eq (.inr hends), scan_eq_toEnd Delimiters.visible_default, hsource]
    simpa using hgives _ 1 rfl
  have hrows : List.Forall₂ Node.WrittenAs (.text body :: plainTree text.toList)
      ([.text body] :: textRows text.toList) := .cons (.text body) (writtenAs_textRows _)
  rw [parse, hd, Template.ofSource_of_rows hrows hscan]
  rfl

theorem renderSource_rawBlock (hd : env.delimiters = {}) (hbody : Verbatim body.toList)
    (htext : ({} : Delimiters).Tagless text.toList) (hbreak : ¬ StartsBreak text.toList)
    (hlast : text.toList.getLast? ≠ some '\n') (a : Access) :
    Evaluation.renderSource env a (rawBlock body ++ text) = pure (body ++ text) := by
  rw [Evaluation.renderSource, parse_rawBlock hd hbody htext hbreak hlast]
  dsimp only
  have htail := Segment.renderNodes_plainTree env a text.toList [] [[]]
  rw [List.append_nil, Evaluation.renderNodes, pure_bind] at htail
  simp only [Evaluation.renderTemplate, Evaluation.renderNodes, Evaluation.renderNode, htail,
    pure_bind, String.ofList_toList, String.append_empty]

/-- **Raw blocks are verbatim.**  Between the default markers and with blanks and line breaks
treated in any way, a raw block renders to its body, in any surroundings and without a look at
them: whatever the body holds, if no tag that ends a raw block starts in it.  A text behind the
block that holds no marker and neither starts nor ends with a line break is rendered as it is. -/
theorem renderSource_raw (env : Environment) (hd : env.delimiters = {}) (body : String)
    (hbody : Verbatim body.toList) (a : Access) :
    Evaluation.renderSource env a (rawBlock body) = pure body ∧
    ∀ text : String, ({} : Delimiters).Tagless text.toList → ¬ StartsBreak text.toList →
      text.toList.getLast? ≠ some '\n' →
      Evaluation.renderSource env a (rawBlock body ++ text) = pure (body ++ text) := by
  constructor
  · have htext : ({} : Delimiters).Tagless "".toList := fun kind => by
      rw [start_default]
      simp
    have hempty := renderSource_rawBlock hd hbody htext (by decide) (by simp) a
    simpa using hempty
  · exact fun text htext hbreak hlast => renderSource_rawBlock hd hbody htext hbreak hlast a

/-- Tags, comments and quotes that are not closed, tags that almost end the block, and a brace
in front of the tag that does. -/
def wildBody : String :=
  "\n\x7b\x7b x \x7b# ' \x7b% raw %\x7d\x7b%- endraw - %\x7d \x7b% endrawn %\x7d\x7b%%\x7d\x7b"

theorem renderSource_raw_wild : Verbatim wildBody.toList ∧ ∀ a : Access,
    Evaluation.renderSource {} a (rawBlock wildBody) = pure wildBody ∧
    Evaluation.renderSource {} a (rawBlock wildBody ++ " %\x7d \r") =
      pure (wildBody ++ " %\x7d \r") := by
  have htails : ∀ tail ∈ wildBody.toList.tails, tail ≠ [] →
      ¬ Delimiters.StartsTag "endraw" (tail ++ endRawTag) := by decide +kernel
  have hbody : Verbatim wildBody.toList := fun tail htail =>
    htails tail ((List.mem_tails _ _).2 htail)
  have htext : ({} : Delimiters).Tagless " %\x7d \r".toList :=
    Delimiters.inTemplate_eq_false_iff.1 (by decide +kernel)
  refine ⟨hbody, fun a => ?_⟩
  obtain ⟨hraw, hbehind⟩ := renderSource_raw {} rfl wildBody hbody a
  exact ⟨hraw, hbehind _ htext (by decide +kernel) (by decide +kernel)⟩

end Environment
end MailMerge
