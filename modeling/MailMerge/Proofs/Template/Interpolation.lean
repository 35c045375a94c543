/-
# Templates put together from segments

A template of texts, variable tags and comments renders segment by segment: the texts as they
are, for each tag what its name stands for, nothing for a comment.  Texts next to each other,
and texts around a comment that is dropped, are one token to the lexer or two; the output is the
same.  The lexer finds each marker where it was put, because a text holds no marker and does not
end in the brace that would make one with what follows (`Text.Clear`).
-/

import MailMerge.Proofs.Context.Order
import MailMerge.Proofs.Reading.Expansion
import MailMerge.Proofs.Template.Output
import MailMerge.Proofs.Template.PlainText
import MailMerge.Proofs.Template.Whitespace

namespace MailMerge

namespace Text

variable {a b x : Char} {cs ds : List Char}

/-- A text in which a pair of characters does not occur, nor begins at its end. -/
def Clear (a b : Char) (cs : List Char) : Prop := ¬ [a, b] <:+: cs ∧ cs.getLast? ≠ some a

theorem clear_nil (a b : Char) : Clear a b [] := by simp [Clear]

theorem Clear.tail (h : Clear a b (x :: cs)) : Clear a b cs := by
  refine ⟨fun hin => h.1 (hin.trans (List.suffix_cons x cs).isInfix), fun hlast => h.2 ?_⟩
  rw [List.getLast?_cons, hlast]
  rfl

/-- Whatever follows a clear text, the pair does not begin in it. -/
theorem Clear.notAhead (h : Clear a b (x :: cs)) (rest : List Char) :
    ¬ [a, b] <+: x :: (cs ++ rest) := by
  intro hp
  obtain ⟨rfl, hb⟩ := List.cons_prefix_cons.1 hp
  cases cs with
  | nil => exact h.2 rfl
  | cons y cs =>
    obtain ⟨rfl, -⟩ := List.cons_prefix_cons.1 hb
    exact h.1 ⟨[], cs, rfl⟩

theorem Clear.append (hcs : Clear a b cs) (hds : Clear a b ds) : Clear a b (cs ++ ds) := by
  induction cs with
  | nil => exact hds
  | cons x cs ih =>
    obtain ⟨hin, hlast⟩ := ih hcs.tail
    refine ⟨fun h => ?_, ?_⟩
    · obtain h | h := List.infix_cons_iff.1 h
      · exact hcs.notAhead ds h
      · exact hin h
    · cases hds' : ds with
      | nil =>
        rw [List.append_nil]
        exact hcs.2
      | cons y ds =>
        rw [← hds', List.getLast?_append_of_ne_nil _ (by simp [hds'])]
        exact hds.2

/-- Blanks around a text without a pair leave it so, and end no pair. -/
theorem clear_padded (ha : a ≠ ' ') (hb : b ≠ ' ') (h : contains [a, b] cs = false) :
    Clear a b (' ' :: cs ++ [' ']) := by
  rw [← Bool.not_eq_true, contains_iff_infix] at h
  refine ⟨fun hin => ?_, fun hlast => ?_⟩
  on_goal 2 => exact ha (Option.some.inj (List.getLast?_concat.symm.trans hlast)).symm
  obtain hp | hin := List.infix_cons_iff.1 hin
  · exact ha (List.cons_prefix_cons.1 hp).1
  · obtain hs | hin := List.infix_concat_iff.1 hin
    · have hlast := hs.getLast (List.cons_ne_nil a [b])
      rw [List.getLast_concat] at hlast
      exact hb (by simpa using hlast)
    · exact h hin

/-- A clear text is what precedes the first pair. -/
theorem splitAround?_of_clear (h : Clear a b cs) (rest : List Char) :
    splitAround? [a, b] (cs ++ a :: b :: rest) = some (cs, rest) := by
  induction cs with
  | nil => simp [splitAround?, dropLead?]
  | cons x cs ih =>
    have hnone : dropLead? [a, b] (x :: (cs ++ a :: b :: rest)) = none := by
      refine Option.eq_none_iff_forall_ne_some.2 fun r hr => ?_
      exact h.notAhead (a :: b :: rest) ⟨r, (dropLead?_eq_some.1 hr).symm⟩
    rw [List.cons_append, splitAround?, hnone]
    dsimp only
    rw [ih h.tail]
    rfl

end Text

/-! ### Text in front of a tag -/

namespace Lexer

variable {w : Whitespace} {cs rest : List Char} {ts : List Token}

/-- A text in which no tag starts, whatever follows it. -/
def Quiet (cs : List Char) : Prop :=
  ({} : Delimiters).Tagless cs ∧ cs.getLast? ≠ some '\x7b'

/-- The second character of the marker that starts a tag of a kind. -/
def second : TagKind → Char
  | .variable => '\x7b'
  | .block => '%'
  | .comment => '#'

theorem start_default (kind : TagKind) : ({} : Delimiters).start kind = ['\x7b', second kind] := by
  cases kind <;> rfl

theorem quiet_iff : Quiet cs ↔ ∀ kind, Text.Clear '\x7b' (second kind) cs := by
  simp only [Quiet, Delimiters.Tagless, start_default, Text.Clear, forall_and]
  exact ⟨fun h => ⟨h.1, fun _ => h.2⟩, fun h => ⟨h.1, h.2 .variable⟩⟩

/-- Behind a quiet text the first tag is the first one of what follows. -/
theorem findTag_append (h : Quiet cs) (rest : List Char) : ({} : Delimiters).findTag (cs ++ rest) =
    (({} : Delimiters).findTag rest).map fun (n, kind) => (cs.length + n, kind) := by
  rw [quiet_iff] at h
  induction cs with
  | nil => simp
  | cons x cs ih =>
    have hat : ({} : Delimiters).tagAt (x :: (cs ++ rest)) = none :=
      Delimiters.tagAt_eq_none fun kind => by
        rw [start_default]
        exact (h kind).notAhead rest
    rw [List.cons_append, Delimiters.findTag, hat]
    dsimp only
    rw [ih fun kind => (h kind).tail]
    cases ({} : Delimiters).findTag rest with
    | none => rfl
    | some r => simp [Nat.add_right_comm]

/-- The row of a text, none if it is empty. -/
def textRows (cs : List Char) : List (List Token) :=
  if cs = [] then [] else [[.text (String.ofList cs)]]

theorem writtenAs_textRows (cs : List Char) :
    List.Forall₂ Node.WrittenAs (plainTree cs) (textRows cs) := by
  unfold plainTree textRows
  split_ifs
  · exact .nil
  · exact .cons (.text _) .nil

/-- **A text up to the end of the source.** -/
theorem inText_last (h : ({} : Delimiters).Tagless cs) :
    InText w cs (textRows cs).flatten := by
  unfold textRows
  split_ifs with hempty
  · rw [hempty]
    exact inText_nil w
  · intro c before hc
    have hstep : step {} w { cursor := c } =
        .emit (.text (String.ofList cs)) { cursor := c.advance cs.length } := by
      simp only [step, stepText, hc, Delimiters.findTag_eq_none h, emitText,
        List.isEmpty_eq_false_iff.2 hempty, Bool.false_eq_true, if_false]
    rw [toEnd_eq Delimiters.visible_default, hstep]
    refine gives_emit before (inText_nil w _ _ ?_)
    rw [Cursor.rest_advance, hc, List.drop_length]

/-- The marker of a tag is found where it stands. -/
theorem findTag_marker (kind : TagKind) (rest : List Char) :
    ({} : Delimiters).findTag ('\x7b' :: second kind :: rest) = some (0, kind) := by
  cases kind <;> rfl

/-- **A text in front of a tag** that starts with a marker and a blank. -/
theorem inText_text (kind : TagKind) (h : Quiet cs) (hw : w.lstripBlocks = false)
    (hrest : InText w ('\x7b' :: second kind :: ' ' :: rest) ts) :
    InText w (cs ++ '\x7b' :: second kind :: ' ' :: rest) ((textRows cs).flatten ++ ts) := by
  unfold textRows
  split_ifs with hempty
  · rw [hempty]
    exact hrest
  · intro c before hc
    obtain ⟨n, hn⟩ := Nat.exists_eq_add_one.2 (List.length_pos_iff.2 hempty)
    have hfind : ({} : Delimiters).findTag c.rest = some (n + 1, kind) := by
      rw [hc, findTag_append h, findTag_marker, ← hn]
      rfl
    have hnext : (c.advance (n + 1)).rest = '\x7b' :: second kind :: ' ' :: rest := by
      rw [Cursor.rest_advance, hc, ← hn, List.drop_left]
    have hbefore : c.rest.take (n + 1) = cs := by rw [hc, ← hn, List.take_left]
    have hstep : stepText {} w { cursor := c } =
        .emit (.text (String.ofList cs)) { cursor := c.advance (n + 1) } := by
      have hafter : ('\x7b' :: second kind :: ' ' :: rest).drop
          (({} : Delimiters).start kind).length = ' ' :: rest := by rw [start_default]; rfl
      simp only [stepText, hfind, hbefore, hnext, hafter, hw, emitText, Bool.false_and,
        Bool.false_eq_true, if_false]
      exact if_neg (by simpa using hempty)
    rw [toEnd_text Delimiters.visible_default hfind, hstep]
    exact gives_emit before (hrest _ _ hnext)

/-- **A comment is dropped,** with what it says. -/
theorem inText_comment {body : List Char} (hbody : Text.contains ['#', '\x7d'] body = false)
    (hw : w.trimBlocks = false) (h : InText w rest ts) :
    InText w ('\x7b' :: '#' :: ' ' :: (body ++ ' ' :: '#' :: '\x7d' :: rest)) ts := by
  intro c before hc
  have hinner : (c.advance 2).rest = (' ' :: body ++ [' ']) ++ '#' :: '\x7d' :: rest := by
    rw [Cursor.rest_advance, hc]
    simp
  have hsplit : Text.splitAround? ({} : Delimiters).commentEnd.toList (c.advance 2).rest =
      some (' ' :: body ++ [' '], rest) := by
    rw [hinner]
    exact Text.splitAround?_of_clear (Text.clear_padded (by decide) (by decide) hbody) rest
  have hfind : ({} : Delimiters).findTag c.rest = some (0, .comment) := by
    rw [hc]
    exact findTag_marker .comment _
  have hlength : (({} : Delimiters).start .comment).length = 2 := rfl
  have hstep : stepText {} w { cursor := c } =
      .skip { cursor := (c.advance 2).advanceTo rest } := by
    simp only [stepText, hfind, openTag, hlength, hsplit, List.getLast?_concat, leaveTag, hw]
    rfl
  rw [toEnd_text Delimiters.visible_default hfind, hstep]
  refine h _ _ (Cursor.rest_advanceTo ?_)
  rw [hinner]
  exact ⟨' ' :: body ++ [' ', '#', '\x7d'], by simp⟩

end Lexer

/-! ### Segments -/

/-- A piece of a template. -/
inductive Segment where
  | text (s : String)
  | tag (name : String)
  | comment (body : String)
  deriving DecidableEq, Repr

namespace Segment

/-- How a segment is written. -/
def source : Segment → String
  | text s => s
  | tag name => "\x7b\x7b " ++ name ++ " \x7d\x7d"
  | comment body => "\x7b# " ++ body ++ " #\x7d"

/-- A segment that ends where it seems to: a text that starts no tag, a name, a comment that its
end marker ends. -/
def Fits : Segment → Prop
  | text s => ({} : Delimiters).inTemplate s = false ∧ s.toList.getLast? ≠ some '\x7b'
  | tag name => IsName name
  | comment body => Text.contains ['#', '\x7d'] body.toList = false

instance : DecidablePred Fits
  | text _ => inferInstanceAs (Decidable (_ ∧ _))
  | tag name => inferInstanceAs (Decidable (IsName name))
  | comment _ => inferInstanceAs (Decidable (_ = false))

/-- What a segment is rendered to. -/
def render (a : Access) : Segment → Read String
  | text s => pure s
  | tag name => do ((← a.name name).getD (.undefined name)).output a
  | comment _ => pure ""

/-- What a segment is rendered to with names from a plain mapping. -/
def renderWith (values : Dict Value) : Segment → Except RenderError String
  | text s => .ok s
  | tag name => Finish.result
      (((Dict.find? values name).getD (.undefined name)).output (Reading.plain values) {})
  | comment _ => .ok ""

/-- The nodes of a row of segments behind a text. -/
def nodesFrom (pending : List Char) : List Segment → Template
  | [] => Lexer.plainTree pending
  | text s :: rest => nodesFrom (pending ++ s.toList) rest
  | tag name :: rest => Lexer.plainTree pending ++ .output (.name name) :: nodesFrom [] rest
  | comment _ :: rest => Lexer.plainTree pending ++ nodesFrom [] rest

variable {pending : List Char} {segs : List Segment} {w : Whitespace} {env : Environment}

open Lexer in
/-- **Segments are cut into the tokens of their nodes.**  The text that is pending when a tag or
comment starts is one token. -/
theorem inText_segments (htrim : w.trimBlocks = false) (hstrip : w.lstripBlocks = false)
    (hsegs : ∀ seg ∈ segs, seg.Fits) (hpending : Quiet pending) :
    ∃ rows, List.Forall₂ Node.WrittenAs (nodesFrom pending segs) rows ∧
      InText w (pending ++ segs.flatMap (fun seg => seg.source.toList)) rows.flatten := by
  induction segs generalizing pending with
  | nil =>
    refine ⟨textRows pending, writtenAs_textRows pending, ?_⟩
    rw [List.flatMap_nil, List.append_nil]
    exact inText_last hpending.1
  | cons seg rest ih =>
    rw [List.forall_mem_cons] at hsegs
    have hnil : Quiet [] := quiet_iff.2 fun kind => Text.clear_nil _ _
    cases seg with
    | text s =>
      obtain ⟨htag, hlast⟩ := hsegs.1
      have hs : Quiet s.toList := ⟨Delimiters.inTemplate_eq_false_iff.1 htag, hlast⟩
      rw [quiet_iff] at hpending hs
      obtain ⟨rows, hrows, htext⟩ := ih hsegs.2
        (quiet_iff.2 fun kind => (hpending kind).append (hs kind))
      refine ⟨rows, hrows, ?_⟩
      rwa [List.append_assoc] at htext
    | tag name =>
      obtain ⟨rows, hrows, htext⟩ := ih hsegs.2 hnil
      have hyields := (Yields.ended htext).word hsegs.1.1 (breaks_blank _).1
      rw [wordToken, hsegs.1.2] at hyields
      have hopened := inText_text .variable hpending hstrip (inText_opened hyields.blank)
      refine ⟨_, List.rel_append (writtenAs_textRows pending)
        (.cons (.output (Expr.reads_name name).writtenAs) hrows), ?_⟩
      have hsource : pending ++ (tag name :: rest).flatMap (fun seg => seg.source.toList) =
          pending ++ '\x7b' :: '\x7b' :: ' ' :: (name.toList ++ ' ' :: '\x7d' :: '\x7d' ::
            ([] ++ rest.flatMap (fun seg => seg.source.toList))) := by
        simp only [List.flatMap_cons, source, String.toList_append, List.append_assoc]
        rfl
      rw [hsource, List.flatten_append]
      exact hopened
    | comment body =>
      obtain ⟨rows, hrows, htext⟩ := ih hsegs.2 hnil
      have hcomment := inText_text .comment hpending hstrip
        (inText_comment hsegs.1 htrim htext)
      refine ⟨_, List.rel_append (writtenAs_textRows pending) hrows, ?_⟩
      have hsource : pending ++ (comment body :: rest).flatMap (fun seg => seg.source.toList) =
          pending ++ '\x7b' :: '#' :: ' ' :: (body.toList ++ ' ' :: '#' :: '\x7d' ::
            ([] ++ rest.flatMap (fun seg => seg.source.toList))) := by
        simp only [List.flatMap_cons, source, String.toList_append, List.append_assoc]
        rfl
      rw [hsource, List.flatten_append]
      exact hcomment

/-! ### What they are rendered to -/

/-- A pending text is written out in front. -/
theorem renderNodes_plainTree (env : Environment) (a : Access) (pending : List Char)
    (tree : Template) (scopes : Scopes) :
    Evaluation.renderNodes env a (Lexer.plainTree pending ++ tree) scopes =
      (do let (more, scopes) ← Evaluation.renderNodes env a tree scopes
          return (String.ofList pending ++ more, scopes) : Read (String × Scopes)) := by
  unfold Lexer.plainTree
  split_ifs with hempty
  · rw [hempty, List.nil_append]
    simp
  · rw [List.singleton_append, Evaluation.renderNodes, Evaluation.renderNode, pure_bind]

/-- **Segments are rendered one after the other.** -/
theorem renderNodes_nodesFrom (a : Access) (segs : List Segment) (pending : List Char) :
    Evaluation.renderNodes env a (nodesFrom pending segs) [[]] =
      (do let parts ← segs.mapM (render a)
          return (String.ofList pending ++ String.join parts, [[]]) : Read (String × Scopes)) := by
  induction segs generalizing pending with
  | nil =>
    have h := renderNodes_plainTree env a pending [] [[]]
    rw [List.append_nil, Evaluation.renderNodes, pure_bind] at h
    rw [nodesFrom, h, List.mapM_nil, pure_bind]
    rfl
  | cons seg rest ih =>
    cases seg with
    | text s =>
      rw [nodesFrom, ih]
      simp only [List.mapM_cons, render, pure_bind, bind_assoc, String.join_cons,
        String.ofList_append, String.ofList_toList, String.append_assoc]
    | tag name =>
      have hname : Evaluation.name a [[]] name =
          (a.name name >>= fun v => pure (v.getD (.undefined name))) := rfl
      rw [nodesFrom, renderNodes_plainTree, Evaluation.renderNodes]
      simp only [Evaluation.renderNode, Evaluation.eval, hname, List.mapM_cons, render, pure_bind,
        bind_assoc, String.join_cons, ih]
      rfl
    | comment body =>
      rw [nodesFrom, renderNodes_plainTree, ih]
      simp only [List.mapM_cons, render, pure_bind, bind_assoc, String.join_cons]

/-- **A template of segments, in any surroundings.** -/
theorem renderSource_segments (hd : env.delimiters = {}) (htrim : env.whitespace.trimBlocks = false)
    (hstrip : env.whitespace.lstripBlocks = false) (hkeep : env.keepTrailingNewline = true)
    (hsegs : ∀ seg ∈ segs, seg.Fits) (a : Access) :
    Evaluation.renderSource env a (String.join (segs.map source)) =
      String.join <$> segs.mapM (render a) := by
  have hbody : env.body (String.join (segs.map source)) =
      segs.flatMap fun seg => seg.source.toList := by
    rw [Environment.body_eq (.inl hkeep), String.toList_join, List.flatMap_map]
  obtain ⟨rows, hrows, htext⟩ := inText_segments htrim hstrip hsegs
    (Lexer.quiet_iff.2 fun kind => Text.clear_nil _ _)
  have hscan : (Lexer.scan {} env.whitespace (env.body (String.join (segs.map source)))).Gives
      rows.flatten := by
    rw [hbody, Lexer.scan_eq_toEnd Delimiters.visible_default]
    exact htext _ 1 rfl
  rw [Evaluation.renderSource, Environment.parse, hd, Template.ofSource_of_rows hrows hscan]
  change Evaluation.renderTemplate env a (nodesFrom [] segs) = _
  rw [Evaluation.renderTemplate, renderNodes_nodesFrom]
  simp only [bind_assoc, pure_bind, map_eq_pure_bind, String.ofList_nil, String.empty_append]

/-! ### With names from a plain mapping -/

theorem gives_render (values : Dict Value) (seg : Segment) :
    Read.Gives (seg.render (Reading.plain values)) (seg.renderWith values) := by
  cases seg with
  | tag name => exact (Read.gives_pure _).bind_ok (Value.gives_output_plain values _)
  | _ => exact Read.gives_pure _

/-- The first failure ends a row of computations. -/
theorem mapM_renderWith_error {values : Dict Value} {before after : List Segment} {seg : Segment}
    {e : RenderError} (hbefore : ∀ s ∈ before, ∃ t, s.renderWith values = .ok t)
    (hseg : seg.renderWith values = .error e) :
    (before ++ seg :: after).mapM (renderWith values) = .error e := by
  induction before with
  | nil =>
    rw [List.nil_append, List.mapM_cons, hseg]
    rfl
  | cons s before ih =>
    rw [List.forall_mem_cons] at hbefore
    obtain ⟨t, ht⟩ := hbefore.1
    rw [List.cons_append, List.mapM_cons, ht, ih hbefore.2]
    rfl

/-- **Interpolation.**  Between the default markers, with blanks and line breaks left as they
are, a template put together from texts, names and comments renders to what its segments render
to, in this order: the texts, what the values of the names write out, and nothing for comments.
If a name's value cannot be written out, as an undefined one, the first such error is the
result. -/
theorem renderWith_segments (env : Environment) (hd : env.delimiters = {})
    (htrim : env.whitespace.trimBlocks = false) (hstrip : env.whitespace.lstripBlocks = false)
    (hkeep : env.keepTrailingNewline = true) (segs : List Segment) (hsegs : ∀ seg ∈ segs, seg.Fits)
    (values : Dict Value) :
    env.renderWith values (String.join (segs.map source)) =
      String.join <$> segs.mapM (renderWith values) ∧
    ∀ before seg after e, segs = before ++ seg :: after →
      (∀ s ∈ before, ∃ t, s.renderWith values = .ok t) → seg.renderWith values = .error e →
      env.renderWith values (String.join (segs.map source)) = .error e := by
  have hparts : Read.Gives (segs.mapM (render (Reading.plain values)))
      (segs.mapM (renderWith values)) := .mapM fun seg _ => gives_render values seg
  have hgives := hparts.map String.join
  rw [← renderSource_segments hd htrim hstrip hkeep hsegs] at hgives
  have hrender : env.renderWith values (String.join (segs.map source)) =
      String.join <$> segs.mapM (renderWith values) := by
    rw [Environment.renderWith, Context.run_result]
    exact hgives {}
  refine ⟨hrender, ?_⟩
  rintro before seg after e rfl hbefore hseg
  rw [hrender, mapM_renderWith_error hbefore hseg]
  rfl

/-- An environment that leaves blanks and line breaks as they are. -/
def verbatim : Environment :=
  { whitespace := { trimBlocks := false, lstripBlocks := false }, keepTrailingNewline := true }

/-- Tags and comments next to each other, braces in the text around them, and blanks where the
treatment of them could slip from one tag to the next. -/
def letter : List Segment :=
  [.comment "- a tag: \x7b\x7b x", .text "\n \x7b ", .text "to", .tag "_who", .tag "n2",
    .text " \x7d\x7d\n", .comment "", .text "  -\n"]

theorem renderWith_letter : (∀ seg ∈ letter, seg.Fits) ∧
    verbatim.renderWith [("_who", .str " A "), ("n2", .list [.int 3])]
      (String.join (letter.map source)) = .ok "\n \x7b to A [3] \x7d\x7d\n  -\n" ∧
    verbatim.renderWith [("_who", .str " A ")] (String.join (letter.map source)) =
      .error (.undefined "n2") := by
  have hfits : ∀ seg ∈ letter, seg.Fits := by decide
  have hrender := renderWith_segments verbatim rfl rfl rfl rfl letter hfits
  refine ⟨hfits, (hrender _).1.trans ?_, (hrender _).1.trans ?_⟩
  · decide +kernel
  · decide +kernel

end Segment
end MailMerge
