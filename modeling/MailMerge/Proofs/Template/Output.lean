/-
# Templates that output one expression

Between the default markers a source that outputs an expression is parsed as just that,
however blanks and line breaks are treated: nothing stands around the tag, and the source ends
in no line break.  For a name this holds whatever letters it is made of
(`Environment.parse_name`).
-/

import MailMerge.Proofs.Template.PlainText

namespace MailMerge

/-- What a name reads as in a template: a word that is no keyword. -/
def IsName (s : String) : Prop := Lexer.IsWord s ∧ Keyword.ofWord? s = none

instance (s : String) : Decidable (IsName s) := inferInstanceAs (Decidable (_ ∧ _))

namespace Environment

variable {env : Environment} {expr : String}

theorem toList_outputOf (hd : env.delimiters = {}) : (env.outputOf expr).toList =
    '\x7b' :: '\x7b' :: ' ' :: (expr.toList ++ [' ', '\x7d', '\x7d']) := by
  rw [outputOf, hd]
  simp only [String.toList_append, List.append_assoc]
  rfl

/-- What ends in a brace ends in no line break. -/
theorem body_outputOf (hd : env.delimiters = {}) :
    env.body (env.outputOf expr) = (env.outputOf expr).toList := by
  refine body_eq (.inr ?_)
  rw [toList_outputOf hd, show [' ', '\x7d', '\x7d'] = [' ', '\x7d'] ++ ['\x7d'] from rfl]
  simp only [← List.append_assoc, ← List.cons_append, List.getLast?_concat]
  decide

/-- **A text is parsed as one expression** if inside a tag it is cut into the tokens of one. -/
theorem parse_outputOf (hd : env.delimiters = {}) {e : Expr} {row : List Token}
    (he : e.WrittenAs row)
    (hexpr : ∀ w, Lexer.Yields w 0 (expr.toList ++ [' ', '\x7d', '\x7d'])
      (row ++ [Token.varEnd])) : env.parse (env.outputOf expr) = .ok [.output e] := by
  have hscan := Lexer.gives_scan (hexpr env.whitespace).blank
  rw [parse, body_outputOf hd, toList_outputOf hd, hd, Template.ofSource_of_gives he hscan]
  rfl

theorem parse_name (hd : env.delimiters = {}) {s : String} (hs : IsName s) :
    env.parse (env.outputOf s) = .ok [.output (.name s)] := by
  refine parse_outputOf hd (Expr.reads_name s).writtenAs fun w => ?_
  have hyields := (Lexer.Yields.finish w).word hs.1 (Lexer.breaks_blank _).1
  rwa [Lexer.wordToken, hs.2] at hyields

/-- **A template that outputs a name** looks the name up and writes out what it stands for. -/
theorem renderSource_name (hd : env.delimiters = {}) {s : String} (hs : IsName s) (a : Access) :
    Evaluation.renderSource env a (env.outputOf s) =
      a.name s >>= fun v => (v.getD (.undefined s)).output a := by
  have hname : Evaluation.name a [[]] s = (a.name s >>= fun v => pure (v.getD (.undefined s))) :=
    rfl
  rw [Evaluation.renderSource, parse_name hd hs]
  simp only [Evaluation.renderTemplate, Evaluation.renderNodes, Evaluation.renderNode,
    Evaluation.eval, hname, bind_assoc, pure_bind, String.append_empty, bind_pure]

end Environment
end MailMerge
