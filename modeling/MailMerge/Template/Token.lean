/-
# Tokens

A template is cut into text and the tokens of its tags.  `Token.name` is the form
in which messages about syntax mention a token.
-/

import MailMerge.Text.Quoted
import MailMerge.Number.Text

namespace MailMerge

/-- The reserved words of tags. -/
inductive Keyword where
  | ifTag | elifTag | elseTag | endIfTag | forTag | inWord | endForTag | setTag
  | andWord | orWord | notWord | isWord | trueWord | falseWord | noneWord
  deriving DecidableEq, Repr

/-- The signs of tags. -/
inductive Sign where
  | eqEq | notEq | lt | ltEq | gt | gtEq | plus | minus | star | slash | slashSlash | percent
  | tilde | pipe | assign | comma | colon | dot
  | lBracket | rBracket | lParen | rParen | lBrace | rBrace
  deriving DecidableEq, Repr

/-- A token: text outside tags, the ends of tags, and what stands inside them. -/
inductive Token where
  | text (s : String)
  | blockStart
  | blockEnd
  | varStart
  | varEnd
  | keyword (k : Keyword)
  | sign (s : Sign)
  | ident (name : String)
  | str (s : String)
  | int (n : Int64)
  | float (x : Float)
  deriving DecidableEq

namespace Keyword

/-- The word of the template language that is a keyword in this spelling, if any.
The constants can also be written with a capital. -/
def ofWord? : String → Option Keyword
  | "if" => some ifTag
  | "elif" => some elifTag
  | "else" => some elseTag
  | "endif" => some endIfTag
  | "for" => some forTag
  | "in" => some inWord
  | "endfor" => some endForTag
  | "set" => some setTag
  | "and" => some andWord
  | "or" => some orWord
  | "not" => some notWord
  | "is" => some isWord
  | "true" => some trueWord
  | "True" => some trueWord
  | "false" => some falseWord
  | "False" => some falseWord
  | "none" => some noneWord
  | "None" => some noneWord
  | _ => none

/-- The keyword as messages name it. -/
def name : Keyword → String
  | ifTag => "If"
  | elifTag => "Elif"
  | elseTag => "Else"
  | endIfTag => "EndIf"
  | forTag => "For"
  | inWord => "In"
  | endForTag => "EndFor"
  | setTag => "Set"
  | andWord => "And"
  | orWord => "Or"
  | notWord => "Not"
  | isWord => "Is"
  | trueWord => "True"
  | falseWord => "False"
  | noneWord => "None"

end Keyword

namespace Sign

/-- The sign as messages name it. -/
def name : Sign → String
  | eqEq => "EqEq"
  | notEq => "NotEq"
  | lt => "Lt"
  | ltEq => "LtEq"
  | gt => "Gt"
  | gtEq => "GtEq"
  | plus => "Plus"
  | minus => "Minus"
  | star => "Star"
  | slash => "Slash"
  | slashSlash => "SlashSlash"
  | percent => "Percent"
  | tilde => "Tilde"
  | pipe => "Pipe"
  | assign => "Assign"
  | comma => "Comma"
  | colon => "Colon"
  | dot => "Dot"
  | lBracket => "LBracket"
  | rBracket => "RBracket"
  | lParen => "LParen"
  | rParen => "RParen"
  | lBrace => "LBrace"
  | rBrace => "RBrace"

end Sign

namespace Token

/-- The token as messages name it: its kind, and in parentheses what it carries. -/
def name : Token → String
  | text s => "Text(" ++ Text.quoted s ++ ")"
  | blockStart => "BlockStart"
  | blockEnd => "BlockEnd"
  | varStart => "VarStart"
  | varEnd => "VarEnd"
  | keyword k => k.name
  | sign s => s.name
  | ident s => "Ident(" ++ Text.quoted s ++ ")"
  | str s => "StringLit(" ++ Text.quoted s ++ ")"
  | int n => "Int(" ++ toString n.toInt ++ ")"
  | float x => "Float(" ++ Number.floatTokenText x ++ ")"

/-- A token that may be missing, as messages name it. -/
def nameOption : Option Token → String
  | some t => "Some(" ++ t.name ++ ")"
  | none => "None"

end Token

end MailMerge
