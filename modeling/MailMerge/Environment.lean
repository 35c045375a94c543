/-
# Environments

What all renders of a batch share: the delimiters, the treatment of whitespace,
and the values that every template can name.
-/

import MailMerge.Template.Parser
import MailMerge.Value.Order

namespace MailMerge

/-- The settings of a template engine.  `probes` are the names of filters that return their
input and count the use, which makes visible how often a template is rendered. -/
structure Environment where
  delimiters : Delimiters := {}
  whitespace : Whitespace := {}
  keepTrailingNewline : Bool := false
  globals : Dict Value := []
  probes : List String := []

namespace Environment

/-- A source without the line break it ends in. -/
def dropFinalBreak (cs : List Char) : List Char :=
  match Text.dropTail? ['\r', '\n'] cs with
  | some body => body
  | none => (Text.dropTail? ['\n'] cs).getD cs

/-- The source that is parsed: without its last line break, unless that is to be kept. -/
def body (env : Environment) (source : String) : List Char :=
  if env.keepTrailingNewline then source.toList else dropFinalBreak source.toList

/-- Parses a source. -/
def parse (env : Environment) (source : String) : Except RenderError Template :=
  (Template.ofSource env.delimiters env.whitespace (env.body source)).mapError
    SyntaxError.toRenderError

/-- Whether a text can be a template. -/
def inTemplate (env : Environment) (s : String) : Bool := env.delimiters.inTemplate s

end Environment

end MailMerge
