/-
# Delimiters

The six markers that set tags apart from text, and the quick test whether a text
can be a template at all: it holds a marker that starts a tag.
-/

import MailMerge.Text.Basic

namespace MailMerge

/-- The markers around blocks, variables and comments. -/
structure Delimiters where
  blockStart : String := "\x7b%"
  blockEnd : String := "%\x7d"
  variableStart : String := "\x7b\x7b"
  variableEnd : String := "\x7d\x7d"
  commentStart : String := "\x7b#"
  commentEnd : String := "#\x7d"
  deriving DecidableEq, Repr

namespace Delimiters

/-- Whether a text holds a marker that starts a tag. -/
def inTemplate (d : Delimiters) (s : String) : Bool :=
  Text.contains d.blockStart.toList s.toList ||
    Text.contains d.variableStart.toList s.toList ||
    Text.contains d.commentStart.toList s.toList

end Delimiters

end MailMerge
