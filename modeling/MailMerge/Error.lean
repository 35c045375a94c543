/-
# What can go wrong in a template

Every error is a cause; its wording is in one place, `RenderError.message`.  An
error met while a variable is rendered is wrapped in the name of that variable.

A breakdown is no error: the whole program ends with it, at once.  It takes the way of an
error out of a template, and whoever would handle errors lets it pass (`RenderError.isCrash`).
-/

import MailMerge.Template.Token
import MailMerge.Value.Basic

namespace MailMerge

/-- What an identifier was needed for. -/
inductive NameRole where
  | loopTarget | setTarget | filterName
  deriving DecidableEq, Repr

/-- The role's name. -/
def NameRole.name : NameRole → String
  | loopTarget => "loop target"
  | setTarget => "set target"
  | filterName => "filter name"

/-- How a template breaks the grammar. -/
inductive SyntaxFault where
  | unclosedComment
  | missingEndRaw
  | endInsideTag
  | unexpectedChar (c : Char)
  | unterminatedString
  | invalidNumber (digits : String)
  | integerRange (digits : String)
  | expected (wanted : Token) (got : Option Token)
  | expectedIdentifier (role : NameRole) (got : Option Token)
  | strayTag (got : Token)
  | unknownTag (got : Token)
  | unexpectedToken (got : Token)
  | expectedBranch (got : Option Token)
  | endInsideIf
  | expectedTagStart (got : Token)
  | expectedTestName (got : Option Token)
  | positionalAfterKeyword
  | expectedAttribute (got : Option Token)
  | functionCall
  | expectedExpression (got : Option Token)
  | outOfSteps
  deriving DecidableEq

/-- The wording of a fault. -/
def SyntaxFault.message : SyntaxFault → String
  | unclosedComment => "unclosed comment"
  | missingEndRaw => "missing endraw for raw block"
  | endInsideTag => "unexpected end of template inside a tag"
  | unexpectedChar c => "unexpected character '" ++ c.toString ++ "'"
  | unterminatedString => "unterminated string literal"
  | invalidNumber digits => "invalid number '" ++ digits ++ "'"
  | integerRange digits => "integer '" ++ digits ++ "' out of range"
  | expected wanted (some got) => "expected " ++ wanted.name ++ ", got " ++ got.name
  | expected wanted none => "expected " ++ wanted.name ++ ", got end of template"
  | expectedIdentifier role got =>
    "expected identifier for " ++ role.name ++ ", got " ++ Token.nameOption got
  | strayTag got => "unexpected " ++ got.name ++ " tag"
  | unknownTag got => "unknown tag " ++ got.name
  | unexpectedToken got => "unexpected " ++ got.name
  | expectedBranch got => "expected elif, else, or endif, got " ++ Token.nameOption got
  | endInsideIf => "unexpected end of template parsing if block"
  | expectedTagStart got =>
    "expected tag start for control flow, got " ++ Token.nameOption (some got)
  | expectedTestName got => "expected test name, got " ++ Token.nameOption got
  | positionalAfterKeyword => "positional argument follows keyword argument"
  | expectedAttribute got => "expected identifier after dot, got " ++ Token.nameOption got
  | functionCall => "function calls are not supported"
  | expectedExpression got => "expected expression, got " ++ Token.nameOption got
  | outOfSteps => "the template is nested too deeply"

/-- Where and how a template breaks the grammar. -/
structure SyntaxError where
  line : Nat
  fault : SyntaxFault
  deriving DecidableEq

/-- How a value is used in a way that has no meaning. -/
inductive Misuse where
  | notIterable (kind : Kind)
  | indexOutOfBounds (index : Nat)
  | indexNotInteger (index : String)
  | cannotIndex (base index : Kind)
  | integerOverflow
  | unaryOperand (kind : Kind)
  | operands (operation : String) (left right : Kind)
  | divisionByZero
  | moduloByZero
  | membership (item container : Kind)
  | cannotUnpack (kind : Kind) (targets : Nat)
  | expectedInteger (kind : Kind)
  | expectedMapping (kind : Kind)
  | missingArgument (name : String) (position : Nat)
  | noLength (kind : Kind)
  | absOperand (kind : Kind)
  | roundNumber
  | roundMethod (method : String)
  | cannotCompare (left right : Kind)
  | sumItem (kind : Kind)
  | divisibleByZero
  | pattern (pattern : String)
  | groupSelector (selector : String)
  | truthValue (text : String)
  | notBoolean (text : String)
  | detached
  | tooDeep
  deriving DecidableEq

/-- The wording of a misuse. -/
def Misuse.message : Misuse → String
  | notIterable k => k.name ++ " object is not iterable"
  | indexOutOfBounds i => "index " ++ toString i ++ " out of bounds"
  | indexNotInteger s => "index must be integer, got " ++ s
  | cannotIndex b i => "cannot index " ++ b.name ++ " with " ++ i.name
  | integerOverflow => "integer overflow"
  | unaryOperand k => "bad operand type for unary operator: " ++ k.name
  | operands op l r =>
    "unsupported operand types for " ++ op ++ ": " ++ l.name ++ " and " ++ r.name
  | divisionByZero => "division by zero"
  | moduloByZero => "modulo by zero"
  | membership i c => "cannot test membership of " ++ i.name ++ " in " ++ c.name
  | cannotUnpack k n => "cannot unpack " ++ k.name ++ " into " ++ toString n ++ " loop variables"
  | expectedInteger k => "expected an integer, got " ++ k.name
  | expectedMapping k => "expected a mapping, got " ++ k.name
  | missingArgument name i => name ++ ": missing argument " ++ toString i
  | noLength k => "object of type " ++ k.name ++ " has no length"
  | absOperand k => "bad operand type for abs(): " ++ k.name
  | roundNumber => "round: expected a number"
  | roundMethod m => "round: unknown method '" ++ m ++ "'"
  | cannotCompare l r => "cannot compare " ++ l.name ++ " with " ++ r.name
  | sumItem k => "sum: cannot add " ++ k.name
  | divisibleByZero => "divisibleby: division by zero"
  | pattern p => "invalid regular expression '" ++ p ++ "': regex parse error"
  | groupSelector s => "regex_search: unknown argument '" ++ s ++ "'"
  | truthValue s => "invalid truth value '" ++ s ++ "'"
  | notBoolean s => "'" ++ s ++ "' is not a boolean"
  | detached => "variable mapping is not attached to a render context"
  | tooDeep => "variables are nested too deeply"

/-- An error met while a template is read or rendered. -/
inductive RenderError where
  | malformed (line : Nat) (fault : SyntaxFault)
  | undefined (name : String)
  | cyclic (name : String)
  | unknownFilter (name : String)
  | unknownTest (name : String)
  | invalid (misuse : Misuse)
  | inVariable (name : String) (source : RenderError)
  /-- the breakdown over a text of `bytes` bytes that was to be copied `times` times -/
  | crash (bytes times : Nat)
  deriving DecidableEq

/-- An error of the grammar as an error of rendering. -/
def SyntaxError.toRenderError (e : SyntaxError) : RenderError := .malformed e.line e.fault

namespace RenderError

/-- The wording of an error. -/
def message : RenderError → String
  | malformed line fault => "syntax error on line " ++ toString line ++ ": " ++ fault.message
  | undefined name => "'" ++ name ++ "' is undefined"
  | cyclic name => "cyclic reference: variable '" ++ name ++ "' refers back to itself"
  | unknownFilter name => "no filter named '" ++ name ++ "'"
  | unknownTest name => "no test named '" ++ name ++ "'"
  | invalid misuse => misuse.message
  | inVariable name source => "while resolving variable '" ++ name ++ "': " ++ source.message
  | crash _ _ => "capacity overflow"

/-- The error under all the variables it was met in. -/
def rootCause : RenderError → RenderError
  | inVariable _ source => source.rootCause
  | e => e

/-- Whether it is a breakdown. -/
def isCrash (e : RenderError) : Bool :=
  match e.rootCause with
  | crash _ _ => true
  | _ => false

end RenderError

end MailMerge
