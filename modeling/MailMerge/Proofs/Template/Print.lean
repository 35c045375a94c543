/-
# Expressions as text

An expression is written as tokens with a blank between neighbours, and with parentheses
around a part only if its level is looser than its place asks for.

| level | written | places inside ask for |
| --- | --- | --- |
| conditional | `v if c else o` | disjunction, disjunction, conditional |
| disjunction | `l or r` | disjunction, conjunction |
| conjunction | `l and r` | conjunction, negation |
| negation | `not e` | negation |
| comparison | `l == r`, `l not in r`, `e is not t ( a )` | comparison, sum |
| sum | `l + r`, `l - r` | sum, join |
| join | `l ~ r` | join, product |
| product | `l * r`, `l // r` | product, filtered |
| filtered | `e \| f ( a , k = b )` | filtered |
| signed | `- e`, `+ e` | signed |
| suffixed | `e . k`, `e [ i ]` | suffixed, conditional |
| primary | literals, names, `[ a , b ]` | conditional |

Items, entries, arguments and subscripts stand between brackets and may be of any level.
-/

import MailMerge.Proofs.Template.Parts
import MailMerge.Template.Lexer

namespace MailMerge

/-! ### Levels -/

namespace Expr

/-- The levels of expressions, from the loosest to the tightest. -/
inductive Level where
  | conditional | disjunction | conjunction | negation | comparison | sum | join | product
  | filtered | signed | suffixed | primary
  deriving DecidableEq, Repr

namespace Level

/-- The levels counted from the loosest one. -/
def rank : Level → Nat
  | conditional => 1
  | disjunction => 2
  | conjunction => 3
  | negation => 4
  | comparison => 5
  | sum => 6
  | join => 7
  | product => 8
  | filtered => 9
  | signed => 10
  | suffixed => 11
  | primary => 12

/-- The next tighter level. -/
def tighter : Level → Level
  | conditional => disjunction
  | disjunction => conjunction
  | conjunction => negation
  | negation => comparison
  | comparison => sum
  | sum => join
  | join => product
  | product => filtered
  | filtered => signed
  | signed => suffixed
  | suffixed => primary
  | primary => primary

end Level
end Expr

namespace BinaryOp

/-- The level of an operator. -/
def level : BinaryOp → Expr.Level
  | add => .sum
  | sub => .sum
  | mul => .product
  | div => .product
  | floorDiv => .product
  | mod => .product
  | concat => .join
  | _ => .comparison

/-- An operator as it is written. -/
def tokens : BinaryOp → List Token
  | eq => [.sign .eqEq]
  | ne => [.sign .notEq]
  | lt => [.sign .lt]
  | le => [.sign .ltEq]
  | gt => [.sign .gt]
  | ge => [.sign .gtEq]
  | isIn => [.keyword .inWord]
  | notIn => [.keyword .notWord, .keyword .inWord]
  | add => [.sign .plus]
  | sub => [.sign .minus]
  | mul => [.sign .star]
  | div => [.sign .slash]
  | floorDiv => [.sign .slashSlash]
  | mod => [.sign .percent]
  | concat => [.sign .tilde]

end BinaryOp

/-! ### Rows of tokens -/

/-- Rows one after the other, with a comma between neighbours. -/
def commas (rows : List (List Token)) : List Token := List.intercalate [.sign .comma] rows

/-- The arguments of a filter or test, which may have none. -/
def argumentTokens (rows : List (List Token)) : List Token :=
  if rows.isEmpty then [] else .sign .lParen :: commas rows ++ [.sign .rParen]

namespace Expr

/-- The level of an expression. -/
def level : Expr → Level
  | cond _ _ _ => .conditional
  | or _ _ => .disjunction
  | and _ _ => .conjunction
  | not _ => .negation
  | test _ _ _ _ _ => .comparison
  | binary op _ _ => op.level
  | filter _ _ _ _ => .filtered
  | neg _ => .signed
  | pos _ => .signed
  | attr _ _ => .suffixed
  | index _ _ => .suffixed
  | _ => .primary

/-- An expression in a place that asks for a level, in parentheses if it is looser. -/
def within (k : Level) (e : Expr) (ts : List Token) : List Token :=
  if e.level.rank < k.rank then .sign .lParen :: ts ++ [.sign .rParen] else ts

mutual

/-- An expression as a row of tokens. -/
def tokens : Expr → List Token
  | str s => [.str s]
  | int n => [.int n]
  | float x => [.float x]
  | bool true => [.keyword .trueWord]
  | bool false => [.keyword .falseWord]
  | null => [.keyword .noneWord]
  | name s => [.ident s]
  | list items => .sign .lBracket :: commas (itemRows items) ++ [.sign .rBracket]
  | dict pairs => .sign .lBrace :: commas (pairRows pairs) ++ [.sign .rBrace]
  | attr base key => within .suffixed base (tokens base) ++ [.sign .dot, .ident key]
  | index base subscript =>
    within .suffixed base (tokens base) ++
      .sign .lBracket :: (tokens subscript ++ [.sign .rBracket])
  | neg e => .sign .minus :: within .signed e (tokens e)
  | pos e => .sign .plus :: within .signed e (tokens e)
  | filter subject label args kwargs =>
    within .filtered subject (tokens subject) ++
      .sign .pipe :: .ident label :: argumentTokens (itemRows args ++ namedRows kwargs)
  | binary op left right =>
    within op.level left (tokens left) ++
      (op.tokens ++ within op.level.tighter right (tokens right))
  | test subject label args kwargs negated =>
    within .comparison subject (tokens subject) ++ .keyword .isWord ::
      ((if negated then [.keyword .notWord] else []) ++
        .ident label :: argumentTokens (itemRows args ++ namedRows kwargs))
  | not e => .keyword .notWord :: within .negation e (tokens e)
  | and left right =>
    within .conjunction left (tokens left) ++
      .keyword .andWord :: within .negation right (tokens right)
  | or left right =>
    within .disjunction left (tokens left) ++
      .keyword .orWord :: within .conjunction right (tokens right)
  | cond value condition otherwise =>
    within .disjunction value (tokens value) ++
      .keyword .ifTag :: (within .disjunction condition (tokens condition) ++
        elseTokens otherwise)

/-- Every expression of a list as a row of tokens. -/
def itemRows : List Expr → List (List Token)
  | [] => []
  | e :: rest => tokens e :: itemRows rest

/-- Every entry of a mapping as a row of tokens. -/
def pairRows : List (Expr × Expr) → List (List Token)
  | [] => []
  | (key, value) :: rest => (tokens key ++ .sign .colon :: tokens value) :: pairRows rest

/-- Every argument by name as a row of tokens. -/
def namedRows : List (String × Expr) → List (List Token)
  | [] => []
  | (key, value) :: rest => (.ident key :: .sign .assign :: tokens value) :: namedRows rest

/-- What follows the condition of a conditional expression. -/
def elseTokens : Option Expr → List Token
  | none => []
  | some e => .keyword .elseTag :: tokens e

end

end Expr

/-! ### Spelling -/

/-- The keyword as it is written. -/
def Keyword.word : Keyword → String
  | ifTag => "if"
  | elifTag => "elif"
  | elseTag => "else"
  | endIfTag => "endif"
  | forTag => "for"
  | inWord => "in"
  | endForTag => "endfor"
  | setTag => "set"
  | andWord => "and"
  | orWord => "or"
  | notWord => "not"
  | isWord => "is"
  | trueWord => "true"
  | falseWord => "false"
  | noneWord => "none"

/-- The sign as it is written. -/
def Sign.symbol : Sign → String
  | eqEq => "=="
  | notEq => "!="
  | lt => "<"
  | ltEq => "<="
  | gt => ">"
  | gtEq => ">="
  | plus => "+"
  | minus => "-"
  | star => "*"
  | slash => "/"
  | slashSlash => "//"
  | percent => "%"
  | tilde => "~"
  | pipe => "|"
  | assign => "="
  | comma => ","
  | colon => ":"
  | dot => "."
  | lBracket => "["
  | rBracket => "]"
  | lParen => "("
  | rParen => ")"
  | lBrace => "\x7b"
  | rBrace => "\x7d"

/-- A character in single quotes. -/
def escapeInQuotes (c : Char) : List Char :=
  if c = '\\' then ['\\', '\\'] else if c = '\'' then ['\\', '\''] else [c]

/-- A token of an expression as it is written; the others have no place in one. -/
def Token.spelling : Token → List Char
  | .keyword k => k.word.toList
  | .sign s => s.symbol.toList
  | .ident s => s.toList
  | .str s => '\'' :: s.toList.flatMap escapeInQuotes ++ ['\'']
  | .int n => Nat.toDigits 10 n.toInt.toNat
  | _ => []

namespace Expr

/-- **An expression as text.** -/
def print (e : Expr) : String :=
  String.ofList (List.intercalate [' '] (e.tokens.map Token.spelling))

/-- Whether a name is one in ASCII and no keyword. -/
def isPlainName (s : String) : Bool :=
  match s.toList with
  | [] => false
  | c :: cs =>
    (c.isAlpha || c == '_') && cs.all (fun c => c.isAlphanum || c == '_') &&
      (Keyword.ofWord? s).isNone

/-- Whether an expression by itself can be written: it is no floating-point number and no
negative number, and its names are names in ASCII. -/
def isPlain : Expr → Bool
  | int n => decide (0 ≤ n.toInt)
  | float _ => false
  | name s => isPlainName s
  | attr _ key => isPlainName key
  | filter _ label _ kwargs => isPlainName label && kwargs.all fun e => isPlainName e.1
  | test _ label _ kwargs _ => isPlainName label && kwargs.all fun e => isPlainName e.1
  | _ => true

/-- Every expression inside can be written. -/
def Printable (e : Expr) : Prop := e.every isPlain = true

instance (e : Expr) : Decidable e.Printable := inferInstanceAs (Decidable (_ = _))

section

variable {e base subject left right value condition : Expr} {s key label : String}
  {args : List Expr} {kwargs : List (String × Expr)}

@[simp] theorem printable_int {n : Int64} : Printable (.int n) ↔ 0 ≤ n.toInt := decide_eq_true_iff

@[simp] theorem not_printable_float {x : Float} : ¬ Printable (.float x) := Bool.false_ne_true

@[simp] theorem printable_name : Printable (.name s) ↔ isPlainName s = true := Iff.rfl

@[simp] theorem printable_list {items : List Expr} :
    Printable (.list items) ↔ ∀ e ∈ items, e.Printable := everyItem_iff

@[simp] theorem printable_dict {pairs : List (Expr × Expr)} :
    Printable (.dict pairs) ↔ ∀ e ∈ pairs, e.1.Printable ∧ e.2.Printable := everyPair_iff

@[simp] theorem printable_attr :
    Printable (.attr base key) ↔ isPlainName key = true ∧ base.Printable := Bool.and_eq_true_iff

@[simp] theorem printable_index :
    Printable (.index base e) ↔ base.Printable ∧ e.Printable := Bool.and_eq_true_iff

@[simp] theorem printable_binary {op : BinaryOp} :
    Printable (.binary op left right) ↔ left.Printable ∧ right.Printable := Bool.and_eq_true_iff

@[simp] theorem printable_and : Printable (.and left right) ↔ left.Printable ∧ right.Printable :=
  Bool.and_eq_true_iff

@[simp] theorem printable_or : Printable (.or left right) ↔ left.Printable ∧ right.Printable :=
  Bool.and_eq_true_iff

@[simp] theorem printable_not : Printable (.not e) ↔ e.Printable := Iff.rfl

@[simp] theorem printable_neg : Printable (.neg e) ↔ e.Printable := Iff.rfl

@[simp] theorem printable_pos : Printable (.pos e) ↔ e.Printable := Iff.rfl

/-- What is asked of a filter is asked of a test. -/
theorem every_call_iff : ((isPlainName label && kwargs.all fun e => isPlainName e.1) &&
      subject.every isPlain && everyItem isPlain args && everyNamed isPlain kwargs) = true ↔
    isPlainName label = true ∧ subject.Printable ∧ (∀ e ∈ args, e.Printable) ∧
      ∀ e ∈ kwargs, isPlainName e.1 = true ∧ e.2.Printable := by
  simp only [everyItem_iff, everyNamed_iff, Bool.and_eq_true, List.all_eq_true, forall_and]
  constructor
  · rintro ⟨⟨⟨⟨hl, hk⟩, hs⟩, ha⟩, hkw⟩
    exact ⟨hl, hs, ha, hk, hkw⟩
  · rintro ⟨hl, hs, ha, hk, hkw⟩
    exact ⟨⟨⟨⟨hl, hk⟩, hs⟩, ha⟩, hkw⟩

@[simp] theorem printable_filter : Printable (.filter subject label args kwargs) ↔
    isPlainName label = true ∧ subject.Printable ∧ (∀ e ∈ args, e.Printable) ∧
      ∀ e ∈ kwargs, isPlainName e.1 = true ∧ e.2.Printable := every_call_iff

@[simp] theorem printable_test {negated : Bool} :
    Printable (.test subject label args kwargs negated) ↔
      isPlainName label = true ∧ subject.Printable ∧ (∀ e ∈ args, e.Printable) ∧
        ∀ e ∈ kwargs, isPlainName e.1 = true ∧ e.2.Printable := every_call_iff

@[simp] theorem printable_cond {otherwise : Option Expr} :
    Printable (.cond value condition otherwise) ↔
      value.Printable ∧ condition.Printable ∧ ∀ e ∈ otherwise, e.Printable := by
  change (value.every isPlain && condition.every isPlain && everyElse isPlain otherwise) = true ↔ _
  rw [Bool.and_eq_true, Bool.and_eq_true, everyElse_iff, and_assoc]
  rfl

end

/-- Parentheses stand where the levels ask for them, and nowhere else. -/
example : (Expr.filter (.neg (.binary .add (.name "a") (.int 1))) "f" [.cond (.not (.name "b"))
      (.bool true) none] [("k", .dict [(.str "it's", .list [])])]).print =
    "- ( a + 1 ) | f ( not b if true , k = \x7b 'it\\'s' : [ ] \x7d )" := by
  rfl

end Expr
end MailMerge
