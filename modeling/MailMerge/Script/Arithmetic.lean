/-
# Arithmetic in scripts

Expressions over integers of 64 bits with the usual operators and precedences.  A name
stands for the number in the variable and can be assigned to, and a comparison is one
or zero.  What a decided choice leaves out is read but not done.
-/

import MailMerge.Script.Lexer
import MailMerge.Script.State

namespace MailMerge
namespace Script
namespace Arithmetic

/-- Why an expression has no value. -/
inductive Fault where
  | divisionByZero
  | expected (what : String)
  | notANumber (text : Bytes)

/-- The message of a fault in an expression. -/
def Fault.message (source : Bytes) : Fault → String
  | divisionByZero => about "division by zero"
  | expected what => about ("expecting " ++ what)
  | notANumber text => "Illegal number: " ++ toText text
where
  /-- a message that shows the expression -/
  about (what : String) : String :=
    "arithmetic expression: " ++ what ++ ": \"" ++ toText source ++ "\""

/-! Numbers -/

/-- The integer of 64 bits that a number wraps to. -/
def wrap (n : Int) : Int := (Int64.ofInt n).toInt

/-- The digits of a number at the start of a text with their radix, and what follows them. -/
def digits (cs : Bytes) : Nat × Bytes × Bytes :=
  let isHex := fun (c : Char) => c.isDigit || ('a' ≤ c.toLower && c.toLower ≤ 'f')
  let isOct := fun (c : Char) => '0' ≤ c && c ≤ '7'
  match cs with
  | '0' :: x :: d :: rest =>
    if x.toLower = 'x' ∧ isHex d then
      (16, (d :: rest).takeWhile isHex, (d :: rest).dropWhile isHex)
    else (8, cs.takeWhile isOct, cs.dropWhile isOct)
  | '0' :: _ => (8, cs.takeWhile isOct, cs.dropWhile isOct)
  | _ => (10, cs.takeWhile Char.isDigit, cs.dropWhile Char.isDigit)

/-- The largest integer of 64 bits. -/
def largest : Nat := 9223372036854775807

/-- The number at the start of a text, at most the largest, and what follows it. -/
def number (cs : Bytes) : Int × Bytes :=
  let (radix, ds, rest) := digits cs
  (min (Number.ofRadix radix ds) largest, rest)

/-- The number that the text of a variable is. -/
def numberIn (text : Bytes) : Except Fault Int :=
  let (sign, cs) := match Text.trimStart text with
    | '-' :: cs => ((-1 : Int), cs)
    | '+' :: cs => (1, cs)
    | cs => (1, cs)
  match cs with
  | [] => if Text.isAllBlank text then .ok 0 else .error (.notANumber text)
  | c :: _ =>
    let (n, rest) := number cs
    if c.isDigit && Text.isAllBlank rest then .ok (sign * n) else .error (.notANumber text)

/-! Items -/

/-- An item of an expression. -/
inductive Item where
  | number (n : Int)
  | name (name : Bytes)
  | operator (op : String)
  | unknown
  deriving DecidableEq, Repr

/-- The operators, longer ones first. -/
def operators : List String :=
  ["<<=", ">>=", "||", "&&", "==", "!=", "<=", ">=", "<<", ">>", "+=", "-=", "*=", "/=", "%=",
    "&=", "|=", "^=", "=", "<", ">", "|", "&", "^", "+", "-", "*", "/", "%", "!", "~", "?", ":",
    "(", ")"]

/-- The items of an expression, with one that is unknown where it cannot be read on. -/
def items : Nat → Bytes → List Item
  | 0, _ => []
  | _, [] => []
  | fuel + 1, c :: rest =>
    let cs := c :: rest
    if Text.isBlank c then items fuel rest
    else if c.isDigit then .number (number cs).1 :: items fuel (number cs).2
    else if startsName c then .name (cs.takeWhile inName) :: items fuel (cs.dropWhile inName)
    else
      match operators.find? fun op => Text.startsWith op.toList cs with
      | some op => .operator op :: items fuel (cs.drop op.length)
      | none => [.unknown]

/-! Evaluation -/

/-- What is left of an expression, and the variables with those it has assigned to in front. -/
structure Progress where
  ahead : List Item
  vars : List (Bytes × Bytes)
  assigned : List (Bytes × Int) := []

/-- An evaluation, which may stop with a fault. -/
abbrev Evaluation (α : Type) := StateT Progress (Except Fault) α

/-- One or zero. -/
def truth (b : Bool) : Int := if b then 1 else 0

/-- The result of an operator of two operands. -/
def combine (op : String) (a b : Int) : Except Fault Int :=
  let bits := fun (f : Int64 → Int64 → Int64) => (f (Int64.ofInt a) (Int64.ofInt b)).toInt
  match op with
  | "|" => .ok (bits (· ||| ·))
  | "^" => .ok (bits (· ^^^ ·))
  | "&" => .ok (bits (· &&& ·))
  | "==" => .ok (truth (a == b))
  | "!=" => .ok (truth (a != b))
  | "<=" => .ok (truth (a ≤ b))
  | ">=" => .ok (truth (b ≤ a))
  | "<" => .ok (truth (a < b))
  | ">" => .ok (truth (b < a))
  | "<<" => .ok (wrap (a * (Nat.pow 2 (b % 64).toNat : Int)))
  | ">>" => .ok (a / (Nat.pow 2 (b % 64).toNat : Int))
  | "+" => .ok (wrap (a + b))
  | "-" => .ok (wrap (a - b))
  | "*" => .ok (wrap (a * b))
  | "/" => if b = 0 then .error .divisionByZero else .ok (wrap (a.tdiv b))
  | _ => if b = 0 then .error .divisionByZero else .ok (a.tmod b)

/-- The operators of each precedence, from the weakest on. -/
def levels : List (List String) :=
  [["|"], ["^"], ["&"], ["==", "!="], ["<=", ">=", "<", ">"], ["<<", ">>"], ["+", "-"],
    ["*", "/", "%"]]

/-- The next operator, if there is one. -/
def operator? : Evaluation (Option String) := do
  match (← get).ahead.head? with
  | some (.operator op) => return some op
  | _ => return none

/-- Goes on behind the next item. -/
def skip : Evaluation Unit := modify fun p => { p with ahead := p.ahead.drop 1 }

/-- The value of a variable; one that is not set or is empty is zero. -/
def valueOf (name : Bytes) : Evaluation Int := do
  let p ← get
  match p.assigned.lookup name with
  | some n => return n
  | none => numberIn ((p.vars.lookup name).getD [])

/-- Assigns to a variable. -/
def assign (name : Bytes) (n : Int) : Evaluation Unit :=
  modify fun p => { p with assigned := (name, n) :: p.assigned.filter fun a => a.1 != name }

/-- Whether an operator assigns, and the operator it applies before. -/
def assignment? (op : String) : Option String :=
  (["", "<<", ">>", "+", "-", "*", "/", "%", "&", "|", "^"].find? fun f => f ++ "=" == op)

mutual

/-- Evaluates an assignment or what is no assignment.  `idle` says that it is only read. -/
def expression (idle : Bool) : Nat → Evaluation Int
  | 0 => throw (.expected "primary")
  | fuel + 1 => do
    match (← get).ahead with
    | .name name :: .operator op :: _ =>
      match assignment? op with
      | some f =>
        skip
        skip
        let n ← expression idle fuel
        if idle then return n
        let n ← if f.isEmpty then pure n else combine f (← valueOf name) n
        assign name n
        return n
      | none => conditional idle fuel
    | _ => conditional idle fuel

/-- Evaluates a choice between two values. -/
def conditional (idle : Bool) : Nat → Evaluation Int
  | 0 => throw (.expected "primary")
  | fuel + 1 => do
    let condition ← disjunction idle fuel
    if (← operator?) == some "?" then
      skip
      let a ← expression (idle || condition == 0) fuel
      if (← operator?) != some ":" then throw (.expected "':'")
      skip
      let b ← conditional (idle || condition != 0) fuel
      return if condition != 0 then a else b
    else return condition

/-- Evaluates conditions of which one has to hold. -/
def disjunction (idle : Bool) : Nat → Evaluation Int
  | 0 => throw (.expected "primary")
  | fuel + 1 => do
    let a ← conjunction idle fuel
    if (← operator?) == some "||" then
      skip
      let b ← disjunction (idle || a != 0) fuel
      return truth (a != 0 || b != 0)
    else return a

/-- Evaluates conditions that all have to hold. -/
def conjunction (idle : Bool) : Nat → Evaluation Int
  | 0 => throw (.expected "primary")
  | fuel + 1 => do
    let a ← chain idle fuel levels
    if (← operator?) == some "&&" then
      skip
      let b ← conjunction (idle || a == 0) fuel
      return truth (a != 0 && b != 0)
    else return a

/-- Evaluates operands between operators of the given precedences. -/
def chain (idle : Bool) : Nat → List (List String) → Evaluation Int
  | 0, _ => throw (.expected "primary")
  | fuel + 1, [] => operand idle fuel
  | fuel + 1, ops :: tighter => do
    let first ← chain idle fuel tighter
    further idle fuel ops tighter first

/-- Evaluates the further operands of one precedence. -/
def further (idle : Bool) : Nat → List String → List (List String) → Int → Evaluation Int
  | 0, _, _, _ => throw (.expected "primary")
  | fuel + 1, ops, tighter, first => do
    match ← operator? with
    | some op =>
      if ops.contains op then
        skip
        let second ← chain idle fuel tighter
        further idle fuel ops tighter (← if idle then pure first else combine op first second)
      else return first
    | none => return first

/-- Evaluates a number, a name, an expression in brackets, or an operand with a sign. -/
def operand (idle : Bool) : Nat → Evaluation Int
  | 0 => throw (.expected "primary")
  | fuel + 1 => do
    match (← get).ahead.head? with
    | some (.number n) =>
      skip
      return n
    | some (.name name) =>
      skip
      if idle then return 0 else valueOf name
    | some (.operator "(") =>
      skip
      let n ← expression idle fuel
      if (← operator?) != some ")" then throw (.expected "')'")
      skip
      return n
    | some (.operator "+") =>
      skip
      operand idle fuel
    | some (.operator "-") =>
      skip
      return wrap (-(← operand idle fuel))
    | some (.operator "!") =>
      skip
      return truth ((← operand idle fuel) == 0)
    | some (.operator "~") =>
      skip
      return -1 - (← operand idle fuel)
    | _ => throw (.expected "primary")

end

/-- The value of an expression and what it assigns. -/
def evaluate (vars : List (Bytes × Bytes)) (source : Bytes) :
    Except Fault (Int × List (Bytes × Int)) :=
  let ahead := items (source.length + 1) source
  if ahead.isEmpty then .error (.expected "primary")
  else
    match (expression false (20 * ahead.length + 20)).run ⟨ahead, vars, []⟩ with
    | .error fault => .error fault
    | .ok (n, p) => if p.ahead.isEmpty then .ok (n, p.assigned) else .error (.expected "EOF")

end Arithmetic
end Script
end MailMerge
