/-
# Commands of the shell itself

Writing text and comparing texts, numbers and files.  What changes the course of a
script is not here but where commands are run.
-/

import MailMerge.Number.Text
import MailMerge.Script.Arithmetic

namespace MailMerge
namespace Script
namespace Builtin

/-! Writing -/

/-- The character that a letter behind a backslash stands for. -/
def escape? (c : Char) : Option Char :=
  match c with
  | 'a' => some (Char.ofNat 7)
  | 'b' => some (Char.ofNat 8)
  | 'e' => some (Char.ofNat 27)
  | 'f' => some (Char.ofNat 12)
  | 'n' => some '\n'
  | 'r' => some '\r'
  | 't' => some '\t'
  | 'v' => some (Char.ofNat 11)
  | '\\' => some '\\'
  | _ => none

/-- Whether a character is an octal digit. -/
def isOctal (c : Char) : Bool := '0' ≤ c && c ≤ '7'

/-- The byte of an octal number. -/
def octal (ds : Bytes) : Char := Char.ofNat (Number.ofRadix 8 ds % 256)

/-- A text with its escapes read, and whether it has an end mark, which cuts it off.  `zero`
says whether a zero leads the digits of a byte. -/
def unescape (zero : Bool) : Nat → Bytes → Bytes × Bool
  | 0, cs => (cs, false)
  | _, [] => ([], false)
  | fuel + 1, '\\' :: c :: cs =>
    let more := fun (text rest : Bytes) =>
      let (behind, ended) := unescape zero fuel rest
      (text ++ behind, ended)
    if c = 'c' then ([], true)
    else if zero && c = '0' then
      let ds := (cs.takeWhile isOctal).take 3
      more [octal ds] (cs.drop ds.length)
    else if !zero && isOctal c then
      let ds := ((c :: cs).takeWhile isOctal).take 3
      more [octal ds] ((c :: cs).drop ds.length)
    else
      match escape? c with
      | some d => more [d] cs
      | none => more ['\\', c] cs
  | fuel + 1, c :: cs =>
    let (behind, ended) := unescape zero fuel cs
    (c :: behind, ended)

/-- Writes its arguments, with escapes, and a line break. -/
def echo (args : List Bytes) : Run Nat := do
  let (bare, args) := match args with
    | ['-', 'n'] :: args => (true, args)
    | args => (false, args)
  let joined := Text.joinWith [' '] args
  let (text, ended) := unescape true (joined.length + 1) joined
  Run.write 1 (text ++ (if bare || ended then [] else ['\n']))
  return 0

/-- How a value is written in a format: flags, least width, and precision. -/
structure Layout where
  flags : Bytes
  width : Nat
  precision : Option Nat

/-- Reads the number of a layout, which may be an argument. -/
def layoutNumber (cs : Bytes) (args : List Bytes) : Nat × Bytes × List Bytes :=
  match cs with
  | '*' :: cs => (((args.head?.bind Number.readInt?).map fun n => n.toInt.toNat).getD 0, cs,
      args.drop 1)
  | cs => (Number.ofDigits (cs.takeWhile Char.isDigit), cs.dropWhile Char.isDigit, args)

/-- Reads the layout behind a percent sign. -/
def layout (cs : Bytes) (args : List Bytes) : Layout × Bytes × List Bytes :=
  let flags := cs.takeWhile fun c => "-+ 0#".toList.contains c
  let (width, cs, args) := layoutNumber (cs.drop flags.length) args
  match cs with
  | '.' :: cs =>
    let (precision, cs, args) := layoutNumber cs args
    (⟨flags, width, some precision⟩, cs, args)
  | cs => (⟨flags, width, none⟩, cs, args)

/-- A text with blanks, or zeros behind its sign, up to the width. -/
def pad (l : Layout) (zeros : Bool) (text : Bytes) : Bytes :=
  let missing := l.width - text.length
  if l.flags.contains '-' then text ++ List.replicate missing ' '
  else if zeros && l.flags.contains '0' then
    let sign := (text.take 1).filter fun c => c == '-' || c == '+' || c == ' '
    sign ++ List.replicate missing '0' ++ text.drop sign.length
  else List.replicate missing ' ' ++ text

/-- A value read from the start of an argument, and what is wrong with the argument. -/
abbrev Reading (α : Type) := α × Option String

/-- A value with the message about what follows it in an argument. -/
def readingOf {α : Type} (arg : Bytes) (n : α) (isAny : Bool) (rest : Bytes) : Reading α :=
  if !isAny then (n, some (toText arg ++ ": expected numeric value"))
  else if !rest.isEmpty then (n, some (toText arg ++ ": not completely converted"))
  else (n, none)

/-- The integer that an argument gives: digits, or a character behind a quote. -/
def integerOf (arg : Bytes) : Reading Int :=
  match arg with
  | [] => (0, none)
  | '\'' :: c :: _ => (c.toNat, none)
  | '"' :: c :: _ => (c.toNat, none)
  | ['\''] => (0, none)
  | ['"'] => (0, none)
  | arg =>
    let (sign, ds) := match Text.trimStart arg with
      | '-' :: ds => ((-1 : Int), ds)
      | '+' :: ds => (1, ds)
      | ds => (1, ds)
    let (n, rest) := Arithmetic.number ds
    readingOf arg (sign * n) ((ds.head?.map Char.isDigit).getD false) rest

/-- The number that an argument gives. -/
def floatOf (arg : Bytes) : Reading Float :=
  if arg.isEmpty then (0, none)
  else
    let text := Text.trimStart arg
    let sizes := (List.range (text.length + 1)).reverse
    match sizes.findSome? fun n => (Number.readFloat? (text.take n)).map fun x => (x, n) with
    | some (x, n) => readingOf arg x true (text.drop n)
    | none => readingOf arg 0 false arg

/-- The digits of a number in a radix; a negative one is that of its 64 bits. -/
def digitsOf (radix : Nat) (n : Int) : Bytes :=
  Nat.toDigits radix (if n < 0 then n + (Nat.pow 2 64 : Int) else n).toNat

/-- The quotient of two numbers, rounded to the nearest one, and to the even one of two. -/
def nearest (m n : Nat) : Nat :=
  let (q, r) := (m / n, m % n)
  if n < 2 * r ∨ (n = 2 * r ∧ q % 2 = 1) then q + 1 else q

/-- The magnitude of a number with a fixed count of places behind the point. -/
def fixedPlaces (places : Nat) (x : Float) : Bytes :=
  if !x.isFinite then (if x.isNaN then "nan" else "inf").toList
  else
    let d := Number.Dyadic.ofFloat x
    let scaled := d.mantissa * Nat.pow 10 places * Nat.pow 2 d.exponent.toNat
    let ds := Nat.toDigits 10 (nearest scaled (Nat.pow 2 (-d.exponent).toNat))
    let ds := List.replicate (places + 1 - ds.length) '0' ++ ds
    let whole := ds.take (ds.length - places)
    if places = 0 then whole else whole ++ '.' :: ds.drop whole.length

/-- The sign of a number as the flags ask for it. -/
def signOf (l : Layout) (negative : Bool) : Bytes :=
  if negative then ['-'] else if l.flags.contains '+' then ['+']
  else if l.flags.contains ' ' then [' '] else []

/-- A value as a letter of a format asks for it, with what is wrong with it; `none` if there is
no such letter. -/
def formatted? (l : Layout) (letter : Char) (arg : Bytes) : Option (Reading Bytes) :=
  let (n, problem) := integerOf arg
  let whole := fun (digits : Bytes) =>
    List.replicate (l.precision.getD 0 - digits.length) '0' ++ digits
  let marked := fun (mark : String) (digits : Bytes) =>
    if l.flags.contains '#' && n != 0 then mark.toList ++ digits else digits
  let signed := fun (text : Bytes) => some (pad l l.precision.isNone text, problem)
  match letter with
  | 's' => some (pad l false (match l.precision with
      | some p => arg.take p
      | none => arg), none)
  | 'c' => some (pad l false (arg.take 1), none)
  | 'd' => signed (signOf l (n < 0) ++ whole (Nat.toDigits 10 n.natAbs))
  | 'i' => signed (signOf l (n < 0) ++ whole (Nat.toDigits 10 n.natAbs))
  | 'u' => signed (whole (digitsOf 10 n))
  | 'x' => signed (marked "0x" (whole (digitsOf 16 n)))
  | 'X' => signed (marked "0X" (whole ((digitsOf 16 n).map Char.toUpper)))
  | 'o' => signed (marked "0" (whole (digitsOf 8 n)))
  | 'f' =>
    let (x, problem) := floatOf arg
    let places := fixedPlaces (l.precision.getD 6) x
    some (pad l true (signOf l (Number.isNegative x) ++ places), problem)
  | _ => none

/-- What a pass through a format leaves: the text so far, the arguments that are left, what was
wrong with arguments, and why it was ended before the end of the format. -/
structure Printed where
  text : Bytes := []
  args : List Bytes
  problems : List String := []
  ended : Option (Option String) := none

/-- One pass through a format. -/
def formatOnce : Nat → Bytes → Printed → Printed
  | 0, _, p => p
  | _, [], p => p
  | fuel + 1, '%' :: '%' :: cs, p => formatOnce fuel cs { p with text := p.text ++ ['%'] }
  | fuel + 1, '%' :: cs, p =>
    let (l, rest, args) := layout cs p.args
    match rest with
    | [] => { p with ended := some (some "missing format character") }
    | 'b' :: rest =>
      let (text, ended) := unescape true ((args.head?.getD []).length + 1) (args.head?.getD [])
      let p := { p with text := p.text ++ pad l false text, args := args.drop 1 }
      if ended then { p with ended := some none } else formatOnce fuel rest p
    | letter :: rest =>
      match formatted? l letter (args.head?.getD []) with
      | none =>
        let directive := ('%' :: cs).take (cs.length + 1 - rest.length)
        { p with ended := some (some (toText directive ++ ": invalid directive")) }
      | some (here, problem) =>
        formatOnce fuel rest
          { p with
            text := p.text ++ here, args := args.drop 1
            problems := p.problems ++ problem.toList }
  | fuel + 1, '\\' :: c :: cs, p =>
    let size := if isOctal c then (((c :: cs).takeWhile isOctal).take 3).length else 1
    let here := if c = 'c' then ['\\', 'c'] else
      (unescape false 2 ('\\' :: (c :: cs).take size)).1
    formatOnce fuel ((c :: cs).drop size) { p with text := p.text ++ here }
  | fuel + 1, c :: cs, p => formatOnce fuel cs { p with text := p.text ++ [c] }

/-- Passes through a format until no argument is left. -/
def formatAll (format : Bytes) : Nat → Printed → Printed
  | 0, p => p
  | fuel + 1, p =>
    let q := formatOnce (format.length + 1) format p
    if q.ended.isSome || q.args.isEmpty || q.args.length == p.args.length then q
    else formatAll format fuel q

/-- Writes arguments in a format. -/
def printf (args : List Bytes) : Run Nat := do
  let refused := match args with
    | ('-' :: c :: _) :: _ => if c = '-' then none else some c
    | _ => none
  match refused, if args.head? = some ['-', '-'] then args.drop 1 else args with
  | some c, _ =>
    Run.shellComplain ("printf: Illegal option -" ++ toText [c])
    return 2
  | none, [] =>
    Run.shellComplain "printf: usage: printf format [arg ...]"
    return 2
  | none, format :: args =>
    let p := formatAll format (args.length + 1) { args }
    p.problems.forM fun problem => Run.shellComplain ("printf: " ++ problem)
    Run.write 1 p.text
    match p.ended with
    | some (some message) =>
      Run.shellComplain ("printf: " ++ message)
      return 2
    | _ => return if p.problems.isEmpty then 0 else 1

/-! Comparing -/

/-- The answer of a test, or the message why there is none. -/
abbrev Answer := Except String Bool

/-- The operators on one operand. -/
def unaryOperators : List String :=
  ["-r", "-w", "-x", "-e", "-f", "-d", "-c", "-b", "-p", "-u", "-g", "-k", "-s", "-t", "-z",
    "-n", "-h", "-O", "-G", "-L", "-S"]

/-- The answer of an operator on one operand. -/
def unary (t : FileTree) (op : String) (arg : Bytes) : Answer :=
  let path := toText arg
  match op with
  | "-n" => .ok !arg.isEmpty
  | "-z" => .ok arg.isEmpty
  | "-f" => .ok (t.hasFile path)
  | "-d" => .ok (t.hasFolder path)
  | "-x" => .ok (t.hasFolder path)
  | "-s" => .ok (match t.find? path with
      | some (.file content) => content.size != 0
      | some .folder => true
      | none => false)
  | "-t" => if (Number.readInt? arg).isSome then .ok false
    else .error ("Illegal number: " ++ toText arg)
  | op => .ok (["-e", "-r", "-w", "-O", "-G"].contains op && t.occupied path)

/-- A comparison of two numbers. -/
def compareNumbers (f : Int → Int → Bool) (a b : Bytes) : Answer :=
  match Number.readInt? (Text.trim a), Number.readInt? (Text.trim b) with
  | none, _ => .error ("Illegal number: " ++ toText a)
  | _, none => .error ("Illegal number: " ++ toText b)
  | some m, some n => .ok (f m.toInt n.toInt)

/-- The answer of an operator on two operands. -/
def binary? (t : FileTree) (op : String) (a b : Bytes) : Option Answer :=
  match op with
  | "=" => some (.ok (a == b))
  | "!=" => some (.ok (a != b))
  | "<" => some (.ok (a < b))
  | ">" => some (.ok (b < a))
  | "-eq" => some (compareNumbers (· == ·) a b)
  | "-ne" => some (compareNumbers (· != ·) a b)
  | "-lt" => some (compareNumbers (fun m n => m < n) a b)
  | "-le" => some (compareNumbers (fun m n => m ≤ n) a b)
  | "-gt" => some (compareNumbers (fun m n => n < m) a b)
  | "-ge" => some (compareNumbers (fun m n => n ≤ m) a b)
  | "-nt" => some (.ok (t.occupied (toText a) && !t.occupied (toText b)))
  | "-ot" => some (.ok (!t.occupied (toText a) && t.occupied (toText b)))
  | "-ef" => some (.ok (match t.locate (toText a), t.locate (toText b) with
      | .ok p, .ok q => p == q && t.occupied (toText a)
      | _, _ => false))
  | _ => none

/-- Whether an argument is an operator on two operands. -/
def isBinary (op : Bytes) : Bool :=
  ["=", "!=", "<", ">", "-eq", "-ne", "-lt", "-le", "-gt", "-ge", "-nt", "-ot", "-ef"].contains
    (toText op)

/-- What an argument is in a test. -/
inductive Role where
  | unary (op : String)
  | binary
  | negation
  | conjunction
  | disjunction
  | opening
  | closing
  | operand
  | missing
  deriving DecidableEq, Repr

/-- What the first of some arguments is: an operator on one operand only if an operand follows
that is none of an operator on two. -/
def roleOf (args : List Bytes) : Role :=
  match args with
  | [] => .missing
  | arg :: rest =>
    let s := toText arg
    if unaryOperators.contains s then
      match rest with
      | [] => .operand
      | next :: _ :: _ => if isBinary next then .operand else .unary s
      | _ => .unary s
    else if isBinary arg then .binary
    else if s = "!" then .negation
    else if s = "-a" then .conjunction
    else if s = "-o" then .disjunction
    else if s = "(" then if rest.isEmpty then .operand else .opening
    else if s = ")" then .closing
    else .operand

/-- An answer and the arguments from the last one it has looked at. -/
abbrev Tested := Except String (Bool × List Bytes)

mutual

/-- Reads answers with `-o` between them; `role` is what the first argument is taken for. -/
def disjunction (t : FileTree) : Nat → Role → List Bytes → Tested
  | 0, _, args => .ok (false, args)
  | fuel + 1, role, args => do
    let (a, args) ← conjunction t fuel role args
    if roleOf (args.drop 1) = .disjunction then
      let (b, rest) ← disjunction t fuel (roleOf (args.drop 2)) (args.drop 2)
      return (a || b, rest)
    else return (a, args)

/-- Reads answers with `-a` between them. -/
def conjunction (t : FileTree) : Nat → Role → List Bytes → Tested
  | 0, _, args => .ok (false, args)
  | fuel + 1, role, args => do
    let (a, args) ← negation t fuel role args
    if roleOf (args.drop 1) = .conjunction then
      let (b, rest) ← conjunction t fuel (roleOf (args.drop 2)) (args.drop 2)
      return (a && b, rest)
    else return (a, args)

/-- Reads an answer that may be turned around. -/
def negation (t : FileTree) : Nat → Role → List Bytes → Tested
  | 0, _, args => .ok (false, args)
  | fuel + 1, role, args => do
    if role = .negation then
      let next := roleOf (args.drop 1)
      let (a, rest) ← negation t fuel next (if next = .missing then args else args.drop 1)
      return (!a, rest)
    else primary t fuel role args

/-- Reads one answer. -/
def primary (t : FileTree) : Nat → Role → List Bytes → Tested
  | 0, _, args => .ok (false, args)
  | fuel + 1, role, args =>
    match role, args with
    | .missing, args => .ok (false, args)
    | .opening, _ :: inside =>
      if roleOf inside = .closing then .ok (false, inside)
      else do
        let (a, rest) ← disjunction t fuel (roleOf inside) inside
        if roleOf (rest.drop 1) = .closing then return (a, rest.drop 1)
        else throw "closing paren expected"
    | .unary op, _ :: arg :: rest => (unary t op arg).map fun a => (a, arg :: rest)
    | _, a :: op :: rest =>
      if roleOf (op :: rest) = .binary then
        match rest with
        | [] => .error (toText op ++ ": argument expected")
        | b :: _ => ((binary? t (toText op) a b).getD (.ok false)).map fun x => (x, rest)
      else .ok (!a.isEmpty, args)
    | _, args => .ok (((args.head?.map fun a => !a.isEmpty).getD false), args)

end

/-- The answer of a test.  Three arguments around an operator are a comparison, whatever the
first one is; brackets or a negation around up to four arguments are taken away first. -/
def answer (t : FileTree) : Nat → List Bytes → Answer
  | 0, _ => .ok false
  | fuel + 1, args =>
    let whole := fun (role : Role) (args : List Bytes) =>
      match disjunction t (8 * args.length + 8) role args with
      | .error message => .error message
      | .ok (_, last :: _ :: _) => .error (toText last ++ ": unexpected operator")
      | .ok (a, _) => .ok a
    let few := args.length = 3 ∨ args.length = 4
    match args with
    | [] => .ok false
    | first :: rest =>
      if args.length = 3 ∧ (rest.head?.map isBinary).getD false then whole .operand args
      else if few ∧ first = ['('] ∧ rest.getLast? = some [')'] then
        whole (roleOf rest.dropLast) rest.dropLast
      else if few ∧ first = ['!'] then (answer t fuel rest).map (!·)
      else whole (roleOf args) args

/-- Answers a test with its status. -/
def test (name : String) (args : List Bytes) : Run Nat := do
  match answer (← get).files (args.length + 1) args with
  | .ok answer => return if answer then 0 else 1
  | .error message =>
    Run.shellComplain (name ++ ": " ++ message)
    return 2

/-- Answers a test in brackets. -/
def bracket (args : List Bytes) : Run Nat := do
  if args.getLast? == some [']'] then test "[" args.dropLast
  else
    Run.shellComplain "[: missing ]"
    return 2

end Builtin
end Script
end MailMerge
