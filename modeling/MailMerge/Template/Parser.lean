/-
# From tokens to trees

The grammar of expressions is a tower of levels, each made from the next tighter
one:

    conditional   `a if c else b`, the `else` may be missing
    disjunction   `or`
    conjunction   `and`
    negation      `not`
    comparison    `==` `!=` `<` `<=` `>` `>=` `in` `not in` `is` `is not`
    sum           `+` `-`
    join          `~`
    product       `*` `/` `//` `%`
    filtered      `|`
    signed        `-` `+`
    suffixed      `.name` `.0` `[e]`
    primary       literals, names, brackets

Only a bracket, an argument list and the `else` of a conditional lead back to the
top, and each of them takes a token first.  Whatever goes round is written as one turn
that is given the parser to go on with.  The number of steps a parser is given
exceeds the number of tokens before it by three, so the steps never run out.

Errors carry the line on which the lexer was before it read the token consumed
last.  A fault of the lexer comes up when the parser looks at the place where it
happened.
-/

import MailMerge.Template.Lexer
import MailMerge.Template.Tree

namespace MailMerge

/-- What is left to parse: the tokens, the fault behind the last of them, and the line of the
token consumed last. -/
structure TokenStream where
  lexemes : List Lexeme
  failure : Option SyntaxError
  line : Nat := 1

/-- A parser takes tokens off a stream or fails. -/
abbrev Parser (α : Type) := StateT TokenStream (Except SyntaxError) α

namespace Parser

variable {α : Type}

/-- Fails at the line of the token consumed last. -/
def fault (f : SyntaxFault) : Parser α := fun s => .error ⟨s.line, f⟩

/-- The token `n` places ahead, without taking it. -/
def peekAt (n : Nat) : Parser (Option Token) := fun s =>
  match s.lexemes[n]?, s.failure with
  | some l, _ => .ok (some l.token, s)
  | none, some e => .error e
  | none, none => .ok (none, s)

/-- The next token, without taking it. -/
def peek : Parser (Option Token) := peekAt 0

/-- Takes the next token. -/
def next : Parser (Option Token) := fun s =>
  match s.lexemes, s.failure with
  | l :: rest, _ => .ok (some l.token, { s with lexemes := rest, line := l.lineBefore })
  | [], some e => .error e
  | [], none => .ok (none, s)

/-- Takes the next token, which must be `wanted`. -/
def expect (wanted : Token) : Parser Unit := do
  let got ← next
  if got = some wanted then pure () else fault (.expected wanted got)

/-- Takes the next token if it is `wanted`, and says whether it was. -/
def eat (wanted : Token) : Parser Bool := do
  if (← peek) = some wanted then
    let _ ← next
    pure true
  else pure false

/-- Takes the next token, which must be an identifier. -/
def ident (role : NameRole) : Parser String := do
  match ← next with
  | some (.ident s) => pure s
  | got => fault (.expectedIdentifier role got)

/-- One turn of a level of left-associative operators. -/
def leftAssocTurn (op? : Token → Option (Expr → Expr → Expr)) (operand : Parser Expr)
    (again : Expr → Parser Expr) (left : Expr) : Parser Expr := do
  match (← peek).bind op? with
  | some build =>
    let _ ← next
    let right ← operand
    again (build left right)
  | none => pure left

/-- A level of left-associative operators: operands of the next level with operators that
`op?` knows between them, applied from the left. -/
def leftAssocFrom (op? : Token → Option (Expr → Expr → Expr)) (operand : Parser Expr) :
    Nat → Expr → Parser Expr
  | 0, _ => fault .outOfSteps
  | fuel + 1, left => leftAssocTurn op? operand (leftAssocFrom op? operand fuel) left

/-- A level of left-associative operators from its first operand on. -/
def leftAssoc (op? : Token → Option (Expr → Expr → Expr)) (operand : Parser Expr)
    (fuel : Nat) : Parser Expr := do
  let left ← operand
  leftAssocFrom op? operand fuel left

/-- One turn of the items of a list. -/
def itemsTurn (close : Sign) (item : Parser α) (again : Parser (List α)) : Parser (List α) := do
  if (← peek) = some (.sign close) then
    expect (.sign close)
    pure []
  else
    let first ← item
    if ← eat (.sign .comma) then
      let rest ← again
      pure (first :: rest)
    else
      expect (.sign close)
      pure [first]

/-- The rest of the items of a list: separated by commas, up to `close`, which is taken; a
comma may stand before it. -/
def itemsUntil (close : Sign) (item : Parser α) : Nat → Parser (List α)
  | 0 => fault .outOfSteps
  | fuel + 1 => itemsTurn close item (itemsUntil close item fuel)

/-- One pair of a mapping. -/
def pair (expr : Parser Expr) : Parser (Expr × Expr) := do
  let key ← expr
  expect (.sign .colon)
  let value ← expr
  pure (key, value)

/-- An argument: by position, or by name. -/
inductive Argument where
  | positional (e : Expr)
  | named (key : String) (e : Expr)

/-- One argument.  None can come by position after one that came by name. -/
def argument (expr : Parser Expr) (afterNamed : Bool) : Parser Argument := do
  match ← peek, ← peekAt 1 with
  | some (.ident key), some (.sign .assign) =>
    let _ ← next
    let _ ← next
    let e ← expr
    pure (.named key e)
  | _, _ =>
    if afterNamed then fault .positionalAfterKeyword
    else
      let e ← expr
      pure (.positional e)

/-- One turn of the arguments. -/
def argumentsTurn (expr : Parser Expr) (again : Bool → Parser (List Expr × List (String × Expr)))
    (afterNamed : Bool) : Parser (List Expr × List (String × Expr)) := do
  if (← peek) = some (.sign .rParen) then
    expect (.sign .rParen)
    pure ([], [])
  else
    let arg ← argument expr afterNamed
    let seen := match arg with
      | .named _ _ => true
      | .positional _ => afterNamed
    let (args, kwargs) ←
      if ← eat (.sign .comma) then again seen
      else do
        expect (.sign .rParen)
        pure ([], [])
    match arg with
    | .positional e => pure (e :: args, kwargs)
    | .named key e => pure (args, (key, e) :: kwargs)

/-- The arguments up to the closing parenthesis, which is taken. -/
def argumentsUntil (expr : Parser Expr) :
    Nat → Bool → Parser (List Expr × List (String × Expr))
  | 0, _ => fault .outOfSteps
  | fuel + 1, afterNamed => argumentsTurn expr (argumentsUntil expr fuel) afterNamed

/-- The argument list of a filter or test. -/
def arguments (expr : Parser Expr) (fuel : Nat) : Parser (List Expr × List (String × Expr)) := do
  expect (.sign .lParen)
  argumentsUntil expr fuel false

/-- A literal, a name, or an expression in brackets.  Several expressions in parentheses
make a list. -/
def primary (expr : Parser Expr) (fuel : Nat) : Parser Expr := do
  match ← next with
  | some (.str s) => pure (.str s)
  | some (.int n) => pure (.int n)
  | some (.float x) => pure (.float x)
  | some (.keyword .trueWord) => pure (.bool true)
  | some (.keyword .falseWord) => pure (.bool false)
  | some (.keyword .noneWord) => pure .null
  | some (.ident s) => pure (.name s)
  | some (.sign .lParen) =>
    let first ← expr
    if ← eat (.sign .comma) then
      let rest ← itemsUntil .rParen expr fuel
      pure (.list (first :: rest))
    else
      expect (.sign .rParen)
      pure first
  | some (.sign .lBracket) => return .list (← itemsUntil .rBracket expr fuel)
  | some (.sign .lBrace) => return .dict (← itemsUntil .rBrace (pair expr) fuel)
  | got => fault (.expectedExpression got)

/-- One turn of the suffixes of an expression. -/
def suffixesTurn (expr : Parser Expr) (again : Expr → Parser Expr) (base : Expr) :
    Parser Expr := do
  match ← peek with
  | some (.sign .dot) =>
    let _ ← next
    match ← next with
    | some (.ident key) => again (.attr base key)
    | some (.int n) => again (.index base (.int n))
    | got => fault (.expectedAttribute got)
  | some (.sign .lBracket) =>
    let _ ← next
    let subscript ← expr
    expect (.sign .rBracket)
    again (.index base subscript)
  | some (.sign .lParen) => fault .functionCall
  | _ => pure base

/-- Attributes and subscripts of an expression. -/
def suffixesOf (expr : Parser Expr) : Nat → Expr → Parser Expr
  | 0, _ => fault .outOfSteps
  | fuel + 1, base => suffixesTurn expr (suffixesOf expr fuel) base

/-- A primary expression with its suffixes. -/
def suffixed (expr : Parser Expr) (fuel : Nat) : Parser Expr := do
  let base ← primary expr fuel
  suffixesOf expr fuel base

/-- One turn of the signs before an expression. -/
def signedTurn (expr : Parser Expr) (loops : Nat) (again : Parser Expr) : Parser Expr := do
  match ← peek with
  | some (.sign .minus) =>
    let _ ← next
    return .neg (← again)
  | some (.sign .plus) =>
    let _ ← next
    return .pos (← again)
  | _ => suffixed expr loops

/-- Signs before a suffixed expression. -/
def signed (expr : Parser Expr) (loops : Nat) : Nat → Parser Expr
  | 0 => fault .outOfSteps
  | fuel + 1 => signedTurn expr loops (signed expr loops fuel)

/-- One turn of the filters behind an expression. -/
def filtersTurn (expr : Parser Expr) (loops : Nat) (again : Expr → Parser Expr)
    (subject : Expr) : Parser Expr := do
  if ← eat (.sign .pipe) then
    let name ← ident .filterName
    if (← peek) = some (.sign .lParen) then
      let (args, kwargs) ← arguments expr loops
      again (.filter subject name args kwargs)
    else again (.filter subject name [] [])
  else pure subject

/-- Filters behind an expression. -/
def filtersOf (expr : Parser Expr) (loops : Nat) : Nat → Expr → Parser Expr
  | 0, _ => fault .outOfSteps
  | fuel + 1, subject => filtersTurn expr loops (filtersOf expr loops fuel) subject

/-- A signed expression with its filters. -/
def filtered (expr : Parser Expr) (fuel : Nat) : Parser Expr := do
  let subject ← signed expr fuel fuel
  filtersOf expr fuel fuel subject

/-- The operators of products. -/
def productOp? : Token → Option (Expr → Expr → Expr)
  | .sign .star => some (.binary .mul)
  | .sign .slash => some (.binary .div)
  | .sign .slashSlash => some (.binary .floorDiv)
  | .sign .percent => some (.binary .mod)
  | _ => none

/-- The operator that joins texts. -/
def joinOp? : Token → Option (Expr → Expr → Expr)
  | .sign .tilde => some (.binary .concat)
  | _ => none

/-- The operators of sums. -/
def sumOp? : Token → Option (Expr → Expr → Expr)
  | .sign .plus => some (.binary .add)
  | .sign .minus => some (.binary .sub)
  | _ => none

/-- The comparisons written with one token. -/
def comparisonOp? : Token → Option BinaryOp
  | .sign .eqEq => some .eq
  | .sign .notEq => some .ne
  | .sign .lt => some .lt
  | .sign .ltEq => some .le
  | .sign .gt => some .gt
  | .sign .gtEq => some .ge
  | .keyword .inWord => some .isIn
  | _ => none

/-- Sums of joins of products. -/
def sum (expr : Parser Expr) (fuel : Nat) : Parser Expr :=
  leftAssoc sumOp? (leftAssoc joinOp? (leftAssoc productOp? (filtered expr fuel) fuel) fuel) fuel

/-- The name of a test: an identifier, or one of the keywords that name tests. -/
def testName : Parser String := do
  match ← next with
  | some (.ident s) => pure s
  | some (.keyword .noneWord) => pure "none"
  | some (.keyword .trueWord) => pure "true"
  | some (.keyword .falseWord) => pure "false"
  | some (.keyword .inWord) => pure "in"
  | got => fault (.expectedTestName got)

/-- What follows `is`.  A single literal can be the argument without parentheses. -/
def test (expr : Parser Expr) (fuel : Nat) (subject : Expr) : Parser Expr := do
  let negated ← eat (.keyword .notWord)
  let name ← testName
  match ← peek with
  | some (.sign .lParen) =>
    let (args, kwargs) ← arguments expr fuel
    pure (.test subject name args kwargs negated)
  | some (.int n) =>
    let _ ← next
    pure (.test subject name [.int n] [] negated)
  | some (.float x) =>
    let _ ← next
    pure (.test subject name [.float x] [] negated)
  | some (.str s) =>
    let _ ← next
    pure (.test subject name [.str s] [] negated)
  | _ => pure (.test subject name [] [] negated)

/-- One turn of the comparisons and tests behind a sum. -/
def comparisonsTurn (expr : Parser Expr) (loops : Nat) (again : Expr → Parser Expr)
    (left : Expr) : Parser Expr := do
  match ← peek with
  | some (.keyword .isWord) =>
    let _ ← next
    let left ← test expr loops left
    again left
  | some (.keyword .notWord) =>
    if (← peekAt 1) = some (.keyword .inWord) then
      let _ ← next
      let _ ← next
      let right ← sum expr loops
      again (.binary .notIn left right)
    else pure left
  | token =>
    match token.bind comparisonOp? with
    | some op =>
      let _ ← next
      let right ← sum expr loops
      again (.binary op left right)
    | none => pure left

/-- Comparisons and tests behind a sum, from the left. -/
def comparisonsOf (expr : Parser Expr) (loops : Nat) : Nat → Expr → Parser Expr
  | 0, _ => fault .outOfSteps
  | fuel + 1, left => comparisonsTurn expr loops (comparisonsOf expr loops fuel) left

/-- A sum with its comparisons and tests. -/
def comparison (expr : Parser Expr) (fuel : Nat) : Parser Expr := do
  let left ← sum expr fuel
  comparisonsOf expr fuel fuel left

/-- One turn of the negations of a comparison. -/
def negationTurn (expr : Parser Expr) (loops : Nat) (again : Parser Expr) : Parser Expr := do
  if ← eat (.keyword .notWord) then return .not (← again)
  else comparison expr loops

/-- Negations of a comparison. -/
def negation (expr : Parser Expr) (loops : Nat) : Nat → Parser Expr
  | 0 => fault .outOfSteps
  | fuel + 1 => negationTurn expr loops (negation expr loops fuel)

/-- The operator `and`. -/
def andOp? : Token → Option (Expr → Expr → Expr)
  | .keyword .andWord => some .and
  | _ => none

/-- The operator `or`. -/
def orOp? : Token → Option (Expr → Expr → Expr)
  | .keyword .orWord => some .or
  | _ => none

/-- Disjunctions of conjunctions of negations. -/
def disjunction (expr : Parser Expr) (fuel : Nat) : Parser Expr :=
  leftAssoc orOp? (leftAssoc andOp? (negation expr fuel fuel) fuel) fuel

/-- A conditional expression, or the disjunction it starts with. -/
def conditional (expr : Parser Expr) (fuel : Nat) : Parser Expr := do
  let value ← disjunction expr fuel
  if ← eat (.keyword .ifTag) then
    let condition ← disjunction expr fuel
    if ← eat (.keyword .elseTag) then
      let otherwise ← expr
      pure (.cond value condition (some otherwise))
    else pure (.cond value condition none)
  else pure value

/-- An expression. -/
def expression : Nat → Parser Expr
  | 0 => fault .outOfSteps
  | fuel + 1 => conditional (expression fuel) fuel

/-- One turn of the further targets of a loop. -/
def targetsTurn (again : Parser (List String)) : Parser (List String) := do
  if ← eat (.sign .comma) then
    let target ← ident .loopTarget
    let rest ← again
    pure (target :: rest)
  else pure []

/-- Further targets of a loop, each behind a comma. -/
def targetsOf : Nat → Parser (List String)
  | 0 => fault .outOfSteps
  | fuel + 1 => targetsTurn (targetsOf fuel)

/-- Whether the next two tokens start the block tag of a keyword. -/
def atTag (k : Keyword) : Parser Bool := do
  if (← peek) = some .blockStart then return (← peekAt 1) = some (.keyword k) else pure false

/-- A loop, from its keyword on. -/
def loop (nodes : Parser Template) (fuel : Nat) : Parser Node := do
  expect (.keyword .forTag)
  let first ← ident .loopTarget
  let others ← targetsOf fuel
  expect (.keyword .inWord)
  let iterable ← disjunction (expression fuel) fuel
  expect .blockEnd
  let body ← nodes
  let otherwise ←
    if ← atTag .elseTag then do
      let _ ← next
      let _ ← next
      expect .blockEnd
      let body ← nodes
      pure (some body)
    else pure none
  expect .blockStart
  expect (.keyword .endForTag)
  expect .blockEnd
  pure (.loop (first :: others) iterable body otherwise)

/-- One turn of what follows the first case of an `if`. -/
def casesTurn (nodes : Parser Template) (loops : Nat)
    (again : Parser (List (Expr × Template) × Option Template)) :
    Parser (List (Expr × Template) × Option Template) := do
  match ← peek with
  | some .blockStart =>
    match ← peekAt 1 with
    | some (.keyword .elifTag) =>
      let _ ← next
      let _ ← next
      let condition ← expression loops
      expect .blockEnd
      let body ← nodes
      let (cases, otherwise) ← again
      pure ((condition, body) :: cases, otherwise)
    | some (.keyword .elseTag) =>
      let _ ← next
      let _ ← next
      expect .blockEnd
      let body ← nodes
      expect .blockStart
      expect (.keyword .endIfTag)
      expect .blockEnd
      pure ([], some body)
    | some (.keyword .endIfTag) =>
      let _ ← next
      let _ ← next
      expect .blockEnd
      pure ([], none)
    | got => fault (.expectedBranch got)
  | none => fault .endInsideIf
  | some got => fault (.expectedTagStart got)

/-- What follows the first case of an `if`: further cases, and what holds otherwise. -/
def casesOf (nodes : Parser Template) (loops : Nat) :
    Nat → Parser (List (Expr × Template) × Option Template)
  | 0 => fault .outOfSteps
  | fuel + 1 => casesTurn nodes loops (casesOf nodes loops fuel)

/-- A branch, from its keyword on. -/
def branch (nodes : Parser Template) (fuel : Nat) : Parser Node := do
  expect (.keyword .ifTag)
  let condition ← expression fuel
  expect .blockEnd
  let body ← nodes
  let (cases, otherwise) ← casesOf nodes fuel fuel
  pure (.branch ((condition, body) :: cases) otherwise)

/-- An assignment, from its keyword on. -/
def assignment (fuel : Nat) : Parser Node := do
  expect (.keyword .setTag)
  let target ← ident .setTarget
  expect (.sign .assign)
  let value ← expression fuel
  expect .blockEnd
  pure (.set target value)

/-- The keywords that end a list of nodes. -/
def endsNodes : Token → Bool
  | .keyword .endForTag => true
  | .keyword .endIfTag => true
  | .keyword .elseTag => true
  | .keyword .elifTag => true
  | _ => false

/-- The block that has just been opened. -/
def block (nodes : Parser Template) (fuel : Nat) : Parser Node := do
  match ← peek with
  | some (.keyword .forTag) => loop nodes fuel
  | some (.keyword .ifTag) => branch nodes fuel
  | some (.keyword .setTag) => assignment fuel
  | some got => fault (.unknownTag got)
  | none => fault .endInsideTag

/-- One turn of a list of nodes; the bodies of a block are lists of nodes again. -/
def nodesTurn (fuel : Nat) (again : Parser Template) : Parser Template := do
  match ← peek with
  | none => pure []
  | some (.text s) =>
    let _ ← next
    return .text s :: (← again)
  | some .varStart =>
    let _ ← next
    let e ← expression fuel
    expect .varEnd
    return .output e :: (← again)
  | some .blockStart =>
    if (← peekAt 1).any endsNodes then pure []
    else
      let _ ← next
      let node ← block again fuel
      return node :: (← again)
  | some got => fault (.unexpectedToken got)

/-- Nodes up to the end of the template or the start of a tag that ends them. -/
def nodes : Nat → Parser Template
  | 0 => fault .outOfSteps
  | fuel + 1 => nodesTurn fuel (nodes fuel)

/-- A whole template; a tag that ends nodes must not be left over. -/
def template (fuel : Nat) : Parser Template := do
  let parsed ← nodes fuel
  match ← peekAt 1 with
  | none => pure parsed
  | some got => fault (.strayTag got)

end Parser

namespace Template

/-- Parses the tokens of a template. -/
def ofScan (scan : Scan) : Except SyntaxError Template :=
  (Parser.template (scan.lexemes.length + 3) |>.run ⟨scan.lexemes, scan.error?, 1⟩).map Prod.fst

/-- Parses the source of a template. -/
def ofSource (d : Delimiters) (w : Whitespace) (source : List Char) :
    Except SyntaxError Template :=
  ofScan (Lexer.scan d w source)

end Template

end MailMerge
