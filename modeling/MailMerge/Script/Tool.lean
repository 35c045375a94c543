/-
# Tools of scripts

The programs that scripts are made of: those that write, compare, copy, move and
remove files, and those that work on lines of text.  A tool takes its arguments, reads
and writes through the streams of the script, and ends with a status.
-/

import MailMerge.Script.Sed

namespace MailMerge
namespace Script
namespace Tool

/-- What a tool does with its arguments; the result is its status. -/
abbrev Behaviour := List Bytes → Run Nat

/-- The options and operands among arguments.  The letters in `valued` take a value, which is
the rest of the argument or the next one. -/
def split (valued : List Char) : Nat → List Bytes → List (Char × Bytes) × List Bytes
  | 0, args => ([], args)
  | _, [] => ([], [])
  | fuel + 1, arg :: args =>
    match arg with
    | ['-', '-'] => ([], args)
    | '-' :: '-' :: _ => split valued fuel args
    | '-' :: c :: rest =>
      if valued.contains c then
        match rest, args with
        | [], value :: args =>
          let (options, operands) := split valued fuel args
          ((c, value) :: options, operands)
        | value, args =>
          let (options, operands) := split valued fuel args
          ((c, value) :: options, operands)
      else
        let (options, operands) :=
          split valued fuel (if rest.isEmpty then args else ('-' :: rest) :: args)
        ((c, []) :: options, operands)
    | arg =>
      let (options, operands) := split valued fuel args
      (options, arg :: operands)

/-- `split` for all arguments. -/
def optionsOf (valued : String) (args : List Bytes) : List (Char × Bytes) × List Bytes :=
  split valued.toList ((args.map List.length).foldl (· + ·) (args.length + 1)) args

/-- Whether an option is given. -/
def given (options : List (Char × Bytes)) (c : Char) : Bool := options.any fun o => o.1 == c

/-- The value of an option, the last one if it is given more than once. -/
def valueOf? (options : List (Char × Bytes)) (c : Char) : Option Bytes :=
  (options.filter fun o => o.1 == c).getLast?.map Prod.snd

/-- Takes all that is left to read. -/
def takeInput : Run Bytes := do
  let s ← get
  set { s with input := [] }
  return s.input

/-- The content of the file on a path; `-` is what is left to read. -/
def contentOf (path : Bytes) : Run (Except FileError Bytes) := do
  if path == ['-'] then return .ok (← takeInput)
  else return ((← get).files.read (toText path)).map unpack

/-- The contents of the files on paths with their names, or what is left to read if there are no
paths.  What cannot be read is reported in the wording of the tool. -/
def contents (wording : String → String → String) (paths : List Bytes) :
    Run (List (Bytes × Bytes) × Bool) := do
  if paths.isEmpty then return ([([], ← takeInput)], true)
  else
    paths.foldlM (fun (found, ok) path => do
      match ← contentOf path with
      | .ok text => return (found ++ [(path, text)], ok)
      | .error e =>
        Run.complain (wording (toText path) (reason e))
        return (found, false)) ([], true)

/-- The wording of tools that name the file and the reason. -/
def plainWording (tool path why : String) : String := tool ++ ": " ++ path ++ ": " ++ why

/-- Reports what a tool cannot do. -/
def refuse (tool action : String) (path : Bytes) (e : FileError) : Run Nat := do
  Run.complain (tool ++ ": " ++ action ++ " '" ++ toText path ++ "': " ++ reason e)
  return 1

/-- Does something with every operand; the status is the worst. -/
def forEach (f : Bytes → Run Nat) (operands : List Bytes) : Run Nat :=
  operands.foldlM (fun worst a => return max worst (← f a)) 0

/-- Replaces the files. -/
def setFiles (t : FileTree) : Run Unit := modify fun s => { s with files := t }

/-- Changes the files, or reports why not. -/
def change (tool action : String) (path : Bytes)
    (f : FileTree → String → Except FileError FileTree) : Run Nat := do
  match f (← get).files (toText path) with
  | .ok t =>
    setFiles t
    return 0
  | .error e => refuse tool action path e

/-! Files -/

/-- The lines of a text, each with its line break. -/
def fullLines (text : Bytes) : List Bytes :=
  match (Text.splitOn '\n' text).reverse with
  | last :: back =>
    back.reverse.map (· ++ ['\n']) ++ (if last.isEmpty then [] else [last])
  | [] => []

/-- A number with blanks before it up to a width. -/
def padNumber (width n : Nat) : Bytes :=
  let text := (toString n).toList
  List.replicate (width - text.length) ' ' ++ text

/-- The lines of a text with their numbers before those that `counts`. -/
def numberLines (counts : Bytes → Bool) : Nat → List Bytes → Bytes
  | _, [] => []
  | n, l :: ls =>
    if counts l then padNumber 6 n ++ '\t' :: l ++ numberLines counts (n + 1) ls
    else l ++ numberLines counts n ls

/-- Writes files one after the other, with numbers of lines on demand. -/
def cat : Behaviour := fun args => do
  let (options, paths) := optionsOf "" args
  let (found, ok) ← contents (plainWording "cat") paths
  let text := found.flatMap Prod.snd
  Run.write 1 (
    if given options 'b' then numberLines (· != ['\n']) 1 (fullLines text)
    else if given options 'n' then numberLines (fun _ => true) 1 (fullLines text)
    else text)
  return if ok then 0 else 1

/-- Removes everything at and below a place. -/
def clearBelow (t : FileTree) (place : Location) : FileTree :=
  { t with items := t.items.filter fun p => !place.isPrefixOf p.1 }

/-- Removes files, and folders with all in them on demand. -/
def rm : Behaviour := fun args => do
  let (options, paths) := optionsOf "" args
  let force := given options 'f'
  let deep := given options 'r' || given options 'R'
  paths |> forEach fun path => do
    let t := (← get).files
    match t.locate (toText path) with
    | .error e => if force then return 0 else refuse "rm" "cannot remove" path e
    | .ok place =>
      match t.item? place with
      | none => if force then return 0 else refuse "rm" "cannot remove" path .notFound
      | some .folder =>
        if deep then
          setFiles (clearBelow t place)
          return 0
        else refuse "rm" "cannot remove" path .isAFolder
      | some (.file _) =>
        setFiles (t.clear place)
        return 0

/-- Removes an empty folder. -/
def removeFolder (t : FileTree) (path : String) : Except FileError FileTree :=
  match t.folder path with
  | .error e => .error e
  | .ok place =>
    if t.items.any fun p => place.isPrefixOf p.1 && p.1 != place then .error .folderNotEmpty
    else .ok (t.clear place)

/-- Makes folders, and those above them on demand. -/
def mkdir : Behaviour := fun args => do
  let (options, paths) := optionsOf "m" args
  paths |> forEach fun path => do
    if given options 'p' then
      let (t, made) := (← get).files.ensureFolder (toText path)
      setFiles t
      match made with
      | .ok () => return 0
      | .error e => refuse "mkdir" "cannot create directory" path e
    else change "mkdir" "cannot create directory" path FileTree.makeFolder

/-- Makes files that are missing. -/
def touch : Behaviour := fun args => do
  let (_, paths) := optionsOf "dtr" args
  paths |> forEach fun path => do
    if (← get).files.occupied (toText path) then return 0
    else change "touch" "cannot touch" path fun t p => t.write p ByteArray.empty

/-- The last segment of a path. -/
def lastSegment (path : Bytes) : Bytes := ((Path.segments path).getLast?).getD path

/-- Where a file goes that is copied or moved: into a folder if there is one. -/
def destination (t : FileTree) (source target : Bytes) : Bytes :=
  if t.hasFolder (toText target) then target ++ '/' :: lastSegment source else target

/-- The tree with everything at and below one place also at another place. -/
def copyBelow (t : FileTree) (source target : Location) : FileTree :=
  (t.items.filter fun p => source.isPrefixOf p.1).foldl
    (fun t p => t.put (target ++ p.1.drop source.length) p.2) t

/-- Copies or moves a file or folder. -/
def transfer (tool action : String) (deep move : Bool) (source target : Bytes) : Run Nat := do
  let t := (← get).files
  let goal := destination t source target
  match t.locate (toText source) with
  | .error e => refuse tool "cannot stat" source e
  | .ok place =>
    match t.item? place with
    | none => refuse tool "cannot stat" source .notFound
    | some item =>
      let refused := fun (e : FileError) =>
        if move then do
          Run.complain (tool ++ ": cannot move '" ++ toText source ++ "' to '" ++ toText goal ++
            "': " ++ reason e)
          return 1
        else refuse tool action goal e
      match item, t.locate (FileTree.dropSlashes (toText goal)) with
      | _, .error e => refused e
      | .folder, .ok goalPlace =>
        if deep then
          let copied := copyBelow t place goalPlace
          setFiles (if move then clearBelow copied place else copied)
          return 0
        else
          Run.complain (tool ++ ": -r not specified; omitting directory '" ++ toText source ++ "'")
          return 1
      | .file content, .ok goalPlace =>
        if goalPlace == place then return 0
        else
          match t.write (toText goal) content with
          | .error e => refused e
          | .ok written =>
            setFiles (if move then written.clear place else written)
            return 0

/-- Copies or moves several files to the last operand. -/
def transferAll (tool action : String) (deep move : Bool) (operands : List Bytes) : Run Nat := do
  match operands.getLast?, operands.dropLast with
  | some target, first :: others =>
    if !others.isEmpty && !(← get).files.hasFolder (toText target) then
      Run.complain (tool ++ ": target '" ++ toText target ++ "' is not a directory")
      return 1
    else (first :: others) |> forEach fun source => transfer tool action deep move source target
  | some only, [] =>
    Run.complain (tool ++ ": missing destination file operand after '" ++ toText only ++ "'")
    return 1
  | none, _ =>
    Run.complain (tool ++ ": missing file operand")
    return 1

/-- Copies files. -/
def cp : Behaviour := fun args => do
  let (options, operands) := optionsOf "" args
  let deep := ['r', 'R', 'a'].any (given options)
  transferAll "cp" "cannot create regular file" deep false operands

/-- Moves files. -/
def mv : Behaviour := fun args => do
  let (_, operands) := optionsOf "" args
  transferAll "mv" "cannot move" true true operands

/-- Lists the names in folders. -/
def ls : Behaviour := fun args => do
  let (options, operands) := optionsOf "" args
  let t := (← get).files
  let listed := fun (path : Bytes) =>
    match t.folder (toText path) with
    | .ok place =>
      let names := (Wildcard.namesAt t place).map ofText
      let shown := names.filter fun n =>
        given options 'a' || given options 'A' || n.head? != some '.'
      let dots := if given options 'a' then [['.'], ['.', '.']] else []
      (dots ++ shown).flatMap (· ++ ['\n'])
    | .error _ => path ++ ['\n']
  let paths := if operands.isEmpty then [['.']] else operands
  let several := 1 < paths.length
  paths |> forEach fun path => do
    if !t.occupied (toText path) then
      let _ ← refuse "ls" "cannot access" path .notFound
      return 2
    else if several && t.hasFolder (toText path) then
      Run.write 1 (path ++ [':', '\n'] ++ listed path)
      return 0
    else
      Run.write 1 (listed path)
      return 0

/-! Lines of text -/

/-- The lines of a text; a line break ends a line and need not end the last one. -/
def linesOf (text : Bytes) : List Bytes :=
  match (Text.splitOn '\n' text).reverse with
  | [] :: back => back.reverse
  | back => back.reverse

/-- Lines as a text. -/
def unlines (lines : List Bytes) : Bytes := lines.flatMap (· ++ ['\n'])

/-- How many lines or bytes are asked for, with whether they count from the start. -/
def countOf (value : Bytes) : Bool × Nat :=
  match value with
  | '+' :: ds => (true, Number.ofDigits ds)
  | '-' :: ds => (false, Number.ofDigits ds)
  | ds => (false, Number.ofDigits ds)

/-- Arguments in which a row of digits behind a hyphen is spelled as an option. -/
def spellCount (args : List Bytes) : List Bytes := args.flatMap fun
  | '-' :: ds => if Number.isDigits ds then [['-', 'n'], ds] else ['-' :: ds]
  | arg => [arg]

/-- The first lines or bytes of a text. -/
def firstPart (options : List (Char × Bytes)) (text : Bytes) : Bytes :=
  match valueOf? options 'c' with
  | some n => text.take (countOf n).2
  | none =>
    let n := (valueOf? options 'n').getD ['1', '0']
    let lines := fullLines text
    (if n.head? == some '-' then lines.take (lines.length - (countOf n).2)
     else lines.take (countOf n).2).flatten

/-- The last lines or bytes of a text. -/
def lastPart (options : List (Char × Bytes)) (text : Bytes) : Bytes :=
  let cut := fun (n : Bool × Nat) (size : Nat) => if n.1 then n.2 - 1 else size - n.2
  match valueOf? options 'c' with
  | some n => text.drop (cut (countOf n) text.length)
  | none =>
    let lines := fullLines text
    (lines.drop (cut (countOf ((valueOf? options 'n').getD ['1', '0'])) lines.length)).flatten

/-- Writes parts of files. -/
def parts (tool : String) (part : List (Char × Bytes) → Bytes → Bytes) : Behaviour := fun args => do
  let (options, paths) := optionsOf "nc" (spellCount args)
  let wording := fun path why => tool ++ ": cannot open '" ++ path ++ "' for reading: " ++ why
  let (found, ok) ← contents wording paths
  let headed := 1 < paths.length
  let texts := found.map fun (name, text) =>
    (if headed then "==> ".toList ++ name ++ " <==\n".toList else []) ++ part options text
  Run.write 1 (Text.joinWith (if headed then ['\n'] else []) texts)
  return if ok then 0 else 1

/-- How many words a text has. -/
def wordCount (text : Bytes) : Nat :=
  ((text.splitBy fun a b => a.isWhitespace == b.isWhitespace).filter
    fun w => !(w.head?.map Char.isWhitespace).getD true).length

/-- Counts lines, words and bytes. -/
def wc : Behaviour := fun args => do
  let (options, paths) := optionsOf "" args
  let (found, ok) ← contents (plainWording "wc") paths
  let all := !(['l', 'w', 'c', 'm'].any (given options))
  let counts := fun (text : Bytes) =>
    (if all || given options 'l' then [text.count '\n'] else []) ++
    (if all || given options 'w' then [wordCount text] else []) ++
    (if all || given options 'c' || given options 'm' then [text.length] else [])
  let total := (found.map fun f => f.2.length).foldl (· + ·) 0
  let single := (counts []).length == 1 && found.length ≤ 1
  let width := if single then 1 else if paths.isEmpty then 7 else (toString total).length
  let row := fun (ns : List Nat) (name : Bytes) =>
    let cells := ns.map fun n =>
      let text := (toString n).toList
      List.replicate (width - text.length) ' ' ++ text
    Text.joinWith [' '] cells ++ (if name.isEmpty then [] else ' ' :: name) ++ ['\n']
  let rows := found.map fun (name, text) => row (counts text) name
  let zeros := (counts []).map fun _ => 0
  let sums := found.foldl (fun ns f => List.zipWith (· + ·) ns (counts f.2)) zeros
  Run.write 1 (rows.flatten ++ (if 1 < paths.length then row sums "total".toList else []))
  return if ok then 0 else 1

/-- The number a line starts with. -/
def leadingNumber (line : Bytes) : Int :=
  let line := line.dropWhile (· == ' ')
  let (negative, ds) := match line with
    | '-' :: ds => (true, ds)
    | ds => (false, ds)
  let n := (Number.ofDigits (ds.takeWhile Char.isDigit) : Int)
  if negative then -n else n

/-- Whether a row of bytes comes before, or is, another one. -/
def bytesLe : Bytes → Bytes → Bool
  | [], _ => true
  | _ :: _, [] => false
  | a :: as, b :: bs => a < b || (a == b && bytesLe as bs)

/-- Lines without those that are level with the last one before that is kept. -/
def dropLevel (level : Bytes → Bytes → Bool) (lines : List Bytes) : List Bytes :=
  (lines.foldl (fun kept l => match kept with
    | k :: _ => if level k l then kept else l :: kept
    | [] => [l]) []).reverse

/-- A key that lines are sorted by: the first and last field, and how they are compared. -/
structure SortKey where
  first : Nat
  last : Option Nat
  numeric : Bool
  reversed : Bool
  folded : Bool

/-- Reads a key: numbers of fields with letters behind them, or else the letters given for all
keys. -/
def sortKey (all : Bytes) (text : Bytes) : SortKey :=
  let number := fun (cs : Bytes) => Number.ofDigits (cs.takeWhile Char.isDigit)
  let letters := fun (cs : Bytes) => cs.filter Char.isAlpha
  let (first, last) := match Text.splitOnce? ',' text with
    | some (a, b) => (a, some b)
    | none => (text, none)
  let own := letters first ++ letters (last.getD [])
  let how := if own.isEmpty then all else own
  ⟨number first, last.map number, how.contains 'n', how.contains 'r', how.contains 'f'⟩

/-- The fields of a line: between separators, or each with the blanks before it. -/
def sortFields (separator : Option Char) (line : Bytes) : List Bytes :=
  match separator with
  | some c => Text.splitOn c line
  | none => line.splitBy fun a b => Text.isBlank a || !Text.isBlank b

/-- What a line is compared by under a key. -/
def keyText (separator : Option Char) (key : SortKey) (line : Bytes) : Bytes :=
  let fields := (sortFields separator line).drop (key.first - 1)
  let fields := match key.last with
    | some n => fields.take (n + 1 - key.first)
    | none => fields
  let text := Text.joinWith separator.toList fields
  if key.folded then text.map Char.toUpper else text

/-- Whether the first of two texts comes before, or level with, the other one under a key, and
whether they are level. -/
def compareUnder (key : SortKey) (a b : Bytes) : Bool × Bool :=
  let (le, ge) :=
    if key.numeric then
      (decide (leadingNumber a ≤ leadingNumber b), decide (leadingNumber b ≤ leadingNumber a))
    else (bytesLe a b, bytesLe b a)
  (if key.reversed then ge else le, le && ge)

/-- Sorts lines by keys, or by all of them, and those that are level by their bytes. -/
def sort : Behaviour := fun args => do
  let (options, paths) := optionsOf "kto" args
  let (found, ok) ← contents (fun path why => "sort: cannot read: " ++ path ++ ": " ++ why) paths
  let lines := found.flatMap fun f => linesOf f.2
  let separator := (valueOf? options 't').bind List.head?
  let all := options.filterMap fun o => if o.2.isEmpty then some o.1 else none
  let keys := (options.filter fun o => o.1 == 'k').map fun o => sortKey all o.2
  let whole : SortKey := ⟨1, none, all.contains 'n', all.contains 'r', all.contains 'f'⟩
  let keys := if keys.isEmpty then [whole] else keys
  let isUnique := given options 'u'
  let compare := fun (a b : Bytes) =>
    keys.foldr (fun key next =>
      let (x, y) := (keyText separator key a, keyText separator key b)
      let (le, level) := compareUnder key x y
      if level then next else (le, false))
      (if isUnique || given options 's' then (true, true)
       else compareUnder ⟨1, none, false, all.contains 'r', false⟩ a b)
  let ordered := lines.mergeSort fun a b => (compare a b).1
  let ordered := if isUnique then dropLevel (fun a b => (compare a b).2) ordered else ordered
  match valueOf? options 'o' with
  | some path =>
    let status ← change "sort" "open failed" path fun t p => t.write p (pack (unlines ordered))
    return if ok then 2 * status else 2
  | none =>
    Run.write 1 (unlines ordered)
    return if ok then 0 else 2

/-- Groups lines that repeat the line before. -/
def uniq : Behaviour := fun args => do
  let (options, paths) := optionsOf "" args
  let (found, ok) ← contents (plainWording "uniq") (paths.take 1)
  let groups := (found.flatMap fun f => linesOf f.2).splitBy fun a b => a == b
  let chosen := groups.filter fun g =>
    (!given options 'd' || 1 < g.length) && (!given options 'u' || g.length == 1)
  let row := fun (g : List Bytes) =>
    let count := (toString g.length).toList
    (if given options 'c' then List.replicate (7 - count.length) ' ' ++ count ++ [' '] else []) ++
      g.head?.getD []
  Run.write 1 (unlines (chosen.map row))
  return if ok then 0 else 1

/-- The characters of a class by name. -/
def classChars (name : String) : List Char :=
  let ascii := (List.range 128).map Char.ofNat
  match name with
  | "upper" => ascii.filter Char.isUpper
  | "lower" => ascii.filter Char.isLower
  | "digit" => ascii.filter Char.isDigit
  | "alpha" => ascii.filter Char.isAlpha
  | "alnum" => ascii.filter Char.isAlphanum
  | "space" => "\t\n\x0b\x0c\r ".toList
  | "blank" => ['\t', ' ']
  | "punct" => ascii.filter fun c => 0x20 < c.toNat && c.toNat < 0x7f && !c.isAlphanum
  | _ => []

/-- The characters of a set as `tr` spells it. -/
def charSet : Nat → Bytes → List Char
  | 0, _ => []
  | _, [] => []
  | fuel + 1, '[' :: ':' :: rest =>
    let name := rest.takeWhile (· != ':')
    classChars (String.ofList name) ++ charSet fuel (rest.drop (name.length + 2))
  | fuel + 1, '\\' :: c :: rest => ((Sed.escape? c).getD c) :: charSet fuel rest
  | fuel + 1, a :: '-' :: b :: rest =>
    ((List.range (b.toNat + 1 - a.toNat)).map fun i => Char.ofNat (a.toNat + i)) ++
      charSet fuel rest
  | fuel + 1, c :: rest => c :: charSet fuel rest

/-- The place of a character in a row. -/
def place? (c : Char) : List Char → Option Nat
  | [] => none
  | d :: ds => if c = d then some 0 else (place? c ds).map (· + 1)

/-- Without characters of a set that repeat the one before. -/
def squeeze (among : Char → Bool) : Bytes → Bytes
  | a :: b :: rest =>
    if a = b ∧ among a then squeeze among (b :: rest) else a :: squeeze among (b :: rest)
  | cs => cs

/-- Replaces or deletes characters. -/
def tr : Behaviour := fun args => do
  let (options, sets) := optionsOf "" args
  let setOf := fun (i : Nat) => charSet (((sets[i]?).getD []).length + 1) ((sets[i]?).getD [])
  let (old, new) := (setOf 0, setOf 1)
  let among := fun (c : Char) => (old.contains c) != (given options 'c' || given options 'C')
  let text ← takeInput
  if given options 'd' then
    Run.write 1 (text.filter fun c => !among c)
  else
    let put := fun (c : Char) =>
      if !among c then c
      else ((new[(place? c old).getD new.length]?).or new.getLast?).getD c
    let mapped := if new.isEmpty then text else text.map put
    let squeezed := if new.isEmpty then among else fun c => new.contains c
    Run.write 1 (if given options 's' then squeeze squeezed mapped else mapped)
  return 0

/-- The ranges of a list as `cut` spells it; an open end is the length of the row. -/
def chosenBy (list : Bytes) (i : Nat) : Bool :=
  (Text.splitOn ',' list).any fun part =>
    match Text.splitOnce? '-' part with
    | none => Number.ofDigits part == i
    | some (a, b) =>
      (a.isEmpty || Number.ofDigits a ≤ i) && (b.isEmpty || i ≤ Number.ofDigits b)

/-- The items of a row whose numbers, from one on, are chosen. -/
def choose {α : Type} (list : Bytes) (items : List α) : List α :=
  (items.zipIdx 1).filterMap fun (x, i) => if chosenBy list i then some x else none

/-- Cuts fields or characters out of lines. -/
def cut : Behaviour := fun args => do
  let (options, paths) := optionsOf "dfcb" args
  let (found, ok) ← contents (plainWording "cut") paths
  let separator := (((valueOf? options 'd').getD ['\t']).head?).getD '\t'
  let line := fun (l : Bytes) =>
    match valueOf? options 'f' with
    | some list =>
      if l.contains separator then
        Text.joinWith [separator] (choose list (Text.splitOn separator l))
      else l
    | none => choose (((valueOf? options 'c').or (valueOf? options 'b')).getD []) l
  Run.write 1 (unlines ((found.flatMap fun f => linesOf f.2).map line))
  return if ok then 0 else 1

/-- Finds lines. -/
def grep : Behaviour := fun args => do
  let (options, operands) := optionsOf "e" args
  let (pattern, paths) := match valueOf? options 'e', operands with
    | some p, paths => (p, paths)
    | none, p :: paths => (p, paths)
    | none, [] => ([], [])
  let extended := given options 'E'
  let source := if given options 'F' then Pattern.escapeText pattern
    else Sed.patternSource extended pattern
  match Pattern.Program.compile? (given options 'i') false (String.ofList source) with
  | none =>
    Run.complain "grep: Invalid regular expression"
    return 2
  | some prog =>
    let (found, ok) ← contents (plainWording "grep") paths
    let fits := fun (l : Bytes) => (prog.find? l).isSome != given options 'v'
    let label := fun (name : Bytes) =>
      if 1 < paths.length && !given options 'h' then name ++ [':'] else []
    let hits := found.map fun (name, text) =>
      (name, ((linesOf text).zipIdx 1).filter fun (l : Bytes × Nat) => fits l.1)
    let any := hits.any fun h => !h.2.isEmpty
    if !given options 'q' then
      let text := hits.flatMap fun (name, lines) =>
        if given options 'c' then label name ++ ofText (toString lines.length) ++ ['\n']
        else if given options 'l' then (if lines.isEmpty then [] else name ++ ['\n'])
        else lines.flatMap fun (l, i) =>
          let number := if given options 'n' then ofText (toString i) ++ [':'] else []
          label name ++ number ++ l ++ ['\n']
      Run.write 1 text
    return if !ok then 2 else if any then 0 else 1

/-- Edits lines. -/
def sed : Behaviour := fun args => do
  let (options, operands) := optionsOf "ef" args
  let (script, paths) := match valueOf? options 'e', operands with
    | some _, paths =>
      (Text.joinWith ['\n'] ((options.filter fun o => o.1 == 'e').map Prod.snd), paths)
    | none, p :: paths => (p, paths)
    | none, [] => ([], [])
  match Sed.read? (given options 'E' || given options 'r') script with
  | none =>
    Run.complain "sed: -e expression #1, char 1: unknown command"
    return 1
  | some edits =>
    let wording := fun path why => "sed: can't read " ++ path ++ ": " ++ why
    let (found, ok) ← contents wording paths
    if given options 'i' then
      for (name, text) in found do
        let edited := Sed.run edits (given options 'n') text
        let _ ← change "sed" "cannot write" name fun t p => t.write p (pack edited)
    else Run.write 1 (Sed.run edits (given options 'n') (found.flatMap Prod.snd))
    return if ok then 0 else 2

/-- Copies what it reads to files and to its output. -/
def tee : Behaviour := fun args => do
  let (options, paths) := optionsOf "" args
  let text ← takeInput
  Run.write 1 text
  paths |> forEach fun path =>
    change "tee" "cannot write" path fun t p =>
      let before := if given options 'a' then ((t.read p).toOption).getD ByteArray.empty
        else ByteArray.empty
      t.write p (before ++ pack text)

/-- The name of a file without its folders and a suffix. -/
def basename : Behaviour := fun args => do
  let (options, operands) := optionsOf "s" args
  let (paths, suffix) := match valueOf? options 's', operands with
    | some s, paths => (paths, s)
    | none, [path, s] => if given options 'a' then ([path, s], []) else ([path], s)
    | none, paths => (paths, [])
  let name := fun (path : Bytes) =>
    let last := if path.isEmpty then [] else ((Path.segments path).getLast?).getD
      (if Path.isAbsolute path then ['/'] else ['.'])
    match Text.dropTail? suffix last with
    | some stem => if stem.isEmpty then last else stem
    | none => last
  Run.write 1 (unlines (paths.map name))
  return 0

/-- The folders above a file. -/
def dirname : Behaviour := fun args => do
  let (_, paths) := optionsOf "" args
  let above := fun (path : Bytes) =>
    match (path.reverse.dropWhile (· == '/')).dropWhile (· != '/') with
    | [] => if Path.isAbsolute path then ['/'] else ['.']
    | back =>
      match back.dropWhile (· == '/') with
      | [] => ['/']
      | back => back.reverse
  Run.write 1 (unlines (paths.map above))
  return 0

/-- Counts from one number to another. -/
def seq : Behaviour := fun args => do
  let ns := args.map fun a => ((Number.readInt? a).map Int64.toInt).getD 0
  let (first, step, last) := match ns with
    | [last] => ((1 : Int), (1 : Int), last)
    | [first, last] => (first, 1, last)
    | [first, step, last] => (first, step, last)
    | _ => (1, 1, 0)
  let count := if step = 0 then 0 else ((last - first) / step + 1).toNat
  Run.write 1 (unlines ((List.range count).map fun (i : Nat) =>
    ofText (toString (first + step * Int.ofNat i))))
  return 0

/-- Does nothing, well. -/
def succeed : Behaviour := fun _ => return 0

/-- Does nothing, badly. -/
def fail : Behaviour := fun _ => return 1

/-- Refuses a path that leads to nothing. -/
def needsFile (tool action : String) : Behaviour := fun args => do
  let (_, operands) := optionsOf "" args
  (operands.drop 1) |> forEach fun path => do
    if (← get).files.occupied (toText path) then return 0
    else refuse tool action path .notFound

/-- Shows the variables that programs see. -/
def env : Behaviour := fun _ => do
  let s ← get
  let shown := s.vars.filter fun v => s.exported.contains v.1
  Run.write 1 (unlines (shown.map fun v => v.1 ++ '=' :: v.2))
  return 0

/-- Shows variables that programs see, all or those of some names. -/
def printenv : Behaviour := fun names => do
  let s ← get
  if names.isEmpty then env []
  else
    names |> forEach fun name =>
      match (s.vars.lookup name).filter fun _ => s.exported.contains name with
      | some value => do
        Run.write 1 (value ++ ['\n'])
        return 0
      | none => return 1

/-- Numbers the lines that are not empty. -/
def nl : Behaviour := fun args => do
  let (found, ok) ← contents (plainWording "nl") args
  let rec number : Nat → List Bytes → Bytes
    | _, [] => []
    | n, l :: ls =>
      if l = ['\n'] then List.replicate 7 ' ' ++ l ++ number n ls
      else padNumber 6 n ++ '\t' :: l ++ number (n + 1) ls
  Run.write 1 (number 1 (fullLines (found.flatMap Prod.snd)))
  return if ok then 0 else 1

/-- Writes lines in reverse order. -/
def tac : Behaviour := fun args => do
  let (found, ok) ← contents (plainWording "tac") args
  Run.write 1 (unlines (linesOf (found.flatMap Prod.snd)).reverse)
  return if ok then 0 else 1

/-- Writes lines with the characters of each in reverse order. -/
def rev : Behaviour := fun args => do
  let (found, ok) ← contents (plainWording "rev") args
  Run.write 1 (unlines ((linesOf (found.flatMap Prod.snd)).map List.reverse))
  return if ok then 0 else 1

/-- Tells whether two files are the same. -/
def cmp : Behaviour := fun args => do
  let (_, operands) := optionsOf "" args
  let (found, ok) ← contents (plainWording "cmp") operands
  match ok, found with
  | true, [a, b] => return if a.2 = b.2 then 0 else 1
  | _, _ => return 2

/-- The tools by name. -/
def all : List (String × Behaviour) :=
  [("cat", cat), ("rm", rm), ("mkdir", mkdir), ("touch", touch), ("cp", cp), ("mv", mv),
    ("ls", ls), ("head", parts "head" firstPart), ("tail", parts "tail" lastPart), ("wc", wc),
    ("sort", sort), ("uniq", uniq), ("tr", tr), ("cut", cut), ("grep", grep), ("sed", sed),
    ("tee", tee), ("basename", basename), ("dirname", dirname), ("seq", seq), ("env", env),
    ("printenv", printenv), ("nl", nl), ("tac", tac), ("rev", rev), ("cmp", cmp), ("diff", cmp),
    ("rmdir", fun args => (optionsOf "" args).2 |> forEach fun path =>
      change "rmdir" "failed to remove" path removeFolder),
    ("unlink", fun args => args |> forEach fun path =>
      change "unlink" "cannot unlink" path FileTree.removeFile),
    ("chmod", needsFile "chmod" "cannot access"), ("chown", needsFile "chown" "cannot access"),
    ("sleep", succeed), ("sync", succeed), ("true", succeed), ("false", fail)]

end Tool
end Script
end MailMerge
