/-
# Trees of YAML

A document is a tree of scalars, sequences and mappings, each with the tag it is
given.  An alias stands for the tree of its anchor.  Anchors are numbered: one gets as
its number how many different names there have been before it.  So a name that is
given again shares its number with the next new name, and of all anchors of a number
the last one in the document counts.  A stream holds at most one document.

Aliases are replaced once the document has been read.  So that few characters cannot
stand for a tree of any size, it has at most a hundred aliases, counted in the full
tree, for each of its parts, and they lead at most as deep into each other as data may
be nested: a tree that would hold itself goes beyond that.

Every token is taken once, and at most two steps are made for one, which bounds the
depth of the reader.
-/

import MailMerge.Yaml.Token

namespace MailMerge
namespace Yaml

/-- A tree of YAML. -/
inductive Tree where
  | scalar (tag : Option String) (style : Style) (text : String)
  | sequence (tag : Option String) (items : List Tree)
  | mapping (tag : Option String) (entries : List (Tree × Tree))
  /-- what stands where the anchor of this number is -/
  | ofAnchor (number : Nat)

instance : Inhabited Tree := ⟨.scalar none .plain ""⟩

namespace Tree

/-- The tree where nothing is written. -/
def empty : Tree := .scalar none .plain ""

/-- What the reader holds: the tokens ahead, what the handles of tags stand for, the names of
anchors with their numbers, the numbered trees in the order in which they start, and how many
parts have been read. -/
structure ReadState where
  rest : List Token
  handles : List (String × String) := [("!", "!"), ("!!", "tag:yaml.org,2002:")]
  anchors : List (String × Nat) := []
  numbered : Array (Nat × Tree) := #[]
  parts : Nat := 0

/-- A reader of trees, which fails where tokens are out of order. -/
abbrev Reader (α : Type) := StateT ReadState Option α

/-- The next token. -/
def peek : Reader (Option Token) := return (← get).rest.head?

/-- Goes on behind the next token. -/
def skip : Reader Unit := modify fun s => { s with rest := s.rest.drop 1 }

/-- Takes a token if it is the next one. -/
def takes (t : Token) : Reader Bool := do
  if (← peek) == some t then
    skip
    return true
  else return false

/-- Whether the next token is one of some tokens. -/
def seesAny (ts : List Token) : Reader Bool := return ((← peek).map ts.contains).getD false

/-- Counts parts of the document. -/
def count (n : Nat) : Reader Unit := modify fun s => { s with parts := s.parts + n }

/-- The empty tree, which is a part too. -/
def nothing : Reader Tree := do
  count 1
  return empty

/-- The full text of a tag. -/
def resolveTag (handle suffix : String) : Reader String := do
  if handle.isEmpty then return suffix
  else
    match (← get).handles.lookup handle with
    | some text => return text ++ suffix
    | none => failure

/-- Takes an anchor and a tag in either order, each if it is there. -/
def properties : Nat → Option String → Option String → Reader (Option String × Option String)
  | 0, anchor, tag => return (anchor, tag)
  | fuel + 1, anchor, tag => do
    match (← peek), anchor, tag with
    | some (.anchor name), none, tag =>
      skip
      properties fuel (some name) tag
    | some (.tag handle suffix), anchor, none =>
      skip
      let text ← resolveTag handle suffix
      properties fuel anchor (some text)
    | _, anchor, tag => return (anchor, tag)

/-- Numbers an anchor and keeps a place for its tree.  The result is that place. -/
def openAnchor (name : String) : Reader Nat := do
  let s ← get
  let number := s.anchors.length
  set { s with
    anchors := (name, number) :: s.anchors.filter fun a => a.1 != name
    numbered := s.numbered.push (number, empty) }
  return s.numbered.size

/-- Puts a tree into the place that is kept for it. -/
def closeAnchor (place : Nat) (t : Tree) : Reader Unit :=
  modify fun s => { s with numbered := s.numbered.modify place fun p => (p.1, t) }

/-- The tree of an alias. -/
def ofAlias (name : String) : Reader Tree := do
  count 1
  match (← get).anchors.lookup name with
  | some number => return .ofAnchor number
  | none => failure

mutual

/-- Reads a tree.  `block` says whether a block may start, `bare` whether the items of a
sequence may follow without a block of their own. -/
def node : Nat → Bool → Bool → Reader Tree
  | 0, _, _ => failure
  | fuel + 1, block, bare => do
    match ← peek with
    | some (.alias name) =>
      skip
      ofAlias name
    | _ =>
      let (anchor, tag) ← properties 3 none none
      let place ← anchor.mapM openAnchor
      let t ← content fuel block bare (anchor.isSome || tag.isSome) tag
      place.forM fun place => closeAnchor place t
      return t

/-- Reads what follows the properties of a tree, which is nothing if it has some. -/
def content : Nat → Bool → Bool → Bool → Option String → Reader Tree
  | 0, _, _, _, _ => failure
  | fuel + 1, block, bare, optional, tag => do
    match ← peek with
    | some (.scalar style text) =>
      skip
      count 1
      return .scalar (tag.filter fun tag => tag ≠ "!") style text
    | some .flowSequence =>
      skip
      count 2
      return .sequence tag (← flowItems fuel true)
    | some .flowMapping =>
      skip
      count 2
      return .mapping tag (← flowEntries fuel true)
    | some .item =>
      if bare then
        count 2
        return .sequence tag (← bareItems fuel)
      else missing optional tag
    | some .blockSequence =>
      if block then
        skip
        count 2
        return .sequence tag (← blockItems fuel)
      else missing optional tag
    | some .blockMapping =>
      if block then
        skip
        count 2
        return .mapping tag (← blockEntries fuel)
      else missing optional tag
    | _ => missing optional tag

/-- The empty tree under a tag, where a tree may be missing. -/
def missing (optional : Bool) (tag : Option String) : Reader Tree :=
  if optional then do
    count 1
    return .scalar tag .plain ""
  else failure

/-- Reads the items of a block sequence up to its end. -/
def blockItems : Nat → Reader (List Tree)
  | 0 => failure
  | fuel + 1 => do
    if ← takes .blockEnd then return []
    else if ← takes .item then
      let t ← if ← seesAny [.item, .blockEnd] then nothing else node fuel true false
      return t :: (← blockItems fuel)
    else failure

/-- Reads the items of a sequence that is no block of its own. -/
def bareItems : Nat → Reader (List Tree)
  | 0 => failure
  | fuel + 1 => do
    if ← takes .item then
      let t ← if ← seesAny [.item, .key, .value, .blockEnd] then nothing else node fuel true false
      return t :: (← bareItems fuel)
    else return []

/-- Reads the entries of a block mapping up to its end. -/
def blockEntries : Nat → Reader (List (Tree × Tree))
  | 0 => failure
  | fuel + 1 => do
    let part : Reader Tree := do
      if ← seesAny [.key, .value, .blockEnd] then nothing else node fuel true true
    if ← takes .blockEnd then return []
    else if ← takes .key then
      let k ← part
      let v ← if ← takes .value then part else nothing
      return (k, v) :: (← blockEntries fuel)
    else failure

/-- Reads the items of a sequence in brackets.  An item with a key is a mapping of one
entry. -/
def flowItems : Nat → Bool → Reader (List Tree)
  | 0, _ => failure
  | fuel + 1, first => do
    if ← takes .flowSequenceEnd then return []
    if !first then
      if !(← takes .comma) then failure
    if ← takes .flowSequenceEnd then return []
    if ← takes .key then
      count 2
      let k ← if ← seesAny [.value, .comma, .flowSequenceEnd] then do
          skip
          nothing
        else node fuel false false
      let v ← if ← takes .value then
          (do if ← seesAny [.comma, .flowSequenceEnd] then nothing else node fuel false false)
        else nothing
      return .mapping none [(k, v)] :: (← flowItems fuel false)
    else
      let t ← node fuel false false
      return t :: (← flowItems fuel false)

/-- Reads the entries of a mapping in braces.  An entry without a key mark has no value. -/
def flowEntries : Nat → Bool → Reader (List (Tree × Tree))
  | 0, _ => failure
  | fuel + 1, first => do
    if ← takes .flowMappingEnd then return []
    if !first then
      if !(← takes .comma) then failure
    if ← takes .flowMappingEnd then return []
    if ← takes .key then
      let k ← if ← seesAny [.value, .comma, .flowMappingEnd] then nothing else node fuel false false
      let v ← if ← takes .value then
          (do if ← seesAny [.comma, .flowMappingEnd] then nothing else node fuel false false)
        else nothing
      return (k, v) :: (← flowEntries fuel false)
    else
      let k ← node fuel false false
      let v ← nothing
      return (k, v) :: (← flowEntries fuel false)

end

/-- Reads directives: at most one version, which has to be 1.1 or 1.2, and one text for each
handle. -/
def directives : Nat → Bool → List String → Reader Bool
  | 0, seen, _ => return seen
  | fuel + 1, versioned, handles => do
    match ← peek with
    | some (.version major minor) =>
      if versioned || major ≠ 1 || !(minor == 1 || minor == 2) then failure
      skip
      directives fuel true handles
    | some (.tagPrefix handle text) =>
      if handles.contains handle then failure
      skip
      modify fun s => { s with handles := (handle, text) :: s.handles }
      directives fuel versioned (handle :: handles)
    | _ => return versioned || !handles.isEmpty

/-- Goes on over the marks that end a document. -/
def skipEnds : Nat → Reader Unit
  | 0 => pure ()
  | fuel + 1 => do
    if ← takes .documentEnd then skipEnds fuel

/-- Whether the next token belongs to no document. -/
def atBoundary : Reader Bool := do
  match ← peek with
  | none => return true
  | some (.version _ _) => return true
  | some (.tagPrefix _ _) => return true
  | some .documentStart => return true
  | some .documentEnd => return true
  | _ => return false

/-! Aliases -/

/-- A computation that counts aliases and fails where there are too many. -/
abbrev Counting (α : Type) := StateT Nat Option α

mutual

/-- A copy of a tree with other trees in the places of anchors. -/
def replaceWith (f : Nat → Counting Tree) : Tree → Counting Tree
  | .ofAnchor number => f number
  | .sequence tag items => return .sequence tag (← replaceItems f items)
  | .mapping tag entries => return .mapping tag (← replaceEntries f entries)
  | .scalar tag style text => return .scalar tag style text

/-- `replaceWith` for the items of a sequence. -/
def replaceItems (f : Nat → Counting Tree) : List Tree → Counting (List Tree)
  | [] => return []
  | t :: ts => return (← replaceWith f t) :: (← replaceItems f ts)

/-- `replaceWith` for the entries of a mapping. -/
def replaceEntries (f : Nat → Counting Tree) :
    List (Tree × Tree) → Counting (List (Tree × Tree))
  | [] => return []
  | (k, v) :: rest =>
    return (← replaceWith f k, ← replaceWith f v) :: (← replaceEntries f rest)

end

/-- The tree of a number: the last one that has it. -/
def ofNumber? (numbered : Array (Nat × Tree)) (number : Nat) : Option Tree :=
  (numbered.toList.reverse.lookup number)

/-- Replaces all aliases, through at most `depth` of them one inside the other and up to a
number of them in all. -/
def replaceAliases (numbered : Array (Nat × Tree)) (limit : Nat) : Nat → Tree → Counting Tree
  | 0 => replaceWith fun _ => failure
  | depth + 1 => replaceWith fun number => do
    let before ← get
    if limit ≤ before then failure
    set (before + 1)
    match ofNumber? numbered number with
    | some t => replaceAliases numbered limit depth t
    | none => failure

/-- How deep data may be nested. -/
def depthLimit : Nat := 128

/-- Reads the document of a stream, if it has one. -/
def document (fuel : Nat) : Reader (Option Tree) := do
  if (← peek).isNone then return none
  let directed ← directives fuel false []
  let started ← takes .documentStart
  if directed && !started then failure
  let t ← if started then
      (do if ← atBoundary then nothing else node fuel true false)
    else node fuel true false
  skipEnds fuel
  if (← peek).isSome then failure
  let s ← get
  match (replaceAliases s.numbered (100 * s.parts) (depthLimit + 1) t).run 0 with
  | some (full, _) => return some full
  | none => failure

/-- The document in the tokens of a stream.  The outer option is about whether the stream is in
order, the inner one about whether it holds a document. -/
def ofTokens? (ts : List Token) : Option (Option Tree) :=
  ((document (4 * ts.length + 8)).run { rest := ts }).map Prod.fst

end Tree

end Yaml
end MailMerge
