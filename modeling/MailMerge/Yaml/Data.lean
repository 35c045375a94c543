/-
# The data of a tree of YAML

A plain scalar is a constant, a number or a text, as its spelling says: `null`, `~`
and nothing are null, `true` and `false` are booleans, and digits are numbers unless
they start with an idle zero.  A quoted scalar is a text.  Standard tags ask for one
kind of scalar, other tags are kept beside the data.  No mapping has the same key
twice, and nothing is nested more than 128 deep.
-/

import MailMerge.Yaml.Lexer
import MailMerge.Yaml.Tree
import MailMerge.Number.Text
import MailMerge.Value.Display

namespace MailMerge
namespace Yaml

/-- What a tree of YAML stands for. -/
inductive Data where
  | null
  | bool (b : Bool)
  | int (n : Int)
  | float (x : Float)
  | str (s : String)
  | seq (items : List Data)
  | map (entries : List (Data × Data))
  | tagged (tag : String) (data : Data)

namespace Scalar

/-- Whether a text spells null. -/
def isNull (s : String) : Bool := ["null", "Null", "NULL", "~"].contains s

/-- The boolean that a text spells. -/
def bool? (s : String) : Option Bool :=
  if ["true", "True", "TRUE"].contains s then some true
  else if ["false", "False", "FALSE"].contains s then some false
  else none

/-- A text without a plus at its start. -/
def dropPlus : List Char → List Char
  | '+' :: cs => cs
  | cs => cs

/-- Whether a text is digits with an idle zero before them, which is no number. -/
def hasIdleZero (cs : List Char) : Bool :=
  match (Number.splitSign cs).2 with
  | '0' :: c :: rest => (c :: rest).all Char.isDigit
  | _ => false

/-- The number that digits of a radix denote, if there are any. -/
def digits? (radix : Nat) (cs : List Char) : Option Nat :=
  if !cs.isEmpty && cs.all (fun c => (Number.radixValue? radix c).isSome) then
    some (Number.ofRadix radix cs)
  else none

/-- The number that unsigned digits denote, behind the mark of their radix if it is not ten. -/
def natural? (cs : List Char) : Option Nat :=
  match cs with
  | '0' :: 'x' :: ds => digits? 16 ds
  | '0' :: 'o' :: ds => digits? 8 ds
  | '0' :: 'b' :: ds => digits? 2 ds
  | ds => if hasIdleZero ds then none else digits? 10 ds

/-- The integer that a text spells. -/
def integer? (cs : List Char) : Option Int :=
  match cs with
  | '-' :: ds => (natural? ds).map fun n => -(n : Int)
  | '+' :: ds => (natural? ds).map Int.ofNat
  | ds => (natural? ds).map Int.ofNat

/-- The integers wider than a double word that are still no decimal fractions: 128 bits. -/
def isHuge (n : Int) : Bool := n < -(Nat.pow 2 127 : Int) || (Nat.pow 2 128 : Int) ≤ n

/-- The integers that can be held. -/
def isHeld (n : Int) : Bool := -(Nat.pow 2 63 : Int) ≤ n && n < (Nat.pow 2 64 : Int)

/-- The floating-point number that a text spells. -/
def float? (cs : List Char) : Option Float :=
  let body := dropPlus cs
  let text := String.ofList cs
  if cs.head? == some '+' && (body.head? == some '+' || body.head? == some '-') then none
  else if [".inf", ".Inf", ".INF"].contains (String.ofList body) then some (1.0 / 0.0)
  else if ["-.inf", "-.Inf", "-.INF"].contains text then some (-1.0 / 0.0)
  else if [".nan", ".NaN", ".NAN"].contains text then some (0.0 / 0.0)
  else (Number.readFloat? body).filter Float.isFinite

/-- The number that a text spells, as data.  The outer option says whether it spells one, the
inner one whether that can be held. -/
def number? (cs : List Char) : Option (Option Data) :=
  match (integer? cs).filter fun n => !isHuge n with
  | some n => some (if isHeld n then some (.int n) else none)
  | none => if hasIdleZero cs then none else (float? cs).map fun x => some (.float x)

/-- The data of a plain scalar without a tag. -/
def plain? (s : String) : Option Data :=
  if s.isEmpty || isNull s then some .null
  else
    match bool? s with
    | some b => some (.bool b)
    | none => (number? s.toList).getD (some (.str s))

/-- The tag that standard kinds of scalars have. -/
def standardTag (kind : String) : String := "tag:yaml.org,2002:" ++ kind

/-- The data of a scalar with a tag of its own. -/
def tagged? (tag : String) (s : String) : Option Data :=
  if tag = standardTag "bool" then (bool? s).map .bool
  else if tag = standardTag "int" then
    ((integer? s.toList).filter fun n => !isHuge n && isHeld n).map .int
  else if tag = standardTag "float" then (float? s.toList).map .float
  else if tag = standardTag "null" then (if isNull s then some .null else none)
  else some (.str s)

end Scalar

namespace Data

mutual

/-- Whether two data are the same. -/
def same : Data → Data → Bool
  | .null, .null => true
  | .bool a, .bool b => a == b
  | .int a, .int b => a == b
  | .float x, .float y => x == y || (x.isNaN && y.isNaN)
  | .str a, .str b => a == b
  | .seq xs, .seq ys => sameItems xs ys
  | .map xs, .map ys => xs.length == ys.length && withinEntries xs ys
  | .tagged a x, .tagged b y => a == b && same x y
  | _, _ => false

/-- Whether two rows of data are the same. -/
def sameItems : List Data → List Data → Bool
  | [], [] => true
  | x :: xs, y :: ys => same x y && sameItems xs ys
  | _, _ => false

/-- Whether every entry of one mapping is in another one. -/
def withinEntries : List (Data × Data) → List (Data × Data) → Bool
  | [], _ => true
  | (k, v) :: xs, ys => (ys.any fun p => same k p.1 && same v p.2) && withinEntries xs ys

end

/-- The mark of a tag of the document's own, without its exclamation mark. -/
def ownTag? : Option String → Option String
  | none => none
  | some tag => (Text.dropLead? ['!'] tag.toList).map String.ofList

/-- Whether a mapping has a key. -/
def hasKey (entries : List (Data × Data)) (k : Data) : Bool := entries.any fun p => same p.1 k

/-- Puts a tag of the document's own beside data. -/
def wrap (ownTags : Bool) (tag : Option String) (d : Option Data) : Option Data :=
  match ownTag? tag with
  | none => d
  | some name => if ownTags && !name.isEmpty then d.map (.tagged name) else none

/-- The data of a scalar.  Beside a tag of the document's own it is what its style says. -/
def scalar? (own : Bool) (tag : Option String) (style : Style) (text : String) : Option Data :=
  match tag, own, style with
  | some tag, false, _ => Scalar.tagged? tag text
  | _, _, .plain => Scalar.plain? text
  | _, _, _ => some (.str text)

mutual

/-- The data of a tree that is nested at most `depth` deep.  `ownTags` says whether it may have
tags of its own. -/
def ofTree? (ownTags : Bool) (depth : Nat) : Tree → Option Data
  | .scalar tag style text => wrap ownTags tag (scalar? (ownTag? tag).isSome tag style text)
  | .ofAnchor _ => none
  | .sequence tag items =>
    match depth with
    | 0 => none
    | depth + 1 => wrap ownTags tag ((items? ownTags depth items).map .seq)
  | .mapping tag entries =>
    match depth with
    | 0 => none
    | depth + 1 => wrap ownTags tag ((entries? ownTags depth [] entries).map .map)

/-- The data of the trees of a sequence. -/
def items? (ownTags : Bool) (depth : Nat) : List Tree → Option (List Data)
  | [] => some []
  | t :: ts =>
    match ofTree? ownTags depth t, items? ownTags depth ts with
    | some x, some xs => some (x :: xs)
    | _, _ => none

/-- The data of the trees of a mapping, behind the entries before them. -/
def entries? (ownTags : Bool) (depth : Nat) (before : List (Data × Data)) :
    List (Tree × Tree) → Option (List (Data × Data))
  | [] => some before
  | (k, v) :: rest =>
    match ofTree? ownTags depth k, ofTree? ownTags depth v with
    | some k, some v =>
      if hasKey before k then none else entries? ownTags depth (before ++ [(k, v)]) rest
    | _, _ => none

end

mutual

/-- The value of data.  An integer beyond 64 bits becomes a floating-point number, a key
becomes a text. -/
def value : Data → Value
  | .null => .null
  | .bool b => .bool b
  | .int n =>
    match Number.fit? n with
    | some n => .int n
    | none => .float (Float.ofInt n)
  | .float x => .float x
  | .str s => .str s
  | .seq items => .list (valuesOf items)
  | .map entries => .map (Dict.ofList (entriesOf entries))
  | .tagged _ d => value d

/-- The values of a row of data. -/
def valuesOf : List Data → List Value
  | [] => []
  | d :: ds => value d :: valuesOf ds

/-- The entries of a mapping with their keys as texts. -/
def entriesOf : List (Data × Data) → List (String × Value)
  | [] => []
  | (k, v) :: rest => ((value k).display, value v) :: entriesOf rest

end

end Data

/-- The document of a text.  The outer option is about whether the text is in order, the inner
one about whether it holds a document. -/
def document? (source : String) : Option (Option Tree) := (tokens? source).bind Tree.ofTokens?

/-- The data of a text; no document is null. -/
def data? (source : String) : Option Data :=
  match document? source with
  | none => none
  | some none => some .null
  | some (some t) => Data.ofTree? true Tree.depthLimit t

end Yaml
end MailMerge
