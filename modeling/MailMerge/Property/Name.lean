/-
# Properties by name

A property is named by a flag, a general category or a script, or by a property and its
value.  Names are compared without blanks, hyphens, underscores and an `is` in front, and
in small letters.
-/

import MailMerge.Property.Age
import MailMerge.Property.Boundary

namespace MailMerge
namespace Property

open Text (RangeSet)

/-- A name in the form in which names are compared.  The name `isc` does not mean `c`. -/
def looseName (cs : List Char) : String :=
  let (hasIs, rest) := match cs with
    | a :: b :: rest => if a.toLower == 'i' && b.toLower == 's' then (true, rest) else (false, cs)
    | cs => (false, cs)
  let kept := rest.filter fun c => c.toNat < 128 && !(c == ' ' || c == '_' || c == '-')
  let small := String.ofList (kept.map Char.toLower)
  if hasIs && small == "c" then "isc" else small

/-- The characters with a property that is named alone: a flag, a category or a script. -/
def named? (cs : List Char) : Option RangeSet :=
  let name := looseName cs
  (flagNamed? name).or ((categoryNamed? name).or (scriptNamed? name))

/-- The characters for which a property has a value. -/
def valued? (property value : List Char) : Option RangeSet :=
  let name := looseName value
  match looseName property with
  | "gc" | "generalcategory" => categoryNamed? name
  | "sc" | "script" => scriptNamed? name
  | "scx" | "scriptextensions" => scriptUsersNamed? name
  | "age" => assignedBy? name
  | "gcb" | "graphemeclusterbreak" => GraphemeBreak.named? name
  | "wb" | "wordbreak" => WordBreak.named? name
  | "sb" | "sentencebreak" => SentenceBreak.named? name
  | _ => none

/-- Decimal digits. -/
def digits : RangeSet := Category.nd.set

/-- Word characters: letters, marks, digits, connectors and joiners. -/
def wordCharacters : RangeSet :=
  .unions
    [Flag.alphabeticSet, Category.sets [.mn, .mc, .me, .nd, .pc], Flag.joinControl.listed]

/-- Blanks. -/
def blanks : RangeSet := Flag.whiteSpace.listed

/-- Whether a character is a decimal digit. -/
def isDigit (c : Char) : Bool :=
  if c.toNat < 128 then c.isDigit else digits.contains c.toNat

/-- Whether a character is a word character. -/
def isWordChar (c : Char) : Bool :=
  if c.toNat < 128 then c.isAlphanum || c == '_' else wordCharacters.contains c.toNat

end Property
end MailMerge
