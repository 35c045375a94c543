/-
# What characters do at boundaries

The classes by which the Unicode Standard finds the boundaries of graphemes, words and
sentences in a text.  Most follow from categories and flags, with exceptions that are
listed here; the lists are those of version 16.
-/

import MailMerge.Property.Flag
import MailMerge.Property.Script

namespace MailMerge
namespace Property

open Text (RangeSet)

/-- The joiner between two graphemes. -/
def widthJoiner : RangeSet := .range 0x200d 0x200d

/-- The letters that stand for a country in pairs. -/
def regionalIndicators : RangeSet := Flag.regionalIndicator.listed

namespace GraphemeBreak

/-- What goes on with the grapheme before it. -/
def extend : RangeSet :=
  (Flag.graphemeExtendSet.union Flag.emojiModifier.listed).diff widthJoiner

/-- What starts a grapheme that goes on with the next character. -/
def prepend : RangeSet :=
  Flag.prependedConcatenationMark.listed.union
    (.ofTable ["d4e 111c2-111c3 113d1 1193f 11941 11a3a 11a84-11a89 11d46 11f02"])

/-- Leading consonants of Hangul. -/
def leading : RangeSet := .ofTable ["1100-115f a960-a97c"]

/-- Vowels of Hangul and of a script that works the same way. -/
def vowel : RangeSet := .ofTable ["1160-11a7 d7b0-d7c6 16d63 16d67-16d6a"]

/-- Trailing consonants of Hangul. -/
def trailing : RangeSet := .ofTable ["11a8-11ff d7cb-d7fb"]

/-- Syllables of Hangul without a trailing consonant. -/
def openSyllable : RangeSet := .ofTable ["ac00-d788/1c"]

/-- Syllables of Hangul with a trailing consonant. -/
def closedSyllable : RangeSet := (RangeSet.range 0xac00 0xd7a3).diff openSyllable

/-- Marks that take room of their own and yet belong to the grapheme before them. -/
def spacingMark : RangeSet :=
  (Category.mc.set.union (.ofTable ["e33 eb3"])).diff
    (.unions [extend, vowel,
      .ofTable
        ["102b-102c 1038 1062-1064 1067-106d 1083 1087-108c 108f 109a-109c 1a61 1a63-1a64 aa7b",
         "aa7d 11720-11721"]])

/-- What stands alone. -/
def control : RangeSet :=
  (RangeSet.unions
    [Category.sets [.zl, .zp, .cc, .cf], Flag.defaultIgnorableSet.diff assigned]).diff
    (.unions [.ofTable ["a d 200c-200d"], extend, prepend])

/-- The characters of a class, by its name. -/
def named? : String → Option RangeSet
  | "cr" => some (.range 0xd 0xd)
  | "lf" => some (.range 0xa 0xa)
  | "cn" | "control" => some control
  | "ex" | "extend" => some extend
  | "zwj" => some widthJoiner
  | "ri" | "regionalindicator" => some regionalIndicators
  | "pp" | "prepend" => some prepend
  | "sm" | "spacingmark" => some spacingMark
  | "l" => some leading
  | "v" => some vowel
  | "t" => some trailing
  | "lv" => some openSyllable
  | "lvt" => some closedSyllable
  | _ => none

end GraphemeBreak

/-- What belongs to the character before it, within words and sentences. -/
def attached : RangeSet := Flag.graphemeExtendSet.union Category.mc.set

/-- Signs that stand before a number and belong to it. -/
def numberSigns : RangeSet := .ofTable ["600-605 6dd 890-891 8e2 110bd 110cd"]

/-- The sign that stands before an abbreviation and belongs to it. -/
def abbreviationSign : RangeSet := .range 0x70f 0x70f

namespace WordBreak

/-- What goes on with a word, whatever it is. -/
def extend : RangeSet := (attached.union Flag.emojiModifier.listed).diff widthJoiner

/-- Characters that change how others look. -/
def format : RangeSet :=
  Category.cf.set.diff (.unions [.ofTable ["200b-200d"], extend, GraphemeBreak.prepend])

/-- Letters of Hebrew. -/
def hebrewLetter : RangeSet :=
  .ofTable ["5d0-5ea 5ef-5f2 fb1d fb1f-fb28 fb2a-fb36 fb38-fb3c fb3e fb40-fb41 fb43-fb44 fb46-fb4f"]

/-- Letters of Katakana. -/
def katakana : RangeSet :=
  .ofTable
    ["3031-3035 309b-309c 30a0-30fa 30fc-30ff 31f0-31ff 32d0-32fe 3300-3357 ff66-ff9d",
     "1aff0-1aff3 1aff5-1affb 1affd-1affe 1b000 1b120-1b122 1b155 1b164-1b167"]

/-- Digits and what belongs to numbers. -/
def numeric : RangeSet := .unions [Category.nd.set, .range 0x66b 0x66b, numberSigns]

/-- Letters of scripts that put no blanks between words. -/
def unspacedLetter : RangeSet :=
  .ofTable
    ["e01-e3a e40-e4e e81-e82 e84 e86-e8a e8c-ea3 ea5 ea7-ebd ec0-ec4 ec6 ec8-ece edc-edf",
     "1000-103f 1050-108f 109a-109f 1780-17d3 17d7 17dc-17dd 1950-196d 1970-1974 1980-19ab",
     "19b0-19c9 19da 19de-19df 1a20-1a5e 1a60-1a7c 1aa0-1aad a9e0-a9ef a9fa-a9fe aa60-aac2",
     "aadb-aadf 11700-1171a 1171d-1172b 1173a-1173b 1173f-11746"]

/-- Letters of words. -/
def letter : RangeSet :=
  (RangeSet.unions
    [Flag.alphabeticSet, abbreviationSign,
     .ofTable
       ["2c2-2c5 2d2-2d7 2de-2df 2e5-2eb 2ed 2ef-2ff 55a-55c 55e 58a 5f3 a708-a716 a720-a721",
        "a789-a78a ab5b"]]).diff
    (.unions
      [Flag.ideographic.listed, katakana, unspacedLetter, (scriptNamed? "hira").getD .empty,
       extend, hebrewLetter])

/-- The characters of a class, by its name. -/
def named? : String → Option RangeSet
  | "cr" => some (.range 0xd 0xd)
  | "lf" => some (.range 0xa 0xa)
  | "nl" | "newline" => some (.ofTable ["b-c 85 2028-2029"])
  | "extend" => some extend
  | "zwj" => some widthJoiner
  | "ri" | "regionalindicator" => some regionalIndicators
  | "fo" | "format" => some format
  | "ka" | "katakana" => some katakana
  | "hl" | "hebrewletter" => some hebrewLetter
  | "le" | "aletter" => some letter
  | "sq" | "singlequote" => some (.range 0x27 0x27)
  | "dq" | "doublequote" => some (.range 0x22 0x22)
  | "mb" | "midnumlet" => some (.ofTable ["2e 2018-2019 2024 fe52 ff07 ff0e"])
  | "ml" | "midletter" => some (.ofTable ["3a b7 387 55f 5f4 2027 fe13 fe55 ff1a"])
  | "mn" | "midnum" =>
    some (.ofTable ["2c 3b 37e 589 60c-60d 66c 7f8 2044 fe10 fe14 fe50 fe54 ff0c ff1b"])
  | "nu" | "numeric" => some numeric
  | "ex" | "extendnumlet" => some (Category.pc.set.union (.range 0x202f 0x202f))
  | "wsegspace" => some (.ofTable ["20 1680 2000-2006 2008-200a 205f 3000"])
  | _ => none

end WordBreak

namespace SentenceBreak

/-- What goes on with a sentence, whatever it is. -/
def extend : RangeSet := attached.union widthJoiner

/-- Small letters. -/
def lower : RangeSet :=
  Flag.lowercaseSet.diff (Flag.graphemeExtendSet.union (.ofTable ["10d0-10fa 10fd-10ff"]))

/-- Capital letters. -/
def upper : RangeSet :=
  (Flag.uppercaseSet.union Category.lt.set).diff (.ofTable ["1c90-1cba 1cbd-1cbf"])

/-- Letters that are neither small nor capital. -/
def otherLetter : RangeSet :=
  (RangeSet.unions [Flag.alphabeticSet, .range 0x5f3 0x5f3, abbreviationSign]).diff
    (.unions [lower, upper, extend])

/-- Digits and what belongs to numbers. -/
def numeric : RangeSet := .unions [Category.nd.set, .range 0x66b 0x66c, numberSigns]

/-- Characters that change how others look. -/
def format : RangeSet :=
  Category.cf.set.diff (.unions [.ofTable ["200c-200d"], extend, numeric, abbreviationSign])

/-- What may end a sentence. -/
def ambiguousEnd : RangeSet := .ofTable ["2e 2024 fe52 ff0e"]

/-- What ends a sentence. -/
def certainEnd : RangeSet := Flag.sentenceTerminal.listed.diff ambiguousEnd

/-- What stands around or behind the end of a sentence. -/
def close : RangeSet :=
  (RangeSet.unions
    [Category.sets [.ps, .pe, .pi, .pf],
     .ofTable ["22 27 275b-2760 2e00-2e01 2e06-2e08 2e0b 1f676-1f678"]]).diff
    (ambiguousEnd.union certainEnd)

/-- The characters of a class, by its name. -/
def named? : String → Option RangeSet
  | "cr" => some (.range 0xd 0xd)
  | "lf" => some (.range 0xa 0xa)
  | "ex" | "extend" => some extend
  | "se" | "sep" => some (.ofTable ["85 2028-2029"])
  | "fo" | "format" => some format
  | "sp" => some (.ofTable ["9 b-c 20 a0 1680 2000-200a 202f 205f 3000"])
  | "lo" | "lower" => some lower
  | "up" | "upper" => some upper
  | "le" | "oletter" => some otherLetter
  | "nu" | "numeric" => some numeric
  | "at" | "aterm" => some ambiguousEnd
  | "sc" | "scontinue" =>
    some (.ofTable
      ["2c-2d 3a-3b 37e 55d 60c-60d 7f8 1802 1808 2013-2014 3001 fe10-fe11 fe13-fe14 fe31-fe32",
       "fe50-fe51 fe54-fe55 fe58 fe63 ff0c-ff0d ff1a-ff1b ff64"])
  | "st" | "sterm" => some certainEnd
  | "cl" | "close" => some close
  | _ => none

end SentenceBreak

end Property
end MailMerge
