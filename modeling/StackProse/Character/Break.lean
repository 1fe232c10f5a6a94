import StackProse.Character.Property

/-!
# Breaks of texts

The classes of characters that the Unicode standard, edition 16.0, divides texts by: into
characters as users see them, into words, and into sentences. Each class is a rule over
categories, scripts and properties.
-/

namespace StackProse

namespace GraphemeBreak

open Property

/-- Control characters. -/
def control : Recipe :=
  .except
    (.any
      [.categories [.lineSeparator, .paragraphSeparator, .control, .format],
        .ranges "2065 fff0-fff8 e0000 e0002-e001f e0080-e00ff e01f0-e0fff"])
    (.any [.ranges "a d 200c-200d", prependedConcatenationMark, graphemeExtend])

/-- Characters that extend the one before. -/
def extend : Recipe :=
  .any [graphemeExtend, emojiModifier]

/-- Marks with a width of their own. -/
def spacingMark : Recipe :=
  .except (.any [.categories [.spacingMark], .ranges "e33 eb3"])
    (.any
      [extend,
        .ranges
          "102b-102c 1038 1062-1064 1067-106d 1083 1087-108c 108f 109a-109c 1a61 1a63-1a64 aa7b
           aa7d 11720-11721"])

/-- Characters that belong to the one behind. -/
def prepend : Recipe :=
  .any
    [prependedConcatenationMark,
      .ranges "d4e 111c2-111c3 113d1 1193f 11941 11a3a 11a84-11a89 11d46 11f02"]

/-- Syllables without a consonant at the end, which come after every 28 syllables. -/
def openSyllable : Recipe :=
  .mapped [⟨0xAC00, 0xD788, 28, 0⟩] []

/-- Syllables with a consonant at the end. -/
def closedSyllable : Recipe :=
  .except (.ranges "ac00-d7a3") openSyllable

/-- The class with a name. -/
def named? : String → Option Recipe
  | "cn" | "control" => some control
  | "cr" => some (.ranges "d")
  | "ex" | "extend" => some extend
  | "l" => some (.ranges "1100-115f a960-a97c")
  | "lf" => some (.ranges "a")
  | "lv" => some openSyllable
  | "lvt" => some closedSyllable
  | "pp" | "prepend" => some prepend
  | "ri" | "regionalindicator" => some regionalIndicator
  | "sm" | "spacingmark" => some spacingMark
  | "t" => some (.ranges "11a8-11ff d7cb-d7fb")
  | "v" => some (.ranges "1160-11a7 d7b0-d7c6 16d63 16d67-16d6a")
  | "zwj" => some (.ranges "200d")
  | _ => none

end GraphemeBreak

namespace WordBreak

open Property

/-- Characters that extend the one before. -/
def extend : Recipe :=
  .except (.any [graphemeExtend, .categories [.spacingMark], emojiModifier]) (.ranges "200d")

/-- Characters that words are looked at without. -/
def format : Recipe :=
  .except (.categories [.format])
    (.any [.ranges "200b-200d", prependedConcatenationMark, graphemeExtend])

/-- The characters of the Japanese syllabary for foreign words. -/
def katakana : Recipe :=
  .any [.scripts ["kana"], .ranges "3031-3035 309b-309c 30a0 30fc ff70"]

/-- Hebrew letters. -/
def hebrewLetter : Recipe :=
  .except (.scripts ["hebr"])
    (.any [.categories Category.marks, .categories Category.punctuation,
      .categories Category.symbols])

/-- The scripts that are written without blanks between words. -/
def unspacedScripts : Recipe :=
  .scripts ["thai", "laoo", "mymr", "khmr", "tale", "talu", "lana", "tavt", "ahom"]

/-- Letters. -/
def letter : Recipe :=
  .except
    (.any
      [alphabetic,
        .ranges
          "2c2-2c5 2d2-2d7 2de-2df 2e5-2eb 2ed 2ef-2ff 55a-55c 55e 58a 5f3 70f a708-a716 a720-a721
           a789-a78a ab5b"])
    (.any [ideographic, katakana, unspacedScripts, .scripts ["hira"], extend, hebrewLetter])

/-- Digits and signs that belong to them. -/
def numeric : Recipe :=
  .any [.categories [.decimalNumber], .ranges "600-605 66b 6dd 890-891 8e2 19da 110bd 110cd"]

/-- The class with a name. -/
def named? : String → Option Recipe
  | "le" | "aletter" => some letter
  | "cr" => some (.ranges "d")
  | "dq" | "doublequote" => some (.ranges "22")
  | "extend" => some extend
  | "ex" | "extendnumlet" => some (.any [.categories [.connectorPunctuation], .ranges "202f"])
  | "fo" | "format" => some format
  | "hl" | "hebrewletter" => some hebrewLetter
  | "ka" | "katakana" => some katakana
  | "lf" => some (.ranges "a")
  | "ml" | "midletter" => some (.ranges "3a b7 387 55f 5f4 2027 fe13 fe55 ff1a")
  | "mn" | "midnum" =>
      some (.ranges "2c 3b 37e 589 60c-60d 66c 7f8 2044 fe10 fe14 fe50 fe54 ff0c ff1b")
  | "mb" | "midnumlet" => some (.ranges "2e 2018-2019 2024 fe52 ff07 ff0e")
  | "nl" | "newline" => some (.ranges "b-c 85 2028-2029")
  | "nu" | "numeric" => some numeric
  | "ri" | "regionalindicator" => some regionalIndicator
  | "sq" | "singlequote" => some (.ranges "27")
  | "wsegspace" =>
      some (.except (.categories [.spaceSeparator]) (.ranges "a0 2007 202f"))
  | "zwj" => some (.ranges "200d")
  | _ => none

end WordBreak

namespace SentenceBreak

open Property

/-- Characters that extend the one before. -/
def extend : Recipe :=
  .any [graphemeExtend, .ranges "200d", .categories [.spacingMark]]

/-- Digits and signs that belong to them. -/
def numeric : Recipe :=
  .any [WordBreak.numeric, .ranges "66c"]

/-- Characters that sentences are looked at without. -/
def format : Recipe :=
  .except (.categories [.format]) (.any [.ranges "200c-200d", graphemeExtend, numeric])

/-- Letters in lowercase. -/
def lower : Recipe :=
  .except lowercase (.any [graphemeExtend, .ranges "10d0-10fa 10fd-10ff"])

/-- Letters in uppercase. -/
def upper : Recipe :=
  .except (.any [.categories [.titlecaseLetter], uppercase]) (.ranges "1c90-1cba 1cbd-1cbf")

/-- Letters without case. -/
def otherLetter : Recipe :=
  .except (.any [alphabetic, .ranges "5f3"]) (.any [lower, upper, extend])

/-- Full stops. -/
def stop : Recipe :=
  .ranges "2e 2024 fe52 ff0e"

/-- Signs after which a sentence goes on. -/
def goingOn : Recipe :=
  .ranges
    "2c-2d 3a-3b 37e 55d 60c-60d 7f8 1802 1808 2013-2014 3001 fe10-fe11 fe13-fe14 fe31-fe32
     fe50-fe51 fe54-fe55 fe58 fe63 ff0c-ff0d ff1a-ff1b ff64"

/-- Signs at the end of a sentence other than full stops. -/
def terminal : Recipe :=
  .except sentenceTerminal stop

/-- Brackets and quotation marks. -/
def close : Recipe :=
  .any
    [.categories [.openPunctuation, .closePunctuation, .initialPunctuation, .finalPunctuation],
      .ranges "22 27 275b-2760 2e00-2e01 2e06-2e08 2e0b 1f676-1f678"]

/-- The class with a name. -/
def named? : String → Option Recipe
  | "at" | "aterm" => some stop
  | "cl" | "close" => some close
  | "cr" => some (.ranges "d")
  | "ex" | "extend" => some extend
  | "fo" | "format" => some format
  | "lf" => some (.ranges "a")
  | "lo" | "lower" => some lower
  | "nu" | "numeric" => some numeric
  | "le" | "oletter" => some otherLetter
  | "sc" | "scontinue" => some goingOn
  | "st" | "sterm" => some terminal
  | "se" | "sep" => some (.ranges "85 2028-2029")
  | "sp" => some (.except whiteSpace (.ranges "a d 85 2028-2029"))
  | "up" | "upper" => some upper
  | _ => none

end SentenceBreak

end StackProse
