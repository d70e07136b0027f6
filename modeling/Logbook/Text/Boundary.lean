/-
# Boundaries in text

The parts that the Unicode standard gives to characters where text is cut into characters as readers
see them, into words and into sentences. A character that plays no part has none.

Key definitions: `Boundary.ofCharacters`, `Boundary.ofWords`, `Boundary.ofSentences`.
-/
import Logbook.Text.Property
import Logbook.Text.Script

namespace Logbook.Text.Boundary

open GeneralCategory Property

/-- The sign that joins characters. -/
def joiner : CodeSet :=
  .listed ["200d"]

/-- Carriage return. -/
def carriageReturn : CodeSet :=
  .listed ["d"]

/-- Line feed. -/
def lineFeed : CodeSet :=
  .listed ["a"]

/-- What stands for itself where readers see nothing. -/
def controlCharacter : CodeSet :=
  .without
    (.all [lineSeparator, paragraphSeparator, control, .without format (.listed ["e0020-e007f"]),
      .both unassigned defaultIgnorableCodePoint])
    (.union (.listed ["a d 200c-200d"]) prependedConcatenationMark)

/-- What belongs to the character before it. -/
def extending : CodeSet :=
  .without (.union graphemeExtend emojiModifier) joiner

/-- What belongs to the character after it. -/
def prepended : CodeSet :=
  .union prependedConcatenationMark
    (.listed
      ["d4e 111c2-111c3 113d1 1193f 11941 11a3a 11a84-11a89 11d46 11f02"])

/-- Marks that take room and belong to the character before them. -/
def spacing : CodeSet :=
  .either (.without spacingMark extending)
    (.listed
      ["e33 eb3 102b-102c 1038 1062-1064 1067-106d 1083 1087-108c 108f 109a-109c 1a61 1a63-1a64",
       "aa7b aa7d 11720-11721"])

/-- Consonants that start a syllable. -/
def leadingJamo : CodeSet :=
  .listed ["1100-115f a960-a97c"]

/-- Vowels of syllables. -/
def vowelJamo : CodeSet :=
  .listed ["1160-11a7 d7b0-d7c6 16d63 16d67-16d6a"]

/-- Consonants that end a syllable. -/
def trailingJamo : CodeSet :=
  .listed ["11a8-11ff d7cb-d7fb"]

/-- Syllables that end with a vowel. -/
def openSyllable : CodeSet :=
  .listed ["ac00-d788/1c"]

/-- Syllables that end with a consonant. -/
def closedSyllable : CodeSet :=
  .without (.listed ["ac00-d7a3"]) openSyllable

/-- What belongs to the part of a word before it. -/
def wordExtending : CodeSet :=
  .without (.all [graphemeExtend, spacingMark, emojiModifier]) joiner

/-- What is passed over inside of words. -/
def wordFormat : CodeSet :=
  .without format
    (.union prependedConcatenationMark (.listed ["200b-200d e0020-e007f"]))

/-- Letters of Hebrew. -/
def hebrewLetter : CodeSet :=
  .both otherLetter (.listed ["590-5ff fb1d-fb4f"])

/-- Katakana, and what goes on in it. -/
def katakana : CodeSet :=
  .listed
    ["3031-3035 309b-309c 30a0-30fa 30fc-30ff 31f0-31ff 32d0-32fe 3300-3357 ff66-ff9d 1aff0-1aff3",
     "1aff5-1affb 1affd-1affe 1b000 1b120-1b122 1b155 1b164-1b167"]

/-- The characters of the scripts with some names. -/
def inScripts (names : List String) : CodeSet := .all (names.filterMap Script.named?)

/-- Letters of scripts that put no blanks between words. -/
def unspaced : CodeSet :=
  inScripts
    ["thai", "lao", "khmer", "myanmar", "taile", "newtailue", "taitham", "taiviet", "ahom",
     "hiragana"]

/-- Letters of words that blanks stand between. -/
def wordLetter : CodeSet :=
  .union
    (.without alphabetic (.all [ideographic, katakana, unspaced, wordExtending, hebrewLetter]))
    (.listed
      ["2c2-2c5 2d2-2d7 2de-2df 2e5-2eb 2ed 2ef-2ff 55a-55c 55e 58a 5f3 70f a708-a716 a720-a721",
       "a789-a78a ab5b"])

/-- What numbers are made of. -/
def wordNumeric : CodeSet :=
  .either decimalNumber
    (.listed
      ["600-605 66b 6dd 890-891 8e2 19da 110bd 110cd"])

/-- What may stand between letters. -/
def betweenLetters : CodeSet :=
  .listed
    ["3a b7 387 55f 5f4 2027 fe13 fe55 ff1a"]

/-- What may stand between digits. -/
def betweenDigits : CodeSet :=
  .listed
    ["2c 3b 37e 589 60c-60d 66c 7f8 2044 fe50 fe54 ff0c ff1b"]

/-- What may stand between letters or digits. -/
def betweenBoth : CodeSet :=
  .listed
    ["2e 2018-2019 2024 fe52 ff07 ff0e"]

/-- What connects words. -/
def wordConnecting : CodeSet :=
  .listed
    ["5f 202f 203f-2040 2054 fe33-fe34 fe4d-fe4f ff3f"]

/-- Other ends of lines. -/
def newline : CodeSet :=
  .listed
    ["b-c 85 2028-2029"]

/-- Blanks that stay together. -/
def wordSpace : CodeSet :=
  .listed
    ["20 1680 2000-2006 2008-200a 205f 3000"]

/-- What belongs to the part of a sentence before it. -/
def sentenceExtending : CodeSet :=
  .union (.without wordExtending emojiModifier) joiner

/-- What is passed over inside of sentences. -/
def sentenceFormat : CodeSet :=
  .either wordFormat (.listed ["70f 200b"])

/-- What numbers in sentences are made of. -/
def sentenceNumeric : CodeSet :=
  .either wordNumeric (.listed ["66c"])

/-- Letters in lower case. -/
def sentenceLower : CodeSet :=
  .either lowercase (.listed ["345 10d0-10fa 10fd-10ff"])

/-- Letters in upper case. -/
def sentenceUpper : CodeSet :=
  .either (.union uppercase titlecaseLetter) (.listed ["1c90-1cba 1cbd-1cbf"])

/-- Other letters. -/
def sentenceLetter : CodeSet :=
  .either
    (.without alphabetic (.all [sentenceLower, sentenceUpper, sentenceExtending]))
    (.listed ["5f3"])

/-- What may close a sentence after its end. -/
def closing : CodeSet :=
  .either
    (.all [openPunctuation, closePunctuation, initialPunctuation, finalPunctuation])
    (.listed
      ["22 27 275b-2760 2e00-2e01 2e06-2e08 2e0b 1f676-1f678"])

/-- What may or may not end a sentence. -/
def ambiguousEnd : CodeSet :=
  .listed
    ["2e 2024 fe52 ff0e"]

/-- What a sentence goes on after. -/
def continuing : CodeSet :=
  .listed
    ["2c-2d 3a-3b 37e 55d 60c-60d 7f8 1802 1808 2013-2014 3001 fe10-fe11 fe13-fe14 fe31-fe32",
     "fe50-fe51 fe54-fe55 fe58 fe63 ff0c-ff0d ff1a-ff1b ff64"]

/-- What separates paragraphs. -/
def separating : CodeSet :=
  .listed
    ["85 2028-2029"]

/-- What ends a sentence. -/
def sentenceEnd : CodeSet :=
  .without sentenceTerminal ambiguousEnd

/-- Blanks in sentences. -/
def sentenceSpace : CodeSet :=
  .without whiteSpace (.union separating (.listed ["a d"]))

/-- The parts that characters play where text is cut into characters. -/
def ofCharacters : List (List String × CodeSet) :=
  [(["cr"], carriageReturn),
   (["lf"], lineFeed),
   (["control", "cn"], controlCharacter),
   (["extend", "ex"], extending),
   (["l"], leadingJamo),
   (["lv"], openSyllable),
   (["lvt"], closedSyllable),
   (["prepend", "pp"], prepended),
   (["regionalindicator", "ri"], regionalIndicator),
   (["spacingmark", "sm"], spacing),
   (["t"], trailingJamo),
   (["v"], vowelJamo),
   (["zwj"], joiner)]

/-- The parts that characters play where text is cut into words. -/
def ofWords : List (List String × CodeSet) :=
  [(["aletter", "le"], wordLetter),
   (["cr"], carriageReturn),
   (["doublequote", "dq"], .listed ["22"]),
   (["extend"], wordExtending),
   (["extendnumlet", "ex"], wordConnecting),
   (["format", "fo"], wordFormat),
   (["hebrewletter", "hl"], hebrewLetter),
   (["katakana", "ka"], katakana),
   (["lf"], lineFeed),
   (["midletter", "ml"], betweenLetters),
   (["midnum", "mn"], betweenDigits),
   (["midnumlet", "mb"], betweenBoth),
   (["newline", "nl"], newline),
   (["numeric", "nu"], wordNumeric),
   (["regionalindicator", "ri"], regionalIndicator),
   (["singlequote", "sq"], .listed ["27"]),
   (["wsegspace"], wordSpace),
   (["zwj"], joiner)]

/-- The parts that characters play where text is cut into sentences. -/
def ofSentences : List (List String × CodeSet) :=
  [(["aterm", "at"], ambiguousEnd),
   (["cr"], carriageReturn),
   (["close", "cl"], closing),
   (["extend", "ex"], sentenceExtending),
   (["format", "fo"], sentenceFormat),
   (["lf"], lineFeed),
   (["lower", "lo"], sentenceLower),
   (["numeric", "nu"], sentenceNumeric),
   (["oletter", "le"], sentenceLetter),
   (["scontinue", "sc"], continuing),
   (["sterm", "st"], sentenceEnd),
   (["sep", "se"], separating),
   (["sp"], sentenceSpace),
   (["upper", "up"], sentenceUpper)]

end Logbook.Text.Boundary
