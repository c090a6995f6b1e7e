import RpcRouting.Unicode.Property
import RpcRouting.Unicode.Script

namespace RpcRouting.Unicode

open Category Property

-- What a character does where text is cut into the characters a reader sees.
namespace GraphemeBreak

def carriageReturn : CharSet := .ofChars ['\r']

def lineFeed : CharSet := .ofChars ['\n']

def zeroWidthJoiner : CharSet := .ofText "200D"

def extend : CharSet := .union graphemeExtend emojiModifier

def prepend : CharSet := .ofText
  "600-605 6DD 70F 890-891 8E2 D4E 110BD 110CD 111C2-111C3 113D1 1193F 11941 11A84-11A89 11D46
   11F02"

def control : CharSet :=
  .diff (.unionAll [categories [.control, .format, .lineSeparator, .paragraphSeparator],
      .diff defaultIgnorableCodePoint assigned])
    (.unionAll [carriageReturn, lineFeed, zeroWidthJoiner, prependedConcatenationMark, extend])

-- Marks that take up space, and two vowels that are no marks.
def notSpacing : CharSet := .ofText
  "102B-102C 1038 1062-1064 1067-106D 1083 1087-108C 108F 109A-109C 1A61 1A63-1A64 AA7B AA7D
   11720-11721"

def spacingMark : CharSet :=
  .diff (.union Category.spacingMark.set (.ofText "E33 EB3")) (.union extend notSpacing)

-- The consonants and vowels of a syllable block, its final consonants, and whole blocks with and
-- without one.

def leading : CharSet := .ofText
  "1100-115F A960-A97C"

def vowel : CharSet := .ofText
  "1160-11A7 D7B0-D7C6 16D63 16D67-16D6A"

def trailing : CharSet := .ofText
  "11A8-11FF D7CB-D7FB"

def openSyllable : CharSet := .ofText
  "AC00-D788/1C"

def closedSyllable : CharSet := .diff (.ofText "AC00-D7A3") openSyllable

end GraphemeBreak

-- What a character does where text is cut into words.
namespace WordBreak

def extend : CharSet :=
  .unionAll [graphemeExtend, Category.spacingMark.set, emojiModifier]

def newline : CharSet := .ofText
  "B-C 85 2028-2029"

def format : CharSet :=
  .diff Category.format.set
    (.unionAll [joinControl, .ofText "200B", prependedConcatenationMark, extend])

def hebrewLetter : CharSet :=
  .inter (Script.setOf "hebrew") Category.otherLetter.set

def katakana : CharSet :=
  .union (Script.setOf "katakana")
    (.ofText "3031-3035 309B-309C 30A0 30FC FF70")

-- Letters of scripts that put no space between words.
def unspaced : CharSet := .ofText
  "E01-E30 E32-E33 E40-E46 E81-E82 E84 E86-E8A E8C-EA3 EA5 EA7-EB0 EB2-EB3 EBD EC0-EC4 EC6
   EDC-EDF 1000-102A 103F 1050-1055 105A-105D 1061 1065-1066 106E-1070 1075-1081 108E 1780-17B3
   17D7 17DC 1950-196D 1970-1974 1980-19AB 19B0-19C9 1A20-1A54 1AA7 A9E0-A9E4 A9E6-A9EF A9FA-A9FE
   AA60-AA76 AA7A AA7E-AAAF AAB1 AAB5-AAB6 AAB9-AABD AAC0 AAC2 AADB-AADD 11700-1171A 11740-11746"

def letter : CharSet :=
  .diff
    (.union alphabetic (.ofText
      "B8 2C2-2C5 2D2-2D7 2DE-2DF 2E5-2EB 2ED 2EF-2FF 55A-55C 55E 58A 5F3 70F A708-A716
       A720-A721 A789-A78A AB5B"))
    (.unionAll [ideographic, katakana, hebrewLetter, extend, unspaced,
      Script.setOf "hiragana"])

def midLetter : CharSet := .ofText
  "3A B7 387 55F 5F4 2027 FE13 FE55 FF1A"

def midNumber : CharSet := .ofText
  "2C 3B 37E 589 60C-60D 66C 7F8 2044 FE50 FE54 FF0C FF1B"

def midBoth : CharSet := .ofText
  "2E 2018-2019 2024 FE52 FF07 FF0E"

def numeric : CharSet :=
  .union decimalNumber.set (.ofText "600-605 66B 6DD 890-891 8E2 19DA 110BD 110CD")

def connector : CharSet := .union connectorPunctuation.set (.ofText "202F")

def space : CharSet := .diff spaceSeparator.set (.ofText "A0 2007 202F")

end WordBreak

-- What a character does where text is cut into sentences.
namespace SentenceBreak

def extend : CharSet := .unionAll [graphemeExtend, Category.spacingMark.set, joinControl]

def separator : CharSet := .ofText
  "85 2028-2029"

def numeric : CharSet :=
  .union decimalNumber.set (.ofText "600-605 66B-66C 6DD 890-891 8E2 19DA 110BD 110CD")

def format : CharSet := .diff Category.format.set (.union extend numeric)

def space : CharSet := .diff whiteSpace (.union separator (.ofChars ['\n', '\r']))

-- Letters of a script whose capitals are not used to begin sentences.
def uncased : CharSet := .ofText
  "10D0-10FA 10FD-10FF 1C90-1CBA 1CBD-1CBF"

def lower : CharSet := .diff lowercase (.union graphemeExtend uncased)

def upper : CharSet := .diff (.union uppercase titlecaseLetter.set) uncased

def letter : CharSet :=
  .diff (.union alphabetic (.ofText "5F3")) (.unionAll [lower, upper, extend])

def fullStop : CharSet := .ofText
  "2E 2024 FE52 FF0E"

def terminal : CharSet := .diff sentenceTerminal fullStop

def close : CharSet :=
  .union (categories [.openPunctuation, .closePunctuation, .initialPunctuation,
      .finalPunctuation])
    (.ofText "22 27 275B-2760 2E00-2E01 2E06-2E08 2E0B 1F676-1F678")

def continuation : CharSet := .ofText
  "2C-2D 3A-3B 37E 55D 60C-60D 7F8 1802 1808 2013-2014 3001 FE10-FE11 FE13-FE14 FE31-FE32
   FE50-FE51 FE54-FE55 FE58 FE63 FF0C-FF0D FF1A-FF1B FF64"

end SentenceBreak

end RpcRouting.Unicode
