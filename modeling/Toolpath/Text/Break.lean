import Toolpath.Text.Property

/-!
Classes of characters by which texts divide: into what is seen as one character, into words and into
sentences.
-/

namespace Toolpath.Text.Break

open Category (ranges)
open Property

def carriageReturn : Ranges := .range 0xD 0xD

def lineFeed : Ranges := .range 0xA 0xA

def joiner : Ranges := .range 0x200D 0x200D

def prepend : Ranges := .ofTable
  "600-605 6DD 70F 890-891 8E2 D4E 110BD 110CD 111C2-111C3 113D1 1193F 11941 11A84-11A89 11D46
  11F02"

def graphemeExtender : Ranges := graphemeExtend.union emojiModifier

def graphemeControl : Ranges :=
  (Ranges.unionAll [ranges [.zl, .zp, .cc, .cf], (ranges [.cn]).inter defaultIgnorable]).minus
    (.unionAll [carriageReturn, lineFeed, joiner, prependedConcatenationMark, otherGraphemeExtend])

def besideLetters : Ranges := .ofTable
  "102B-102C 1038 1062-1064 1067-106D 1083 1087-108C 108F 109A-109C 1A61 1A63-1A64 AA7B AA7D
  11720-11721"

def spacingMark : Ranges :=
  ((ranges [.mc]).minus (graphemeExtend.union besideLetters)).union (.ofTable "E33 EB3")

def leadingJamo : Ranges := .ofTable "1100-115F A960-A97C"

def vowelJamo : Ranges := .ofTable "1160-11A7 D7B0-D7C6 16D63 16D67-16D6A"

def trailingJamo : Ranges := .ofTable "11A8-11FF D7CB-D7FB"

def syllables : Ranges := .range 0xAC00 0xD7A3

-- every 28th
def openSyllables : Ranges := singles ((List.range 399).map (0xAC00 + 28 * ·))

def grapheme? (name : String) : Option Ranges :=
  match name with
  | "cn" | "control" => some graphemeControl
  | "cr" => some carriageReturn
  | "ex" | "extend" => some graphemeExtender
  | "l" => some leadingJamo
  | "lf" => some lineFeed
  | "lv" => some openSyllables
  | "lvt" => some (syllables.minus openSyllables)
  | "pp" | "prepend" => some prepend
  | "ri" | "regionalindicator" => some regionalIndicator
  | "sm" | "spacingmark" => some spacingMark
  | "t" => some trailingJamo
  | "v" => some vowelJamo
  | "zwj" => some joiner
  | _ => none

def hebrewLetter : Ranges := .ofTable
  "5D0-5EA 5EF-5F2 FB1D FB1F-FB28 FB2A-FB36 FB38-FB3C FB3E FB40-FB41 FB43-FB44 FB46-FB4F"

def hiragana : Ranges := .ofTable "3041-3096 309D-309F 1B001-1B11F 1B132 1B150-1B152 1F200"

def katakana : Ranges := .ofTable
  "3031-3035 309B-309C 30A0-30FA 30FC-30FF 31F0-31FF 32D0-32FE 3300-3357 FF66-FF9D 1AFF0-1AFF3
  1AFF5-1AFFB 1AFFD-1AFFE 1B000 1B120-1B122 1B155 1B164-1B167"

def withoutSpaces : Ranges := .ofTable
  "E01-E30 E32-E33 E40-E46 E81-E82 E84 E86-E8A E8C-EA3 EA5 EA7-EB0 EB2-EB3 EBD EC0-EC4 EC6 EDC-EDF
  1000-102A 103F 1050-1055 105A-105D 1061 1065-1066 106E-1070 1075-1081 108E 1780-17B3 17D7 17DC
  1950-196D 1970-1974 1980-19AB 19B0-19C9 1A20-1A54 1AA7 A9E0-A9E4 A9E6-A9EF A9FA-A9FE AA60-AA76
  AA7A AA7E-AAAF AAB1 AAB5-AAB6 AAB9-AABD AAC0 AAC2 AADB-AADD 11700-1171A 11740-11746"

def likeLetters : Ranges := .ofTable
  "B8 2C2-2C5 2D2-2D7 2DE-2DF 2E5-2EB 2ED 2EF-2FF 55A-55C 55E 58A 5F3 70F A708-A716 A720-A721
  A789-A78A AB5B"

def likeDigits : Ranges := .ofTable "600-605 66B 6DD 890-891 8E2 19DA 110BD 110CD"

def wordExtend : Ranges := .unionAll [graphemeExtend, ranges [.mc], emojiModifier]

def numeric : Ranges := (ranges [.nd]).union likeDigits

def wordLetter : Ranges :=
  (alphabetic.minus
    (.unionAll [ideographic, katakana, hiragana, wordExtend, hebrewLetter, numeric, withoutSpaces])).union likeLetters

def wordFormat : Ranges :=
  (ranges [.cf]).minus
    (.unionAll [.range 0x200B 0x200D, prependedConcatenationMark, .range 0xE0020 0xE007F])

def midLetter : Ranges := .ofTable "3A B7 387 55F 5F4 2027 FE13 FE55 FF1A"

def midNumber : Ranges := .ofTable "2C 3B 37E 589 60C-60D 66C 7F8 2044 FE50 FE54 FF0C FF1B"

def midBoth : Ranges := .ofTable "2E 2018-2019 2024 FE52 FF07 FF0E"

def extendBoth : Ranges := .ofTable "5F 202F 203F-2040 2054 FE33-FE34 FE4D-FE4F FF3F"

def newline : Ranges := .ofTable "B-C 85 2028-2029"

def wordSpace : Ranges := .ofTable "20 1680 2000-2006 2008-200A 205F 3000"

def word? (name : String) : Option Ranges :=
  match name with
  | "cr" => some carriageReturn
  | "dq" | "doublequote" => some (.range 0x22 0x22)
  | "ex" | "extendnumlet" => some extendBoth
  | "extend" => some wordExtend
  | "fo" | "format" => some wordFormat
  | "hl" | "hebrewletter" => some hebrewLetter
  | "ka" | "katakana" => some katakana
  | "le" | "aletter" => some wordLetter
  | "lf" => some lineFeed
  | "mb" | "midnumlet" => some midBoth
  | "ml" | "midletter" => some midLetter
  | "mn" | "midnum" => some midNumber
  | "nl" | "newline" => some newline
  | "nu" | "numeric" => some numeric
  | "ri" | "regionalindicator" => some regionalIndicator
  | "sq" | "singlequote" => some (.range 0x27 0x27)
  | "wsegspace" => some wordSpace
  | "zwj" => some joiner
  | _ => none

def fullStop : Ranges := .ofTable "2E 2024 FE52 FF0E"

def closeNotBrackets : Ranges := .ofTable "22 27 275B-2760 2E00-2E01 2E06-2E08 2E0B 1F676-1F678"

def goOn : Ranges := .ofTable
  "2C-2D 3A-3B 37E 55D 60C-60D 7F8 1802 1808 2013-2014 3001 FE10-FE11 FE13-FE14 FE31-FE32
  FE50-FE51 FE54-FE55 FE58 FE63 FF0C-FF0D FF1A-FF1B FF64"

def sentenceSpace : Ranges := .ofTable "9 B-C 20 A0 1680 2000-200A 202F 205F 3000"

def plainLetters : Ranges := .ofTable "10D0-10FA 10FD-10FF"

def plainCapitals : Ranges := .ofTable "1C90-1CBA 1CBD-1CBF"

def sentenceExtend : Ranges := .unionAll [graphemeExtend, ranges [.mc], joiner]

def sentenceLower : Ranges := lowercase.minus (graphemeExtend.union plainLetters)

def sentenceUpper : Ranges := (uppercase.union (ranges [.lt])).minus plainCapitals

def sentenceLetter : Ranges :=
  (alphabetic.minus (.unionAll [sentenceLower, sentenceUpper, sentenceExtend])).union (.ofTable "5F3")

def sentence? (name : String) : Option Ranges :=
  match name with
  | "at" | "aterm" => some fullStop
  | "cl" | "close" => some ((ranges [.ps, .pe, .pi, .pf]).union closeNotBrackets)
  | "cr" => some carriageReturn
  | "ex" | "extend" => some sentenceExtend
  | "fo" | "format" => some (wordFormat.union (.ofTable "70F 200B"))
  | "le" | "oletter" => some sentenceLetter
  | "lf" => some lineFeed
  | "lo" | "lower" => some sentenceLower
  | "nu" | "numeric" => some (numeric.union (.ofTable "66C"))
  | "sc" | "scontinue" => some goOn
  | "se" | "sep" => some (.ofTable "85 2028-2029")
  | "sp" => some sentenceSpace
  | "st" | "sterm" => some (sentenceTerminal.minus fullStop)
  | "up" | "upper" => some sentenceUpper
  | _ => none

end Toolpath.Text.Break
