import ThreatHunt.Unicode.Property
import ThreatHunt.Unicode.Script

/-!
Classes of characters for finding the boundaries of user-perceived characters, of words and of
sentences. The classes of a kind do not overlap.
-/

namespace ThreatHunt.Unicode

/-! User-perceived characters. -/

/-- Signs that belong to the character after them. -/
def prepended : CharSet :=
  CharSet.ofTable ["600-605 6DD 70F 890-891 8E2 D4E 110BD 110CD 111C2-111C3 113D1 1193F 11941",
    "11A3A 11A84-11A89 11D46 11F02"]

def zeroWidthJoiner : CharSet := CharSet.ofTable ["200D"]

/-- What continues a character, the joiner among it. -/
def extenders : CharSet := graphemeExtend.union (stored "Emoji_Modifier")

def hangulVowels : CharSet := CharSet.ofTable ["1160-11A7 D7B0-D7C6 16D63 16D67-16D6A"]

/-- Syllables without a final consonant. -/
def openSyllables : CharSet := CharSet.ofTable ["AC00-D788/1C"]

/-- Spacing marks that do not continue a character. -/
def separateMarks : CharSet :=
  CharSet.ofTable ["102B-102C 1038 1062-1064 1067-106D 1083 1087-108C 108F 109A-109C 1A61 1A63",
    "1A64 AA7B AA7D 11720-11721"]

def graphemeControls : CharSet :=
  ((GeneralCategory.charsOf [.lineSeparator, .paragraphSeparator, .control, .format]).union
    ((GeneralCategory.chars .unassigned).inter (stored "Default_Ignorable_Code_Point"))).diff
    (CharSet.unions [CharSet.ofTable ["A D 200D"], prepended, extenders])

/-- The classes of the boundaries of characters. -/
def graphemeClasses : List (List String × CharSet) :=
  [(["CR"], CharSet.ofTable ["D"]),
   (["LF"], CharSet.ofTable ["A"]),
   (["Control", "CN"], graphemeControls),
   (["Extend", "EX"], extenders.diff zeroWidthJoiner),
   (["L"], CharSet.ofTable ["1100-115F A960-A97C"]),
   (["LV"], openSyllables),
   (["LVT"], (CharSet.ofTable ["AC00-D7A3"]).diff openSyllables),
   (["Prepend", "PP"], prepended),
   (["Regional_Indicator", "RI"], stored "Regional_Indicator"),
   (["SpacingMark", "SM"],
    ((GeneralCategory.chars .spacingMark).union (CharSet.ofTable ["E33 EB3"])).diff
      (CharSet.unions [extenders, separateMarks, hangulVowels])),
   (["T"], CharSet.ofTable ["11A8-11FF D7CB-D7FB"]),
   (["V"], hangulVowels),
   (["ZWJ"], zeroWidthJoiner)]

/-! Words. -/

/-- What continues a word without being part of it. -/
def wordExtenders : CharSet :=
  (extenders.union (GeneralCategory.chars .spacingMark)).diff zeroWidthJoiner

/-- Signs in front of numbers. -/
def numberSigns : CharSet := CharSet.ofTable ["600-605 6DD 890-891 8E2 110BD 110CD"]

def scriptChars (name : String) : CharSet :=
  match Script.all.find? (fun s => s.names.head? = some name) with
  | some s => s.chars
  | none => CharSet.empty

def katakanaChars : CharSet :=
  (scriptChars "Katakana").union (CharSet.ofTable ["3031-3035 309B-309C 30A0 30FC FF70"])

def hebrewLetters : CharSet :=
  (scriptChars "Hebrew").inter (GeneralCategory.chars .otherLetter)

/-- Letters of scripts that set no space between words. -/
def unspacedLetters : CharSet :=
  CharSet.ofTable ["E01-E30 E32-E33 E40-E46 E81-E82 E84 E86-E8A E8C-EA3 EA5 EA7-EB0 EB2-EB3 EBD",
    "EC0-EC4 EC6 EDC-EDF 1000-102A 103F 1050-1055 105A-105D 1061 1065-1066 106E-1070 1075-1081",
    "108E 1780-17B3 17D7 17DC 1950-196D 1970-1974 1980-19AB 19B0-19C9 1A20-1A54 1AA7 A9E0-A9E4",
    "A9E6-A9EF A9FA-A9FE AA60-AA76 AA7A AA7E-AAAF AAB1 AAB5-AAB6 AAB9-AABD AAC0 AAC2 AADB-AADD",
    "11700-1171A 11740-11746"]

/-- Signs that count as letters of words. -/
def letterSigns : CharSet :=
  CharSet.ofTable ["2C2-2C5 2D2-2D7 2DE-2DF 2E5-2EB 2ED 2EF-2FF 55A-55C 55E 58A 5F3 70F A708-A716",
    "A720-A721 A789-A78A AB5B"]

def wordLetters : CharSet :=
  (alphabetic.diff (CharSet.unions [stored "Ideographic", katakanaChars, scriptChars "Hiragana",
    wordExtenders, hebrewLetters, unspacedLetters])).union letterSigns

/-- The classes of the boundaries of words. -/
def wordClasses : List (List String × CharSet) :=
  [(["CR"], CharSet.ofTable ["D"]),
   (["LF"], CharSet.ofTable ["A"]),
   (["Newline", "NL"], CharSet.ofTable ["B-C 85 2028-2029"]),
   (["ALetter", "LE"], wordLetters),
   (["Double_Quote", "DQ"], CharSet.ofTable ["22"]),
   (["Extend"], wordExtenders),
   (["ExtendNumLet", "EX"],
    (GeneralCategory.chars .connectorPunctuation).union (CharSet.ofTable ["202F"])),
   (["Format", "FO"],
    (GeneralCategory.chars .format).diff
      (CharSet.unions [CharSet.ofTable ["70F 200B-200D"], wordExtenders, numberSigns])),
   (["Hebrew_Letter", "HL"], hebrewLetters),
   (["Katakana", "KA"], katakanaChars),
   (["MidLetter", "ML"], CharSet.ofTable ["3A B7 387 55F 5F4 2027 FE13 FE55 FF1A"]),
   (["MidNum", "MN"],
    CharSet.ofTable
      ["2C 3B 37E 589 60C-60D 66C 7F8 2044 FE10 FE14 FE50 FE54 FF0C FF1B"]),
   (["MidNumLet", "MB"], CharSet.ofTable ["2E 2018-2019 2024 FE52 FF07 FF0E"]),
   (["Numeric", "NU"],
    CharSet.unions [digitChars, CharSet.ofTable ["66B"], numberSigns]),
   (["Regional_Indicator", "RI"], stored "Regional_Indicator"),
   (["Single_Quote", "SQ"], CharSet.ofTable ["27"]),
   (["WSegSpace"],
    (GeneralCategory.chars .spaceSeparator).diff (CharSet.ofTable ["A0 2007 202F"])),
   (["ZWJ"], zeroWidthJoiner)]

/-! Sentences. -/

/-- What continues a sentence. -/
def sentenceExtenders : CharSet := graphemeExtend.union
  ((GeneralCategory.chars .spacingMark).union zeroWidthJoiner)

def sentenceLower : CharSet :=
  (lowercase.diff (CharSet.unions [graphemeExtend, CharSet.ofTable ["10D0-10FF 1C90-1CBF"]])).union
    (CharSet.ofTable ["10FC"])

def sentenceUpper : CharSet :=
  ((GeneralCategory.chars .titlecaseLetter).union uppercase).diff (CharSet.ofTable ["1C90-1CBF"])

def fullStops : CharSet := CharSet.ofTable ["2E 2024 FE52 FF0E"]

/-- The classes of the boundaries of sentences. -/
def sentenceClasses : List (List String × CharSet) :=
  [(["CR"], CharSet.ofTable ["D"]),
   (["LF"], CharSet.ofTable ["A"]),
   (["Sep", "SE"], CharSet.ofTable ["85 2028-2029"]),
   (["ATerm", "AT"], fullStops),
   (["Close", "CL"],
    (GeneralCategory.charsOf
      [.openPunctuation, .closePunctuation, .initialPunctuation, .finalPunctuation]).union
      (CharSet.ofTable ["22 27 275B-2760 2E00-2E01 2E06-2E08 2E0B 1F676-1F678"])),
   (["Extend", "EX"], sentenceExtenders),
   (["Format", "FO"],
    (GeneralCategory.chars .format).diff
      (CharSet.unions [CharSet.ofTable ["70F 200C-200D"], sentenceExtenders, numberSigns])),
   (["Lower", "LO"], sentenceLower),
   (["Numeric", "NU"],
    CharSet.unions [digitChars, CharSet.ofTable ["66B-66C"], numberSigns]),
   (["OLetter", "LE"],
    (alphabetic.union (CharSet.ofTable ["5F3 70F"])).diff
      (CharSet.unions [sentenceLower, sentenceUpper, sentenceExtenders])),
   (["SContinue", "SC"],
    CharSet.ofTable
      ["2C-2D 3A 55D 60C-60D 7F8 1802 1808 2013-2014 3001 FE10-FE11 FE13 FE31-FE32 FE50-FE51 FE55",
       "FE58 FE63 FF0C-FF0D FF1A FF64"]),
   (["STerm", "ST"], (stored "Sentence_Terminal").diff fullStops),
   (["Sp", "SP"], whiteSpace.diff (CharSet.ofTable ["A D 85 2028-2029"])),
   (["Upper", "UP"], sentenceUpper)]

end ThreatHunt.Unicode
