import Scriptlet.Unicode.Script
import Scriptlet.Unicode.Trait

/-!
# Breaks

The values of the properties that say where graphemes, words and sentences end, for version 16.0 of
the Unicode character database. Each value is given by its names and by the characters that have it.
The rules are those of the annex on text segmentation, where lines of text break at digits and
quotation marks being put in terms of categories.
-/

namespace Scriptlet.Unicode

def codes (points : List Nat) : CodeSet :=
  .ofPoints points

def openSyllables : CodeSet :=
  codes ((List.range 399).map fun i => 0xAC00 + 28 * i)

def numberMarks : CodeSet :=
  prependedConcatenationMark.diff (codes [0x70F])

def extending : CodeSet :=
  graphemeExtend.union (Category.set [.spacingMark])

/-! ## Graphemes -/

def graphemeBreakExtend : CodeSet :=
  graphemeExtend.union emojiModifier

/-- Vowels of Hangul, and of another script that is spelled like it. -/
def vowelJamo : CodeSet :=
  .ofRanges [(0x1160, 0x11A7), (0xD7B0, 0xD7C6), (0x16D63, 0x16D63), (0x16D67, 0x16D6A)]

def detachedMarks : CodeSet :=
  .ofRanges [(0x102B, 0x102C), (0x1038, 0x1038), (0x1062, 0x1064), (0x1067, 0x106D),
    (0x1083, 0x1083), (0x1087, 0x108C), (0x108F, 0x108F), (0x109A, 0x109C), (0x1A61, 0x1A61),
    (0x1A63, 0x1A64), (0xAA7B, 0xAA7B), (0xAA7D, 0xAA7D), (0x11720, 0x11721)]

def graphemeControl : CodeSet :=
  .diff
    (.union (Category.set [.lineSeparator, .paragraphSeparator, .control, .format])
      ((Category.set [.unassigned]).inter defaultIgnorableCodePoint))
    (.unions [codes [0xA, 0xD, 0x200C, 0x200D], prependedConcatenationMark, graphemeBreakExtend])

/-- The values of the break property of graphemes. -/
def graphemeBreaks : List (List String × CodeSet) :=
  [(["CN", "Control"], graphemeControl),
   (["CR"], codes [0xD]),
   (["EX", "Extend"], graphemeBreakExtend),
   (["L"], .ofRanges [(0x1100, 0x115F), (0xA960, 0xA97C)]),
   (["LF"], codes [0xA]),
   (["LV"], openSyllables),
   (["LVT"], .diff (.range 0xAC00 0xD7A3) openSyllables),
   (["PP", "Prepend"],
    prependedConcatenationMark.union
      (.ofRanges [(0xD4E, 0xD4E), (0x111C2, 0x111C3), (0x113D1, 0x113D1), (0x1193F, 0x1193F),
        (0x11941, 0x11941), (0x11A3A, 0x11A3A), (0x11A84, 0x11A89), (0x11D46, 0x11D46),
        (0x11F02, 0x11F02)])),
   (["RI", "Regional_Indicator"], regionalIndicator),
   (["SM", "SpacingMark"],
    .diff (.union (Category.set [.spacingMark]) (codes [0xE33, 0xEB3]))
      (.unions [graphemeBreakExtend, detachedMarks, vowelJamo])),
   (["T"], .ofRanges [(0x11A8, 0x11FF), (0xD7CB, 0xD7FB)]),
   (["V"], vowelJamo),
   (["ZWJ"], codes [0x200D])]

/-! ## Words -/

def wordKatakana : CodeSet :=
  .union (scriptSet "Kana")
    (.ofRanges [(0x3031, 0x3035), (0x309B, 0x309C), (0x30A0, 0x30A0), (0x30FC, 0x30FC),
      (0xFF70, 0xFF70)])

def hebrewLetters : CodeSet :=
  (scriptSet "Hebr").inter (Category.set [.otherLetter])

def wordExtend : CodeSet :=
  extending.union emojiModifier

def unspacedScripts : CodeSet :=
  .unions (["Ahom", "Khmr", "Lana", "Laoo", "Mymr", "Tale", "Talu", "Tavt", "Thai"].map scriptSet)

def letterLikeMarks : CodeSet :=
  .ofRanges [(0x2C2, 0x2C5), (0x2D2, 0x2D7), (0x2DE, 0x2DF), (0x2E5, 0x2EB), (0x2ED, 0x2ED),
    (0x2EF, 0x2FF), (0x55A, 0x55C), (0x55E, 0x55E), (0x58A, 0x58A), (0x5F3, 0x5F3),
    (0x70F, 0x70F), (0xA708, 0xA716), (0xA720, 0xA721), (0xA789, 0xA78A), (0xAB5B, 0xAB5B)]

def wordLetters : CodeSet :=
  .diff (alphabetic.union letterLikeMarks)
    (.unions [ideographic, wordKatakana, unspacedScripts, scriptSet "Hira", wordExtend,
      hebrewLetters])

def breakNumeric : CodeSet :=
  .unions [Category.set [.decimalNumber], numberMarks, codes [0x66B, 0x19DA]]

/-- The values of the break property of words. -/
def wordBreaks : List (List String × CodeSet) :=
  [(["CR"], codes [0xD]),
   (["DQ", "Double_Quote"], codes [0x22]),
   (["EX", "ExtendNumLet"], (Category.set [.connectorPunctuation]).union (codes [0x202F])),
   (["Extend"], wordExtend),
   (["FO", "Format"],
    .diff (Category.set [.format])
      (.unions [codes [0x200B, 0x200C, 0x200D], prependedConcatenationMark, wordExtend])),
   (["HL", "Hebrew_Letter"], hebrewLetters),
   (["KA", "Katakana"], wordKatakana),
   (["LE", "ALetter"], wordLetters),
   (["LF"], codes [0xA]),
   (["MB", "MidNumLet"], codes [0x2E, 0x2018, 0x2019, 0x2024, 0xFE52, 0xFF07, 0xFF0E]),
   (["ML", "MidLetter"],
    codes [0x3A, 0xB7, 0x387, 0x55F, 0x5F4, 0x2027, 0xFE13, 0xFE55, 0xFF1A]),
   (["MN", "MidNum"],
    codes [0x2C, 0x3B, 0x37E, 0x589, 0x60C, 0x60D, 0x66C, 0x7F8, 0x2044, 0xFE50, 0xFE54, 0xFF0C,
      0xFF1B]),
   (["NL", "Newline"], codes [0xB, 0xC, 0x85, 0x2028, 0x2029]),
   (["NU", "Numeric"], breakNumeric),
   (["RI", "Regional_Indicator"], regionalIndicator),
   (["SQ", "Single_Quote"], codes [0x27]),
   (["WSegSpace"],
    .ofRanges [(0x20, 0x20), (0x1680, 0x1680), (0x2000, 0x2006), (0x2008, 0x200A),
      (0x205F, 0x205F), (0x3000, 0x3000)]),
   (["ZWJ"], codes [0x200D])]

/-! ## Sentences -/

/-- Characters that extend what is before them in a sentence. -/
def sentenceExtend : CodeSet :=
  extending.union (codes [0x200D])

def paragraphEnds : CodeSet :=
  codes [0x85, 0x2028, 0x2029]

/-- Lower case that may begin no sentence. The letters of Georgian may. -/
def sentenceLower : CodeSet :=
  lowercase.diff (graphemeExtend.union (.ofRanges [(0x10D0, 0x10FA), (0x10FD, 0x10FF)]))

def sentenceUpper : CodeSet :=
  .diff (.union (Category.set [.titlecaseLetter]) uppercase)
    (.ofRanges [(0x1C90, 0x1CBA), (0x1CBD, 0x1CBF)])

def fullStops : CodeSet :=
  codes [0x2E, 0x2024, 0xFE52, 0xFF0E]

def closing : CodeSet :=
  .union
    (Category.set
      [.openPunctuation, .closePunctuation, .initialPunctuation, .finalPunctuation])
    (.ofRanges [(0x22, 0x22), (0x27, 0x27), (0x275B, 0x2760), (0x2E00, 0x2E01),
      (0x2E06, 0x2E08), (0x2E0B, 0x2E0B), (0x1F676, 0x1F678)])

/-- The values of the break property of sentences. -/
def sentenceBreaks : List (List String × CodeSet) :=
  [(["AT", "ATerm"], fullStops),
   (["CL", "Close"], closing),
   (["CR"], codes [0xD]),
   (["EX", "Extend"], sentenceExtend),
   (["FO", "Format"],
    .diff (Category.set [.format])
      (.unions [codes [0x200C, 0x200D], numberMarks, sentenceExtend])),
   (["LE", "OLetter"],
    .diff (alphabetic.union (codes [0x5F3]))
      (.unions [sentenceLower, sentenceUpper, sentenceExtend])),
   (["LF"], codes [0xA]),
   (["LO", "Lower"], sentenceLower),
   (["NU", "Numeric"], breakNumeric.union (codes [0x66C])),
   (["SC", "SContinue"],
    .ofRanges [(0x2C, 0x2D), (0x3A, 0x3B), (0x37E, 0x37E), (0x55D, 0x55D), (0x60C, 0x60D),
      (0x7F8, 0x7F8), (0x1802, 0x1802), (0x1808, 0x1808), (0x2013, 0x2014), (0x3001, 0x3001),
      (0xFE10, 0xFE11), (0xFE13, 0xFE14), (0xFE31, 0xFE32), (0xFE50, 0xFE51),
      (0xFE54, 0xFE55), (0xFE58, 0xFE58), (0xFE63, 0xFE63), (0xFF0C, 0xFF0D),
      (0xFF1A, 0xFF1B), (0xFF64, 0xFF64)]),
   (["SE", "Sep"], paragraphEnds),
   (["SP", "Sp"], whiteSpace.diff (paragraphEnds.union (codes [0xA, 0xD]))),
   (["ST", "STerm"], sentenceTerminal.diff fullStops),
   (["UP", "Upper"], sentenceUpper)]

end Scriptlet.Unicode
