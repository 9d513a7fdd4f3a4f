import CodeFolding.Unicode.Case
import CodeFolding.Unicode.Emoji
import CodeFolding.Unicode.Grapheme
import CodeFolding.Unicode.Orthography
import CodeFolding.Unicode.Script
import CodeFolding.Unicode.Word

set_option autoImplicit false

namespace CodeFolding.Unicode

/-- Consonants and marks that are written in front of what follows. -/
def prepended : Charset := .ofRanges [
  (0x600, 0x605), (0x6DD, 0x6DD), (0x70F, 0x70F), (0x890, 0x891), (0x8E2, 0x8E2), (0xD4E, 0xD4E),
  (0x110BD, 0x110BD), (0x110CD, 0x110CD), (0x111C2, 0x111C3), (0x113D1, 0x113D1),
  (0x1193F, 0x1193F), (0x11941, 0x11941), (0x11A3A, 0x11A3A), (0x11A84, 0x11A89),
  (0x11D46, 0x11D46), (0x11F02, 0x11F02)]

def clusterExtend : Charset :=
  graphemeExtend.union emojiModifiers

/-- What stands apart from every grapheme. -/
def clusterControl : Charset :=
  (([lineSeparators, paragraphSeparators, controls, formats].foldl Charset.union
    (ignorable.inter unassigned)).diff (concatenationMarks.union clusterExtend)).diff
    (.ofRanges [(0x0A, 0x0A), (0x0D, 0x0D), (0x200C, 0x200D)])

def vowelJamo : Charset :=
  .ofRanges [(0x1160, 0x11A7), (0xD7B0, 0xD7C6), (0x16D63, 0x16D63), (0x16D67, 0x16D6A)]

/-- Vowel signs that are letters. -/
def clusterLetters : Charset :=
  .ofRanges [(0xE33, 0xE33), (0xEB3, 0xEB3)]

/-- Spacing marks that do not join. -/
def looseMarks : Charset := .ofRanges [
  (0x102B, 0x102C), (0x1038, 0x1038), (0x1062, 0x1064), (0x1067, 0x106D), (0x1083, 0x1083),
  (0x1087, 0x108C), (0x108F, 0x108F), (0x109A, 0x109C), (0x1A61, 0x1A61), (0x1A63, 0x1A64),
  (0xAA7B, 0xAA7B), (0xAA7D, 0xAA7D), (0x11720, 0x11721)]

/-- Marks that join to the grapheme in front of them. -/
def clusterMarks : Charset :=
  (((spacingMarks.diff clusterExtend).union clusterLetters).diff looseMarks).diff vowelJamo

/-- Syllables without a final consonant. -/
def openSyllables : Charset :=
  .ofCodes ((List.range 399).map fun index => 0xAC00 + 28 * index)

def syllables : Charset :=
  .range 0xAC00 0xD7A3

def clusterBreaks : List Charset.Named := [
  ⟨["cr"], .single '\r'⟩,
  ⟨["lf"], .single '\n'⟩,
  ⟨["cn", "control"], clusterControl⟩,
  ⟨["ex", "extend"], clusterExtend⟩,
  ⟨["zwj"], .range 0x200D 0x200D⟩,
  ⟨["ri", "regionalindicator"], regionalIndicators⟩,
  ⟨["pp", "prepend"], prepended⟩,
  ⟨["sm", "spacingmark"], clusterMarks⟩,
  ⟨["l"], .ofRanges [(0x1100, 0x115F), (0xA960, 0xA97C)]⟩,
  ⟨["v"], vowelJamo⟩,
  ⟨["t"], .ofRanges [(0x11A8, 0x11FF), (0xD7CB, 0xD7FB)]⟩,
  ⟨["lv"], openSyllables⟩,
  ⟨["lvt"], syllables.diff openSyllables⟩]

def wordExtend : Charset :=
  (graphemeExtend.union spacingMarks).union emojiModifiers

def wordFormats : Charset :=
  ((formats.diff (.range 0x200B 0x200D)).diff prepended).diff wordExtend

/-- Signs that are used like Katakana. -/
def kanaSigns : Charset := .ofRanges [
  (0x3031, 0x3035), (0x309B, 0x309C), (0x30A0, 0x30A0), (0x30FC, 0x30FC), (0xFF70, 0xFF70)]

def wordKatakana : Charset :=
  Script.katakana.union kanaSigns

def wordHebrew : Charset :=
  Script.hebrew.inter otherLetters

def letterSigns : Charset := .ofRanges [
  (0x2C2, 0x2C5), (0x2D2, 0x2D7), (0x2DE, 0x2DF), (0x2E5, 0x2EB), (0x2ED, 0x2ED), (0x2EF, 0x2FF),
  (0x55A, 0x55C), (0x55E, 0x55E), (0x58A, 0x58A), (0x5F3, 0x5F3), (0x70F, 0x70F), (0xA708, 0xA716),
  (0xA720, 0xA721), (0xA789, 0xA78A), (0xAB5B, 0xAB5B)]

/-- Letters of scripts that do not set words apart. -/
def unspacedLetters : Charset := .ofRanges [
  (0xE01, 0xE3A), (0xE40, 0xE4E), (0xE81, 0xE82), (0xE84, 0xE84), (0xE86, 0xE8A), (0xE8C, 0xEA3),
  (0xEA5, 0xEA5), (0xEA7, 0xEBD), (0xEC0, 0xEC4), (0xEC6, 0xEC6), (0xEC8, 0xECE), (0xEDC, 0xEDF),
  (0x1000, 0x103F), (0x1050, 0x108F), (0x109A, 0x109F), (0x1780, 0x17D3), (0x17D7, 0x17D7),
  (0x17DC, 0x17DD), (0x1950, 0x196D), (0x1970, 0x1974), (0x1980, 0x19AB), (0x19B0, 0x19C9),
  (0x19DA, 0x19DA), (0x19DE, 0x19DF), (0x1A20, 0x1A5E), (0x1A60, 0x1A7C), (0x1AA0, 0x1AAD),
  (0xA9E0, 0xA9EF), (0xA9FA, 0xA9FE), (0xAA60, 0xAAC2), (0xAADB, 0xAADF), (0x11700, 0x1171A),
  (0x1171D, 0x1172B), (0x1173A, 0x1173B), (0x1173F, 0x11746)]

def wordLetters : Charset :=
  (alphabetic.union letterSigns).diff
    ([wordKatakana, unspacedLetters, Script.hiragana, wordExtend, wordHebrew].foldl Charset.union
      ideographic)

def numberSigns : Charset := .ofRanges [
  (0x600, 0x605), (0x66B, 0x66C), (0x6DD, 0x6DD), (0x890, 0x891), (0x8E2, 0x8E2),
  (0x110BD, 0x110BD), (0x110CD, 0x110CD)]

/-- What numbers are written with. -/
def segmentNumbers : Charset :=
  digits.union numberSigns

def wordBreaks : List Charset.Named := [
  ⟨["cr"], .single '\r'⟩,
  ⟨["lf"], .single '\n'⟩,
  ⟨["nl", "newline"], .ofRanges [(0x0B, 0x0C), (0x85, 0x85), (0x2028, 0x2029)]⟩,
  ⟨["extend"], wordExtend⟩,
  ⟨["zwj"], .range 0x200D 0x200D⟩,
  ⟨["ri", "regionalindicator"], regionalIndicators⟩,
  ⟨["fo", "format"], wordFormats⟩,
  ⟨["ka", "katakana"], wordKatakana⟩,
  ⟨["hl", "hebrewletter"], wordHebrew⟩,
  ⟨["le", "aletter"], wordLetters⟩,
  ⟨["sq", "singlequote"], .range 0x27 0x27⟩,
  ⟨["dq", "doublequote"], .range 0x22 0x22⟩,
  ⟨["mb", "midnumlet"], .ofRanges [
    (0x2E, 0x2E), (0x2018, 0x2019), (0x2024, 0x2024), (0xFE52, 0xFE52), (0xFF07, 0xFF07),
    (0xFF0E, 0xFF0E)]⟩,
  ⟨["ml", "midletter"], .ofRanges [
    (0x3A, 0x3A), (0xB7, 0xB7), (0x387, 0x387), (0x55F, 0x55F), (0x5F4, 0x5F4), (0x2027, 0x2027),
    (0xFE13, 0xFE13), (0xFE55, 0xFE55), (0xFF1A, 0xFF1A)]⟩,
  ⟨["mn", "midnum"], .ofRanges [
    (0x2C, 0x2C), (0x3B, 0x3B), (0x37E, 0x37E), (0x589, 0x589), (0x60C, 0x60D), (0x66C, 0x66C),
    (0x7F8, 0x7F8), (0x2044, 0x2044), (0xFE10, 0xFE10), (0xFE14, 0xFE14), (0xFE50, 0xFE50),
    (0xFE54, 0xFE54), (0xFF0C, 0xFF0C), (0xFF1B, 0xFF1B)]⟩,
  ⟨["nu", "numeric"], segmentNumbers.diff (.range 0x66C 0x66C)⟩,
  ⟨["ex", "extendnumlet"], connectors.union (.range 0x202F 0x202F)⟩,
  ⟨["wsegspace"], spaces.diff (.ofRanges [(0xA0, 0xA0), (0x2007, 0x2007), (0x202F, 0x202F)])⟩]

def sentenceExtend : Charset :=
  (graphemeExtend.union spacingMarks).union (.range 0x200D 0x200D)

/-- What ends a paragraph. -/
def sentenceBreakers : Charset :=
  .ofRanges [(0x85, 0x85), (0x2028, 0x2029)]

def sentenceLower : Charset :=
  (lowercase.diff graphemeExtend).diff (.ofRanges [(0x10D0, 0x10FA), (0x10FD, 0x10FF)])

def sentenceUpper : Charset :=
  (uppercase.union titlecaseLetters).diff (.ofRanges [(0x1C90, 0x1CBA), (0x1CBD, 0x1CBF)])

/-- Stops that may end an abbreviation. -/
def fullStops : Charset :=
  .ofRanges [(0x2E, 0x2E), (0x2024, 0x2024), (0xFE52, 0xFE52), (0xFF0E, 0xFF0E)]

def quotes : Charset := .ofRanges [
  (0x22, 0x22), (0x27, 0x27), (0x275B, 0x2760), (0x2E00, 0x2E01), (0x2E06, 0x2E08),
  (0x2E0B, 0x2E0B), (0x1F676, 0x1F678)]

def sentenceCommas : Charset := .ofRanges [
  (0x2C, 0x2D), (0x3A, 0x3B), (0x37E, 0x37E), (0x55D, 0x55D), (0x60C, 0x60D), (0x7F8, 0x7F8),
  (0x1802, 0x1802), (0x1808, 0x1808), (0x2013, 0x2014), (0x3001, 0x3001), (0xFE10, 0xFE11),
  (0xFE13, 0xFE14), (0xFE31, 0xFE32), (0xFE50, 0xFE51), (0xFE54, 0xFE55), (0xFE58, 0xFE58),
  (0xFE63, 0xFE63), (0xFF0C, 0xFF0D), (0xFF1A, 0xFF1B), (0xFF64, 0xFF64)]

def sentenceBreaks : List Charset.Named := [
  ⟨["cr"], .single '\r'⟩,
  ⟨["lf"], .single '\n'⟩,
  ⟨["ex", "extend"], sentenceExtend⟩,
  ⟨["se", "sep"], sentenceBreakers⟩,
  ⟨["fo", "format"], ((formats.diff (.range 0x200C 0x200D)).diff sentenceExtend).diff numberSigns⟩,
  ⟨["sp"], (blanks.diff sentenceBreakers).diff (.ofRanges [(0x0A, 0x0A), (0x0D, 0x0D)])⟩,
  ⟨["lo", "lower"], sentenceLower⟩,
  ⟨["up", "upper"], sentenceUpper⟩,
  ⟨["le", "oletter"],
    (alphabetic.union (.range 0x5F3 0x5F3)).diff
      ((sentenceLower.union sentenceUpper).union sentenceExtend)⟩,
  ⟨["nu", "numeric"], segmentNumbers⟩,
  ⟨["at", "aterm"], fullStops⟩,
  ⟨["st", "sterm"], sentenceTerminals.diff fullStops⟩,
  ⟨["sc", "scontinue"], sentenceCommas⟩,
  ⟨["cl", "close"],
    ([openingPunctuation, closingPunctuation, initialQuotes, finalQuotes].foldl Charset.union
      quotes).diff (fullStops.union sentenceTerminals)⟩]

end CodeFolding.Unicode
