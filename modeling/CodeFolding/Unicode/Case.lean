import CodeFolding.Unicode.CaseFold
import CodeFolding.Unicode.Category

set_option autoImplicit false

namespace CodeFolding.Unicode

def otherLowercase : Charset := .ofRanges [
  (0xAA, 0xAA), (0xBA, 0xBA), (0x2B0, 0x2B8), (0x2C0, 0x2C1), (0x2E0, 0x2E4), (0x345, 0x345),
  (0x37A, 0x37A), (0x10FC, 0x10FC), (0x1D2C, 0x1D6A), (0x1D78, 0x1D78), (0x1D9B, 0x1DBF),
  (0x2071, 0x2071), (0x207F, 0x207F), (0x2090, 0x209C), (0x2170, 0x217F), (0x24D0, 0x24E9),
  (0x2C7C, 0x2C7D), (0xA69C, 0xA69D), (0xA770, 0xA770), (0xA7F2, 0xA7F4), (0xA7F8, 0xA7F9),
  (0xAB5C, 0xAB5F), (0xAB69, 0xAB69), (0x10780, 0x10780), (0x10783, 0x10785), (0x10787, 0x107B0),
  (0x107B2, 0x107BA), (0x1E030, 0x1E06D)]

def lowercase : Charset :=
  lowercaseLetters.union otherLowercase

def otherUppercase : Charset := .ofRanges [
  (0x2160, 0x216F), (0x24B6, 0x24CF), (0x1F130, 0x1F149), (0x1F150, 0x1F169), (0x1F170, 0x1F189)]

def uppercase : Charset :=
  uppercaseLetters.union otherUppercase

def cased : Charset :=
  (lowercase.union uppercase).union titlecaseLetters

/-- Quotes, stops, colons and the like that may stand inside a word. -/
def midWordSigns : Charset := .ofRanges [
  (0x27, 0x27), (0x2E, 0x2E), (0x3A, 0x3A), (0xB7, 0xB7), (0x387, 0x387), (0x55F, 0x55F),
  (0x5F4, 0x5F4), (0x2018, 0x2019), (0x2024, 0x2024), (0x2027, 0x2027), (0xFE13, 0xFE13),
  (0xFE52, 0xFE52), (0xFE55, 0xFE55), (0xFF07, 0xFF07), (0xFF0E, 0xFF0E), (0xFF1A, 0xFF1A)]

def caseIgnorable : Charset :=
  [enclosingMarks, formats, modifierLetters, modifierSymbols, midWordSigns].foldl Charset.union
    nonspacingMarks

/-- Characters that differ from their folded form. -/
def folding : Charset :=
  .ofSteps (foldRuns.map fun run => (run.first, run.last, run.step))

/-- Characters that are the folded form of another. -/
def foldedForms : Charset :=
  (foldRuns.map fun run =>
    Charset.ofSteps [(run.target, run.target + (run.last - run.first), run.step)]).foldl
    Charset.union .none

/-- Characters whose folded form is more than one character. -/
def foldingAtLength : Charset := .ofRanges [
  (0xDF, 0xDF), (0x130, 0x130), (0x149, 0x149), (0x587, 0x587), (0x1E9A, 0x1E9A), (0x1F80, 0x1F87),
  (0x1F90, 0x1F97), (0x1FA0, 0x1FA7), (0x1FB2, 0x1FB4), (0x1FB7, 0x1FB7), (0x1FC2, 0x1FC4),
  (0x1FC7, 0x1FC7), (0x1FF2, 0x1FF4), (0x1FF7, 0x1FF7), (0xFB00, 0xFB04), (0xFB06, 0xFB06),
  (0xFB13, 0xFB17)]

/-- Characters that fold, but whose decomposed form does not. -/
def foldedBefore : Charset :=
  .ofRanges [(0x1FBE, 0x1FBE), (0x1FD3, 0x1FD3), (0x1FE3, 0x1FE3)]

def changesWhenCasefolded : Charset :=
  (folding.diff foldedBefore).union foldingAtLength

/-- Uppercase letters that do not fold to their lowercase letters. -/
def loweredOnly : Charset :=
  .ofRanges [(0x130, 0x130), (0x13A0, 0x13F5)]

/-- Characters that fold without being uppercase. -/
def foldingLowercase : Charset := .ofRanges [
  (0xB5, 0xB5), (0x17F, 0x17F), (0x345, 0x345), (0x3C2, 0x3C2), (0x3D0, 0x3D1), (0x3D5, 0x3D6),
  (0x3F0, 0x3F1), (0x3F5, 0x3F5), (0x13F8, 0x13FD), (0x1C80, 0x1C88), (0x1E9B, 0x1E9B),
  (0x1FBE, 0x1FBE), (0x1FD3, 0x1FD3), (0x1FE3, 0x1FE3), (0xAB70, 0xABBF), (0xFB05, 0xFB05)]

def changesWhenLowercased : Charset :=
  (folding.diff foldingLowercase).union loweredOnly

/-- Characters with an uppercase form that does not fold to them. -/
def raisedOnly : Charset := .ofRanges [
  (0xB5, 0xB5), (0x131, 0x131), (0x149, 0x149), (0x17F, 0x17F), (0x1C5, 0x1C5), (0x1C8, 0x1C8),
  (0x1CB, 0x1CB), (0x1F0, 0x1F0), (0x1F2, 0x1F2), (0x345, 0x345), (0x3C2, 0x3C2), (0x3D0, 0x3D1),
  (0x3D5, 0x3D6), (0x3F0, 0x3F1), (0x3F5, 0x3F5), (0x587, 0x587), (0x13F8, 0x13FD),
  (0x1C80, 0x1C88), (0x1E96, 0x1E9B), (0x1F50, 0x1F50), (0x1F52, 0x1F52), (0x1F54, 0x1F54),
  (0x1F56, 0x1F56), (0x1F88, 0x1F8F), (0x1F98, 0x1F9F), (0x1FA8, 0x1FAF), (0x1FB2, 0x1FB2),
  (0x1FB4, 0x1FB4), (0x1FB6, 0x1FB7), (0x1FBC, 0x1FBC), (0x1FBE, 0x1FBE), (0x1FC2, 0x1FC2),
  (0x1FC4, 0x1FC4), (0x1FC6, 0x1FC7), (0x1FCC, 0x1FCC), (0x1FD2, 0x1FD3), (0x1FD6, 0x1FD7),
  (0x1FE2, 0x1FE4), (0x1FE6, 0x1FE7), (0x1FF2, 0x1FF2), (0x1FF4, 0x1FF4), (0x1FF6, 0x1FF7),
  (0x1FFC, 0x1FFC), (0xAB70, 0xABBF), (0xFB00, 0xFB05), (0xFB13, 0xFB17)]

def foldedUppercase : Charset :=
  .ofRanges [(0x13A0, 0x13F5)]

def changesWhenUppercased : Charset :=
  (foldedForms.diff foldedUppercase).union raisedOnly

/-- Uppercase digraphs, which have a titlecase form. -/
def titledOnly : Charset :=
  .ofRanges [(0x1C4, 0x1C4), (0x1C7, 0x1C7), (0x1CA, 0x1CA), (0x1F1, 0x1F1)]

/-- Characters that have an uppercase form and are their own titlecase form. -/
def raisedNotTitled : Charset := .ofRanges [
  (0x1C5, 0x1C5), (0x1C8, 0x1C8), (0x1CB, 0x1CB), (0x1F2, 0x1F2), (0x10D0, 0x10FA),
  (0x10FD, 0x10FF), (0x1F88, 0x1F8F), (0x1F98, 0x1F9F), (0x1FA8, 0x1FAF), (0x1FBC, 0x1FBC),
  (0x1FCC, 0x1FCC), (0x1FFC, 0x1FFC)]

def changesWhenTitlecased : Charset :=
  (changesWhenUppercased.diff raisedNotTitled).union titledOnly

def changesWhenCasemapped : Charset :=
  (changesWhenLowercased.union changesWhenUppercased).union changesWhenTitlecased

end CodeFolding.Unicode
