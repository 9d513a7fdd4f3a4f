import CodeFolding.Charset.Named
import CodeFolding.Unicode.Letter
import CodeFolding.Unicode.Mark
import CodeFolding.Unicode.Number
import CodeFolding.Unicode.Punctuation
import CodeFolding.Unicode.Symbol

set_option autoImplicit false

namespace CodeFolding.Unicode

def spaces : Charset := .ofRanges [
  (0x20, 0x20), (0xA0, 0xA0), (0x1680, 0x1680), (0x2000, 0x200A), (0x202F, 0x202F),
  (0x205F, 0x205F), (0x3000, 0x3000)]

def lineSeparators : Charset :=
  .ofRanges [(0x2028, 0x2028)]

def paragraphSeparators : Charset :=
  .ofRanges [(0x2029, 0x2029)]

def separators : Charset :=
  (spaces.union lineSeparators).union paragraphSeparators

def controls : Charset :=
  .ofRanges [(0x00, 0x1F), (0x7F, 0x9F)]

def formats : Charset := .ofRanges [
  (0xAD, 0xAD), (0x600, 0x605), (0x61C, 0x61C), (0x6DD, 0x6DD), (0x70F, 0x70F), (0x890, 0x891),
  (0x8E2, 0x8E2), (0x180E, 0x180E), (0x200B, 0x200F), (0x202A, 0x202E), (0x2060, 0x2064),
  (0x2066, 0x206F), (0xFEFF, 0xFEFF), (0xFFF9, 0xFFFB), (0x110BD, 0x110BD), (0x110CD, 0x110CD),
  (0x13430, 0x1343F), (0x1BCA0, 0x1BCA3), (0x1D173, 0x1D17A), (0xE0001, 0xE0001),
  (0xE0020, 0xE007F)]

def privateUse : Charset :=
  .ofRanges [(0xE000, 0xF8FF), (0xF0000, 0xFFFFD), (0x100000, 0x10FFFD)]

/-- Every character that has a meaning, or is set aside for private use. -/
def assigned : Charset :=
  [marks, numbers, punctuation, symbols, separators, controls, formats, privateUse].foldl
    Charset.union letters

def unassigned : Charset :=
  assigned.complement

def others : Charset :=
  ((controls.union formats).union privateUse).union unassigned

/-- The general categories, and three sets that go by names like theirs. -/
def categories : List Charset.Named := [
  ⟨["any"], .any⟩,
  ⟨["assigned"], assigned⟩,
  ⟨["ascii"], .range 0 0x7F⟩,
  ⟨["l", "letter"], letters⟩,
  ⟨["lc", "casedletter"], casedLetters⟩,
  ⟨["lu", "uppercaseletter"], uppercaseLetters⟩,
  ⟨["ll", "lowercaseletter"], lowercaseLetters⟩,
  ⟨["lt", "titlecaseletter"], titlecaseLetters⟩,
  ⟨["lm", "modifierletter"], modifierLetters⟩,
  ⟨["lo", "otherletter"], otherLetters⟩,
  ⟨["m", "mark", "combiningmark"], marks⟩,
  ⟨["mn", "nonspacingmark"], nonspacingMarks⟩,
  ⟨["mc", "spacingmark"], spacingMarks⟩,
  ⟨["me", "enclosingmark"], enclosingMarks⟩,
  ⟨["n", "number"], numbers⟩,
  ⟨["nd", "decimalnumber", "digit"], digits⟩,
  ⟨["nl", "letternumber"], letterNumbers⟩,
  ⟨["no", "othernumber"], otherNumbers⟩,
  ⟨["p", "punctuation", "punct"], punctuation⟩,
  ⟨["pc", "connectorpunctuation"], connectors⟩,
  ⟨["pd", "dashpunctuation"], dashPunctuation⟩,
  ⟨["ps", "openpunctuation"], openingPunctuation⟩,
  ⟨["pe", "closepunctuation"], closingPunctuation⟩,
  ⟨["pi", "initialpunctuation"], initialQuotes⟩,
  ⟨["pf", "finalpunctuation"], finalQuotes⟩,
  ⟨["po", "otherpunctuation"], otherPunctuation⟩,
  ⟨["s", "symbol"], symbols⟩,
  ⟨["sm", "mathsymbol"], mathSymbols⟩,
  ⟨["sc", "currencysymbol"], currencySymbols⟩,
  ⟨["sk", "modifiersymbol"], modifierSymbols⟩,
  ⟨["so", "othersymbol"], otherSymbols⟩,
  ⟨["z", "separator"], separators⟩,
  ⟨["zs", "spaceseparator"], spaces⟩,
  ⟨["zl", "lineseparator"], lineSeparators⟩,
  ⟨["zp", "paragraphseparator"], paragraphSeparators⟩,
  ⟨["c", "other"], others⟩,
  ⟨["cc", "control", "cntrl"], controls⟩,
  ⟨["cf", "format"], formats⟩,
  ⟨["co", "privateuse"], privateUse⟩,
  ⟨["cn", "unassigned"], unassigned⟩]

end CodeFolding.Unicode
