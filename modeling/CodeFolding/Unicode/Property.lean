import CodeFolding.Unicode.Case
import CodeFolding.Unicode.Emoji
import CodeFolding.Unicode.Grapheme
import CodeFolding.Unicode.Identifier
import CodeFolding.Unicode.Orthography
import CodeFolding.Unicode.Word

set_option autoImplicit false

namespace CodeFolding.Unicode

/-- The properties with two values: the sets of the characters that have them. -/
def properties : List Charset.Named := [
  ⟨["ahex", "asciihexdigit"], asciiHexDigits⟩,
  ⟨["alpha", "alphabetic"], alphabetic⟩,
  ⟨["bidic", "bidicontrol"], bidiControls⟩,
  ⟨["bidim", "bidimirrored"], bidiMirrored⟩,
  ⟨["ci", "caseignorable"], caseIgnorable⟩,
  ⟨["cased"], cased⟩,
  ⟨["cwcf", "changeswhencasefolded"], changesWhenCasefolded⟩,
  ⟨["cwcm", "changeswhencasemapped"], changesWhenCasemapped⟩,
  ⟨["cwl", "changeswhenlowercased"], changesWhenLowercased⟩,
  ⟨["cwt", "changeswhentitlecased"], changesWhenTitlecased⟩,
  ⟨["cwu", "changeswhenuppercased"], changesWhenUppercased⟩,
  ⟨["dash"], dashes⟩,
  ⟨["di", "defaultignorablecodepoint"], ignorable⟩,
  ⟨["dep", "deprecated"], deprecated⟩,
  ⟨["dia", "diacritic"], diacritics⟩,
  ⟨["emoji"], emoji⟩,
  ⟨["ecomp", "emojicomponent"], emojiComponents⟩,
  ⟨["emod", "emojimodifier"], emojiModifiers⟩,
  ⟨["ebase", "emojimodifierbase"], emojiModifierBases⟩,
  ⟨["epres", "emojipresentation"], emojiPresentation⟩,
  ⟨["extpict", "extendedpictographic"], pictographs⟩,
  ⟨["ext", "extender"], extenders⟩,
  ⟨["grbase", "graphemebase"], graphemeBase⟩,
  ⟨["grext", "graphemeextend"], graphemeExtend⟩,
  ⟨["grlink", "graphemelink"], graphemeLink⟩,
  ⟨["hex", "hexdigit"], hexDigits⟩,
  ⟨["hyphen"], hyphens⟩,
  ⟨["idsb", "idsbinaryoperator"], idsBinaryOperators⟩,
  ⟨["idst", "idstrinaryoperator"], idsTrinaryOperators⟩,
  ⟨["idsu", "idsunaryoperator"], idsUnaryOperators⟩,
  ⟨["idcompatmathcontinue"], idCompatMathContinue⟩,
  ⟨["idcompatmathstart"], idCompatMathStart⟩,
  ⟨["idc", "idcontinue"], idContinue⟩,
  ⟨["ids", "idstart"], idStart⟩,
  ⟨["ideo", "ideographic"], ideographic⟩,
  ⟨["joinc", "joincontrol"], joinControls⟩,
  ⟨["loe", "logicalorderexception"], logicalOrderExceptions⟩,
  ⟨["lower", "lowercase"], lowercase⟩,
  ⟨["math"], math⟩,
  ⟨["mcm", "modifiercombiningmark"], modifierCombiningMarks⟩,
  ⟨["nchar", "noncharactercodepoint"], noncharacters⟩,
  ⟨["oalpha", "otheralphabetic"], wordSigns⟩,
  ⟨["odi", "otherdefaultignorablecodepoint"], otherIgnorable⟩,
  ⟨["ogrext", "othergraphemeextend"], otherGraphemeExtend⟩,
  ⟨["oidc", "otheridcontinue"], otherIdContinue⟩,
  ⟨["oids", "otheridstart"], otherIdStart⟩,
  ⟨["olower", "otherlowercase"], otherLowercase⟩,
  ⟨["omath", "othermath"], otherMath⟩,
  ⟨["oupper", "otheruppercase"], otherUppercase⟩,
  ⟨["patsyn", "patternsyntax"], patternSyntax⟩,
  ⟨["patws", "patternwhitespace"], patternBlanks⟩,
  ⟨["pcm", "prependedconcatenationmark"], concatenationMarks⟩,
  ⟨["qmark", "quotationmark"], quotationMarks⟩,
  ⟨["radical"], radicals⟩,
  ⟨["ri", "regionalindicator"], regionalIndicators⟩,
  ⟨["sterm", "sentenceterminal"], sentenceTerminals⟩,
  ⟨["sd", "softdotted"], softDotted⟩,
  ⟨["term", "terminalpunctuation"], terminalPunctuation⟩,
  ⟨["uideo", "unifiedideograph"], unifiedIdeographs⟩,
  ⟨["upper", "uppercase"], uppercase⟩,
  ⟨["vs", "variationselector"], variationSelectors⟩,
  ⟨["wspace", "whitespace", "space"], blanks⟩,
  ⟨["xidc", "xidcontinue"], xidContinue⟩,
  ⟨["xids", "xidstart"], xidStart⟩]

end CodeFolding.Unicode
