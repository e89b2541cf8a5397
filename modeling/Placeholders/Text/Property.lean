import Placeholders.Text.Property.CaseChange
import Placeholders.Text.Property.Emoji
import Placeholders.Text.Property.Format
import Placeholders.Text.Property.Identifier
import Placeholders.Text.Property.Ideograph
import Placeholders.Text.Property.Punctuation

/-!
# Binary properties of characters

* `CharSet.word`, `isWord`, `isAsciiWord` — the characters that words are made of.
* `isWhiteSpace` — white space.
* `CharSet.properties` — the binary properties by name.
-/

namespace Placeholders

namespace CharSet

/-- The characters that words are made of: alphabetic ones, marks, decimal digits, connectors and
joiners. -/
def word : CharSet := .unions [.category [.mn, .mc, .me, .nd, .pc], alphabetic, joinControl]

/-- The ASCII characters that words are made of. -/
def asciiWord : CharSet := .unions [.range '0' '9', .range 'A' 'Z', .single '_', .range 'a' 'z']

/-! ## Names -/

/-- The binary properties by their names, short and long, in loose form. -/
def properties : List (List String × CharSet) :=
  [(["ahex", "asciihexdigit"], asciiHexDigit),
   (["alpha", "alphabetic"], alphabetic),
   (["bidic", "bidicontrol"], bidiControl),
   (["bidim", "bidimirrored"], bidiMirrored),
   (["cased"], cased),
   (["ci", "caseignorable"], caseIgnorable),
   (["cwcf", "changeswhencasefolded"], changesWhenCasefolded),
   (["cwcm", "changeswhencasemapped"], changesWhenCasemapped),
   (["cwl", "changeswhenlowercased"], changesWhenLowercased),
   (["cwt", "changeswhentitlecased"], changesWhenTitlecased),
   (["cwu", "changeswhenuppercased"], changesWhenUppercased),
   (["dash"], dash),
   (["dep", "deprecated"], deprecated),
   (["di", "defaultignorablecodepoint"], defaultIgnorable),
   (["dia", "diacritic"], diacritic),
   (["ebase", "emojimodifierbase"], emojiModifierBase),
   (["ecomp", "emojicomponent"], emojiComponent),
   (["emod", "emojimodifier"], emojiModifier),
   (["emoji"], emoji),
   (["epres", "emojipresentation"], emojiPresentation),
   (["ext", "extender"], extender),
   (["extpict", "extendedpictographic"], extendedPictographic),
   (["grbase", "graphemebase"], graphemeBase),
   (["grext", "graphemeextend"], graphemeExtend),
   (["grlink", "graphemelink"], graphemeLink),
   (["hex", "hexdigit"], hexDigit),
   (["hyphen"], hyphen),
   (["idc", "idcontinue"], idContinue),
   (["idcompatmathcontinue"], compatMathContinue),
   (["idcompatmathstart"], compatMathStart),
   (["ideo", "ideographic"], ideographic),
   (["ids", "idstart"], idStart),
   (["idsb", "idsbinaryoperator"], binaryOperator),
   (["idst", "idstrinaryoperator"], trinaryOperator),
   (["idsu", "idsunaryoperator"], unaryOperator),
   (["joinc", "joincontrol"], joinControl),
   (["loe", "logicalorderexception"], logicalOrderException),
   (["lower", "lowercase"], lowercase),
   (["math"], math),
   (["mcm", "modifiercombiningmark"], combiningModifier),
   (["nchar", "noncharactercodepoint"], noncharacter),
   (["oalpha", "otheralphabetic"], otherAlphabetic),
   (["odi", "otherdefaultignorablecodepoint"], otherDefaultIgnorable),
   (["ogrext", "othergraphemeextend"], otherGraphemeExtend),
   (["oidc", "otheridcontinue"], otherIdContinue),
   (["oids", "otheridstart"], otherIdStart),
   (["olower", "otherlowercase"], otherLowercase),
   (["omath", "othermath"], otherMath),
   (["oupper", "otheruppercase"], otherUppercase),
   (["patsyn", "patternsyntax"], patternSyntax),
   (["patws", "patternwhitespace"], patternWhiteSpace),
   (["pcm", "prependedconcatenationmark"], prependedMark),
   (["qmark", "quotationmark"], quotationMark),
   (["radical"], radical),
   (["ri", "regionalindicator"], regionalIndicator),
   (["sd", "softdotted"], softDotted),
   (["sterm", "sentenceterminal"], sentenceTerminal),
   (["term", "terminalpunctuation"], terminalPunctuation),
   (["uideo", "unifiedideograph"], unifiedIdeograph),
   (["upper", "uppercase"], uppercase),
   (["vs", "variationselector"], variationSelector),
   (["wspace", "whitespace", "space"], whiteSpace),
   (["xidc", "xidcontinue"], xidContinue),
   (["xids", "xidstart"], xidStart)]

end CharSet

/-! ## Tests -/

/-- White space. -/
def isWhiteSpace (c : Char) : Bool := CharSet.whiteSpace.contains c

/-- The characters that words are made of. -/
def isWord (c : Char) : Bool := CharSet.word.contains c

/-- The ASCII characters that words are made of. -/
def isAsciiWord (c : Char) : Bool := CharSet.asciiWord.contains c

end Placeholders
