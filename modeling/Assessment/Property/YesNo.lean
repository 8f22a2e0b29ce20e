import Assessment.Property.Case
import Assessment.Property.Category
import Assessment.Property.Listed
import Assessment.Text.Blank

/-!
# Properties that hold or do not hold

Most of these properties are derived: they add to general categories what is listed for them, and
take away what does not belong. The rest are lists.
-/

namespace Assessment.Property

open Text

/-- The digits of hexadecimal numbers in ASCII. -/
def asciiHexDigitRanges : CodeRanges := [(0x30, 0x39), (0x41, 0x46), (0x61, 0x66)]

/-- The digits of hexadecimal numbers. -/
def hexDigitRanges : CodeRanges :=
  asciiHexDigitRanges ++ [(0xFF10, 0xFF19), (0xFF21, 0xFF26), (0xFF41, 0xFF46)]

/-- The alphabetic characters: letters, letter numbers and what counts as such. -/
def alphabeticRanges : CodeRanges := letterRanges ++ numberLetterRanges ++ otherAlphabeticRanges

/-- The capital characters. -/
def uppercaseRanges : CodeRanges := uppercaseLetterRanges ++ otherUppercaseRanges

/-- The small characters. -/
def lowercaseRanges : CodeRanges := lowercaseLetterRanges ++ otherLowercaseRanges

/-- The characters that have a case. -/
def casedRanges : CodeRanges := lowercaseRanges ++ uppercaseRanges ++ titlecaseLetterRanges

/-- The punctuation that may stand inside of a word. -/
def midWordRanges : CodeRanges :=
  [(0x27, 0x27), (0x2E, 0x2E), (0x3A, 0x3A), (0xB7, 0xB7), (0x387, 0x387), (0x55F, 0x55F),
    (0x5F4, 0x5F4), (0x2018, 0x2019), (0x2024, 0x2024), (0x2027, 0x2027), (0xFE13, 0xFE13),
    (0xFE52, 0xFE52), (0xFE55, 0xFE55), (0xFF07, 0xFF07), (0xFF0E, 0xFF0E), (0xFF1A, 0xFF1A)]

/-- The characters that are passed over when the end of a word is looked for. -/
def caseIgnorableRanges : CodeRanges :=
  nonspacingMarkRanges ++ enclosingMarkRanges ++ formatRanges ++ modifierLetterRanges ++
    modifierSymbolRanges ++ midWordRanges

/-- The word characters: alphabetic characters, marks, decimal digits, connector punctuation and
the two join controls. -/
def wordRanges : CodeRanges :=
  alphabeticRanges ++ markRanges ++ decimalDigitRanges ++ connectorRanges ++ joinControlRanges

/-- What goes together with the character before it. -/
def graphemeExtendRanges : CodeRanges :=
  enclosingMarkRanges ++ nonspacingMarkRanges ++ otherExtendRanges

/-- What has a place of its own: everything that is written, without what extends. -/
def graphemeBase : CharSet :=
  .complement <| .union unassigned <| .ranges <|
    controlRanges ++ formatRanges ++ privateUseRanges ++ lineSeparatorRanges ++
      paragraphSeparatorRanges ++ graphemeExtendRanges

/-- What leaves no trace when it cannot be shown. -/
def ignorable : CharSet :=
  .difference (.ranges (otherIgnorableRanges ++ formatRanges ++ variationSelectorRanges))
    (.ranges (prependedRanges ++ [(0xFFF9, 0xFFFB), (0x13430, 0x1343F)]))

/-- What may begin an identifier. -/
def identifierStart : CharSet :=
  .difference (.ranges (letterRanges ++ numberLetterRanges ++ otherIdentifierStartRanges))
    (.ranges (patternSyntaxRanges ++ patternBlankRanges))

/-- What may go on an identifier. -/
def identifierPart : CharSet :=
  .union identifierStart <| .ranges <|
    nonspacingMarkRanges ++ spacingMarkRanges ++ decimalDigitRanges ++ connectorRanges ++
      otherIdentifierPartRanges

/-- The characters that become something else when their compatibility forms are undone. -/
def unstableRanges : CodeRanges :=
  [(0x37A, 0x37A), (0x309B, 0x309C), (0xFC5E, 0xFC63), (0xFDFA, 0xFDFB), (0xFE70, 0xFE70),
    (0xFE72, 0xFE72), (0xFE74, 0xFE74), (0xFE76, 0xFE76), (0xFE78, 0xFE78), (0xFE7A, 0xFE7A),
    (0xFE7C, 0xFE7C), (0xFE7E, 0xFE7E)]

/-- What may begin an identifier whose compatibility forms may be undone. -/
def stableIdentifierStart : CharSet :=
  .difference identifierStart
    (.ranges (unstableRanges ++ [(0xE33, 0xE33), (0xEB3, 0xEB3), (0xFF9E, 0xFF9F)]))

/-- What may go on an identifier whose compatibility forms may be undone. -/
def stableIdentifierPart : CharSet := .difference identifierPart (.ranges unstableRanges)

/-- What changes at the beginning of a title. -/
def titlecased : CharSet :=
  .difference (.ranges (uppercasedRanges ++ titlecasedOnlyRanges)) (.ranges uppercasedOnlyRanges)

/-- What changes when case is folded. -/
def caseFolded : CharSet := .difference (.ranges foldedRanges) (.ranges unfoldedRanges)

/-- The listed properties and those that are sums of lists, with their names. -/
def listedProperties : List (List String × CodeRanges) :=
  [(["alphabetic", "alpha"], alphabeticRanges),
    (["asciihexdigit", "ahex"], asciiHexDigitRanges),
    (["bidicontrol", "bidic"], bidiControlRanges),
    (["bidimirrored", "bidim"], bidiMirroredRanges),
    (["cased"], casedRanges),
    (["caseignorable", "ci"], caseIgnorableRanges),
    (["changeswhencasemapped", "cwcm"],
      lowercasedRanges ++ uppercasedRanges ++ titlecasedOnlyRanges),
    (["changeswhenlowercased", "cwl"], lowercasedRanges),
    (["changeswhenuppercased", "cwu"], uppercasedRanges),
    (["dash"], dashRanges),
    (["deprecated", "dep"], deprecatedRanges),
    (["diacritic", "dia"], diacriticRanges),
    (["emoji"], emojiRanges),
    (["emojicomponent", "ecomp"], emojiComponentRanges),
    (["emojimodifier", "emod"], emojiModifierRanges),
    (["emojimodifierbase", "ebase"], emojiModifierBaseRanges),
    (["emojipresentation", "epres"], emojiPresentationRanges),
    (["extendedpictographic", "extpict"], pictographicRanges),
    (["extender", "ext"], extenderRanges),
    (["graphemeextend", "grext"], graphemeExtendRanges),
    (["graphemelink", "grlink"], viramaRanges),
    (["hexdigit", "hex"], hexDigitRanges),
    (["hyphen"], hyphenRanges),
    (["idsbinaryoperator", "idsb"], ideographPairRanges),
    (["idstrinaryoperator", "idst"], ideographTripleRanges),
    (["idsunaryoperator", "idsu"], ideographSingleRanges),
    (["idcompatmathcontinue"], mathIdentifierStartRanges ++ mathIdentifierPartRanges),
    (["idcompatmathstart"], mathIdentifierStartRanges),
    (["ideographic", "ideo"], ideographRanges),
    (["joincontrol", "joinc"], joinControlRanges),
    (["logicalorderexception", "loe"], spokenLaterRanges),
    (["lowercase", "lower"], lowercaseRanges),
    (["math"], mathSymbolRanges ++ otherMathRanges),
    (["modifiercombiningmark", "mcm"], modifierCombiningRanges),
    (["noncharactercodepoint", "nchar"], noncharacterRanges),
    (["otheralphabetic", "oalpha"], otherAlphabeticRanges),
    (["otherdefaultignorablecodepoint", "odi"], otherIgnorableRanges),
    (["othergraphemeextend", "ogrext"], otherExtendRanges),
    (["otheridcontinue", "oidc"], otherIdentifierPartRanges),
    (["otheridstart", "oids"], otherIdentifierStartRanges),
    (["otherlowercase", "olower"], otherLowercaseRanges),
    (["othermath", "omath"], otherMathRanges),
    (["otheruppercase", "oupper"], otherUppercaseRanges),
    (["patternsyntax", "patsyn"], patternSyntaxRanges),
    (["patternwhitespace", "patws"], patternBlankRanges),
    (["prependedconcatenationmark", "pcm"], prependedRanges),
    (["quotationmark", "qmark"], quotationMarkRanges),
    (["radical"], radicalRanges),
    (["regionalindicator", "ri"], regionalIndicatorRanges),
    (["sentenceterminal", "sterm"], sentenceEndRanges),
    (["softdotted", "sd"], softDottedRanges),
    (["terminalpunctuation", "term"], terminalRanges),
    (["unifiedideograph", "uideo"], unifiedIdeographRanges),
    (["uppercase", "upper"], uppercaseRanges),
    (["variationselector", "vs"], variationSelectorRanges),
    (["whitespace", "wspace", "space"], blankRanges)]

/-- The properties that take something away, with their names. -/
def reducedProperties : List (List String × CharSet) :=
  [(["changeswhencasefolded", "cwcf"], caseFolded),
    (["changeswhentitlecased", "cwt"], titlecased),
    (["defaultignorablecodepoint", "di"], ignorable),
    (["graphemebase", "grbase"], graphemeBase),
    (["idcontinue", "idc"], identifierPart),
    (["idstart", "ids"], identifierStart),
    (["xidcontinue", "xidc"], stableIdentifierPart),
    (["xidstart", "xids"], stableIdentifierStart)]

end Assessment.Property
