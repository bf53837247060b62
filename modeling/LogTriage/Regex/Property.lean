import LogTriage.Regex.CharSet
import LogTriage.Text.AgeTable
import LogTriage.Text.BreakTable
import LogTriage.Text.CategoryTable
import LogTriage.Text.Lowercase
import LogTriage.Text.PropertyTable
import LogTriage.Text.ScriptTable

/-!
# Sets of characters by property

A set is known by the name of a property, of a general category or of a script, or by the name of
a kind of property and that of one of its values.  Capitals, spaces, hyphens, underscores and a
leading `is` make no difference to a name, so that the names listed here have none of them.

A rule says how a set is made up from tables.  Rules are data: only the set that a pattern names
is ever computed.
-/

namespace LogTriage.Regex
open Text

/-- The form in which names are compared.  `isc` is a name of its own. -/
def plainName (name : List Char) : String :=
  let lower := name.map asciiLower
  let bare := if ['i', 's'].isPrefixOf lower then lower.drop 2 else lower
  let kept := bare.filter fun c => c.toNat < 0x80 && c != ' ' && c != '_' && c != '-'
  if bare.length < lower.length && kept == ['c'] then "isc" else String.ofList kept

/-- How a set of code points is made up. -/
inductive SetRule where
  | rows (rows : SteppedRuns)
  | joined (a b : SetRule)
  | common (a b : SetRule)
  | without (a b : SetRule)
  | others (a : SetRule)

namespace SetRule

instance : Union SetRule := ⟨joined⟩
instance : Inter SetRule := ⟨common⟩
instance : SDiff SetRule := ⟨without⟩
instance : Coe SteppedRuns SetRule := ⟨rows⟩

def one (n : Nat) : SetRule := rows #[(n, n, 1)]

def span (first last : Nat) : SetRule := rows #[(first, last, 1)]

/-- The set that a rule describes. -/
def toSet : SetRule → CharSet
  | rows table => .ofRuns table.toList
  | joined a b => a.toSet.union b.toSet
  | common a b => a.toSet.inter b.toSet
  | without a b => a.toSet.diff b.toSet
  | others a => a.toSet.complement

end SetRule

/-- A rule with the names its set is known by. -/
structure NamedRule where
  names : List String
  rule : SetRule

def findRule? (name : String) (rules : List NamedRule) : Option SetRule :=
  (rules.find? fun r => r.names.contains name).map (·.rule)

/-! ### General categories -/

namespace Category
open SetRule

def casedLetter : SetRule := upperLetterRuns ∪ lowerLetterRuns ∪ titleLetterRuns

def letter : SetRule := casedLetter ∪ modifierLetterRuns ∪ otherLetterRuns

def mark : SetRule := nonspacingMarkRuns ∪ spacingMarkRuns ∪ enclosingMarkRuns

def number : SetRule := decimalNumberRuns ∪ letterNumberRuns ∪ otherNumberRuns

/-- Brackets and quotation marks. -/
def bracket : SetRule :=
  openPunctuationRuns ∪ closePunctuationRuns ∪ initialPunctuationRuns ∪ finalPunctuationRuns

def punctuation : SetRule :=
  connectorPunctuationRuns ∪ dashPunctuationRuns ∪ bracket ∪ otherPunctuationRuns

def symbol : SetRule :=
  mathSymbolRuns ∪ currencySymbolRuns ∪ modifierSymbolRuns ∪ otherSymbolRuns

def separator : SetRule := spaceSeparatorRuns ∪ lineSeparatorRuns ∪ paragraphSeparatorRuns

def assigned : SetRule :=
  letter ∪ mark ∪ number ∪ punctuation ∪ symbol ∪ separator ∪ controlRuns ∪ formatRuns
    ∪ privateUseRuns

/-- Surrogates are no characters. -/
def unassigned : SetRule := others (assigned ∪ span 0xD800 0xDFFF)

def all : List NamedRule := [
  ⟨["l", "letter"], letter⟩,
  ⟨["lc", "casedletter"], casedLetter⟩,
  ⟨["lu", "uppercaseletter"], upperLetterRuns⟩,
  ⟨["ll", "lowercaseletter"], lowerLetterRuns⟩,
  ⟨["lt", "titlecaseletter"], titleLetterRuns⟩,
  ⟨["lm", "modifierletter"], modifierLetterRuns⟩,
  ⟨["lo", "otherletter"], otherLetterRuns⟩,
  ⟨["m", "mark", "combiningmark"], mark⟩,
  ⟨["mn", "nonspacingmark"], nonspacingMarkRuns⟩,
  ⟨["mc", "spacingmark"], spacingMarkRuns⟩,
  ⟨["me", "enclosingmark"], enclosingMarkRuns⟩,
  ⟨["n", "number"], number⟩,
  ⟨["nd", "decimalnumber", "digit"], decimalNumberRuns⟩,
  ⟨["nl", "letternumber"], letterNumberRuns⟩,
  ⟨["no", "othernumber"], otherNumberRuns⟩,
  ⟨["p", "punct", "punctuation"], punctuation⟩,
  ⟨["pc", "connectorpunctuation"], connectorPunctuationRuns⟩,
  ⟨["pd", "dashpunctuation"], dashPunctuationRuns⟩,
  ⟨["ps", "openpunctuation"], openPunctuationRuns⟩,
  ⟨["pe", "closepunctuation"], closePunctuationRuns⟩,
  ⟨["pi", "initialpunctuation"], initialPunctuationRuns⟩,
  ⟨["pf", "finalpunctuation"], finalPunctuationRuns⟩,
  ⟨["po", "otherpunctuation"], otherPunctuationRuns⟩,
  ⟨["s", "symbol"], symbol⟩,
  ⟨["sm", "mathsymbol"], mathSymbolRuns⟩,
  ⟨["sc", "currencysymbol"], currencySymbolRuns⟩,
  ⟨["sk", "modifiersymbol"], modifierSymbolRuns⟩,
  ⟨["so", "othersymbol"], otherSymbolRuns⟩,
  ⟨["z", "separator"], separator⟩,
  ⟨["zs", "spaceseparator"], spaceSeparatorRuns⟩,
  ⟨["zl", "lineseparator"], lineSeparatorRuns⟩,
  ⟨["zp", "paragraphseparator"], paragraphSeparatorRuns⟩,
  ⟨["c", "other"], controlRuns ∪ formatRuns ∪ privateUseRuns ∪ unassigned⟩,
  ⟨["cc", "control", "cntrl"], controlRuns⟩,
  ⟨["cf", "format"], formatRuns⟩,
  ⟨["co", "privateuse"], privateUseRuns⟩,
  ⟨["cn", "unassigned"], unassigned⟩,
  ⟨["any"], span 0 0x10FFFF⟩,
  ⟨["assigned"], others unassigned⟩,
  ⟨["ascii"], span 0 0x7F⟩]

end Category

/-! ### Properties that a character has or has not -/

namespace Property
open SetRule Category

def alphabetic : SetRule := letter ∪ letterNumberRuns ∪ otherAlphabeticRuns

def uppercase : SetRule := upperLetterRuns ∪ otherUppercaseRuns

def lowercase : SetRule := lowerLetterRuns ∪ otherLowercaseRuns

def caseIgnorable : SetRule :=
  nonspacingMarkRuns ∪ enclosingMarkRuns ∪ formatRuns ∪ modifierLetterRuns ∪ modifierSymbolRuns
    ∪ midLetterRuns ∪ midEitherRuns ∪ one 0x27

def lowercaseDiffers : SetRule := (uppercase ∪ titleLetterRuns) \ unloweredRuns

def uppercaseDiffers : SetRule := (lowercase ∪ titleLetterRuns) \ unupperedRuns

def titlecaseDiffers : SetRule := (uppercaseDiffers \ uncasedTitleRuns) ∪ titledRuns

def foldDiffers : SetRule := (lowercaseDiffers \ loweredOnlyRuns) ∪ foldedOnlyRuns

def graphemeExtend : SetRule := nonspacingMarkRuns ∪ enclosingMarkRuns ∪ otherGraphemeExtendRuns

def graphemeBase : SetRule :=
  others (controlRuns ∪ formatRuns ∪ privateUseRuns ∪ unassigned ∪ lineSeparatorRuns
    ∪ paragraphSeparatorRuns ∪ graphemeExtend ∪ span 0xD800 0xDFFF)

/-- What the grammar of patterns keeps for itself is no part of an identifier. -/
def patternMark : SetRule := patternSyntaxRuns ∪ patternWhiteSpaceRuns

def idStart : SetRule := (letter ∪ letterNumberRuns ∪ otherIDStartRuns) \ patternMark

def idContinue : SetRule :=
  (idStart ∪ nonspacingMarkRuns ∪ spacingMarkRuns ∪ decimalNumberRuns ∪ connectorPunctuationRuns
    ∪ otherIDContinueRuns) \ patternMark

def whiteSpace : SetRule := rows (blankRuns.toArray.map fun (first, last) => (first, last, 1))

def defaultIgnorable : SetRule :=
  (formatRuns ∪ variationSelectorRuns ∪ otherDefaultIgnorableCodePointRuns)
    \ (whiteSpace ∪ visibleFormatRuns)

def asciiHexDigit : SetRule := span 0x30 0x39 ∪ span 0x41 0x46 ∪ span 0x61 0x66

def emojiModifier : SetRule := span 0x1F3FB 0x1F3FF

def regionalIndicator : SetRule := span 0x1F1E6 0x1F1FF

def all : List NamedRule := [
  ⟨["alpha", "alphabetic"], alphabetic⟩,
  ⟨["upper", "uppercase"], uppercase⟩,
  ⟨["lower", "lowercase"], lowercase⟩,
  ⟨["cased"], uppercase ∪ lowercase ∪ titleLetterRuns⟩,
  ⟨["ci", "caseignorable"], caseIgnorable⟩,
  ⟨["cwl", "changeswhenlowercased"], lowercaseDiffers⟩,
  ⟨["cwu", "changeswhenuppercased"], uppercaseDiffers⟩,
  ⟨["cwt", "changeswhentitlecased"], titlecaseDiffers⟩,
  ⟨["cwcf", "changeswhencasefolded"], foldDiffers⟩,
  ⟨["cwcm", "changeswhencasemapped"], lowercaseDiffers ∪ uppercaseDiffers ∪ titlecaseDiffers⟩,
  ⟨["space", "whitespace", "wspace"], whiteSpace⟩,
  ⟨["ahex", "asciihexdigit"], asciiHexDigit⟩,
  ⟨["hex", "hexdigit"],
    asciiHexDigit ∪ span 0xFF10 0xFF19 ∪ span 0xFF21 0xFF26 ∪ span 0xFF41 0xFF46⟩,
  ⟨["math"], mathSymbolRuns ∪ otherMathRuns⟩,
  ⟨["ids", "idstart"], idStart⟩,
  ⟨["idc", "idcontinue"], idContinue⟩,
  ⟨["xids", "xidstart"], idStart \ idStartOnlyRuns⟩,
  ⟨["xidc", "xidcontinue"], idContinue \ idContinueOnlyRuns⟩,
  ⟨["grbase", "graphemebase"], graphemeBase⟩,
  ⟨["grext", "graphemeextend"], graphemeExtend⟩,
  ⟨["grlink", "graphemelink"], graphemeLinkRuns⟩,
  ⟨["di", "defaultignorablecodepoint"], defaultIgnorable⟩,
  ⟨["bidic", "bidicontrol"], bidiControlRuns⟩,
  ⟨["bidim", "bidimirrored"], bidiMirroredRuns⟩,
  ⟨["dash"], dashRuns⟩,
  ⟨["dep", "deprecated"], deprecatedRuns⟩,
  ⟨["dia", "diacritic"], diacriticRuns⟩,
  ⟨["emoji"], emojiRuns⟩,
  ⟨["ecomp", "emojicomponent"], emojiComponentRuns⟩,
  ⟨["emod", "emojimodifier"], emojiModifier⟩,
  ⟨["ebase", "emojimodifierbase"], emojiModifierBaseRuns⟩,
  ⟨["epres", "emojipresentation"], emojiPresentationRuns⟩,
  ⟨["extpict", "extendedpictographic"], extendedPictographicRuns⟩,
  ⟨["ext", "extender"], extenderRuns⟩,
  ⟨["hyphen"], hyphenRuns⟩,
  ⟨["ideo", "ideographic"], ideographicRuns⟩,
  ⟨["uideo", "unifiedideograph"], unifiedIdeographRuns⟩,
  ⟨["idsb", "idsbinaryoperator"], idsBinaryOperatorRuns⟩,
  ⟨["idst", "idstrinaryoperator"], span 0x2FF2 0x2FF3⟩,
  ⟨["idsu", "idsunaryoperator"], span 0x2FFE 0x2FFF⟩,
  ⟨["idcompatmathstart"], idCompatMathStartRuns⟩,
  ⟨["idcompatmathcontinue"], idCompatMathContinueRuns⟩,
  ⟨["joinc", "joincontrol"], span 0x200C 0x200D⟩,
  ⟨["loe", "logicalorderexception"], logicalOrderExceptionRuns⟩,
  ⟨["mcm", "modifiercombiningmark"], modifierCombiningMarkRuns⟩,
  ⟨["nchar", "noncharactercodepoint"], noncharacterCodePointRuns⟩,
  ⟨["oalpha", "otheralphabetic"], otherAlphabeticRuns⟩,
  ⟨["odi", "otherdefaultignorablecodepoint"], otherDefaultIgnorableCodePointRuns⟩,
  ⟨["ogrext", "othergraphemeextend"], otherGraphemeExtendRuns⟩,
  ⟨["oids", "otheridstart"], otherIDStartRuns⟩,
  ⟨["oidc", "otheridcontinue"], otherIDContinueRuns⟩,
  ⟨["olower", "otherlowercase"], otherLowercaseRuns⟩,
  ⟨["omath", "othermath"], otherMathRuns⟩,
  ⟨["oupper", "otheruppercase"], otherUppercaseRuns⟩,
  ⟨["patsyn", "patternsyntax"], patternSyntaxRuns⟩,
  ⟨["patws", "patternwhitespace"], patternWhiteSpaceRuns⟩,
  ⟨["pcm", "prependedconcatenationmark"], prependedConcatenationMarkRuns⟩,
  ⟨["qmark", "quotationmark"], quotationMarkRuns⟩,
  ⟨["radical"], radicalRuns⟩,
  ⟨["ri", "regionalindicator"], regionalIndicator⟩,
  ⟨["sterm", "sentenceterminal"], sentenceTerminalRuns⟩,
  ⟨["sd", "softdotted"], softDottedRuns⟩,
  ⟨["term", "terminalpunctuation"], terminalPunctuationRuns⟩,
  ⟨["vs", "variationselector"], variationSelectorRuns⟩]

end Property

/-! ### Parts that characters take in text boundaries -/

namespace Boundary
open SetRule Category Property

/-- Marks go with the character before them. -/
def follower : SetRule := graphemeExtend ∪ spacingMarkRuns

def clusters : List NamedRule := [
  ⟨["cn", "control"], clusterControlRuns⟩,
  ⟨["cr"], one 0x0D⟩,
  ⟨["lf"], one 0x0A⟩,
  ⟨["ex", "extend"], graphemeExtend ∪ emojiModifier⟩,
  ⟨["pp", "prepend"], clusterPrependRuns⟩,
  ⟨["sm", "spacingmark"],
    (spacingMarkRuns \ (graphemeExtend ∪ clusterLoneMarkRuns)) ∪ one 0xE33 ∪ one 0xEB3⟩,
  ⟨["l"], span 0x1100 0x115F ∪ span 0xA960 0xA97C⟩,
  ⟨["v"], span 0x1160 0x11A7 ∪ span 0xD7B0 0xD7C6 ∪ one 0x16D63 ∪ span 0x16D67 0x16D6A⟩,
  ⟨["t"], span 0x11A8 0x11FF ∪ span 0xD7CB 0xD7FB⟩,
  ⟨["lv"], vowelSyllableRuns⟩,
  ⟨["lvt"], span 0xAC00 0xD7A3 \ vowelSyllableRuns⟩,
  ⟨["ri", "regionalindicator"], regionalIndicator⟩,
  ⟨["zwj"], one 0x200D⟩]

def words : List NamedRule := [
  ⟨["le", "aletter"],
    (alphabetic \ (ideographicRuns ∪ wordKatakanaRuns ∪ hebrewLetterRuns ∪ follower
      ∪ wordlessLetterRuns)) ∪ wordLetterRuns⟩,
  ⟨["cr"], one 0x0D⟩,
  ⟨["lf"], one 0x0A⟩,
  ⟨["newline", "nl"], span 0x0B 0x0C ∪ one 0x85 ∪ span 0x2028 0x2029⟩,
  ⟨["dq", "doublequote"], one 0x22⟩,
  ⟨["sq", "singlequote"], one 0x27⟩,
  ⟨["extend"], follower ∪ emojiModifier⟩,
  ⟨["ex", "extendnumlet"], connectorPunctuationRuns ∪ one 0x202F⟩,
  ⟨["fo", "format"], wordFormatRuns⟩,
  ⟨["hl", "hebrewletter"], hebrewLetterRuns⟩,
  ⟨["ka", "katakana"], wordKatakanaRuns⟩,
  ⟨["ml", "midletter"], midLetterRuns⟩,
  ⟨["mn", "midnum"], midNumberRuns⟩,
  ⟨["mb", "midnumlet"], midEitherRuns⟩,
  ⟨["nu", "numeric"], decimalNumberRuns ∪ numberSignRuns⟩,
  ⟨["ri", "regionalindicator"], regionalIndicator⟩,
  ⟨["wsegspace"], spaceSeparatorRuns \ (one 0xA0 ∪ one 0x2007 ∪ one 0x202F)⟩,
  ⟨["zwj"], one 0x200D⟩]

/-- The two series of Georgian letters of which neither is small nor capital in running text. -/
def caselessLower : SetRule := span 0x10D0 0x10FA ∪ span 0x10FD 0x10FF

def caselessUpper : SetRule := span 0x1C90 0x1CBA ∪ span 0x1CBD 0x1CBF

def small : SetRule := lowercase \ (graphemeExtend ∪ caselessLower)

def capital : SetRule := (uppercase ∪ titleLetterRuns) \ caselessUpper

def sentences : List NamedRule := [
  ⟨["at", "aterm"], sentenceStopRuns⟩,
  ⟨["st", "sterm"], sentenceTerminalRuns \ sentenceStopRuns⟩,
  ⟨["cl", "close"],
    ((bracket ∪ quotationMarkRuns) \ (one 0xFF02 ∪ one 0xFF07)) ∪ sentenceCloseRuns⟩,
  ⟨["cr"], one 0x0D⟩,
  ⟨["lf"], one 0x0A⟩,
  ⟨["se", "sep"], one 0x85 ∪ span 0x2028 0x2029⟩,
  ⟨["sp"], whiteSpace \ (one 0x0A ∪ one 0x0D ∪ one 0x85 ∪ span 0x2028 0x2029)⟩,
  ⟨["ex", "extend"], follower ∪ one 0x200D⟩,
  ⟨["fo", "format"], sentenceFormatRuns⟩,
  ⟨["lo", "lower"], small⟩,
  ⟨["up", "upper"], capital⟩,
  ⟨["le", "oletter"], (alphabetic \ (small ∪ capital ∪ follower)) ∪ one 0x5F3⟩,
  ⟨["nu", "numeric"], decimalNumberRuns ∪ (numberSignRuns ∪ one 0x66C)⟩,
  ⟨["sc", "scontinue"], sentenceContinueRuns⟩]

end Boundary

/-! ### Lookup by name -/

namespace CharSet

def category? (name : String) : Option SetRule := findRule? name Category.all

def script? (name : String) : Option SetRule :=
  (scripts.find? fun s => s.names.contains name).map fun s => .rows s.runs

/-- The code points that a script uses; those that are listed with some scripts are not shared by
all the others. -/
def scriptExtension? (name : String) : Option SetRule :=
  (scripts.find? fun s => s.names.contains name).map fun s =>
    if s.isShared then .rows s.runs \ .rows (scripts.toArray.flatMap (·.guests))
    else .rows s.runs ∪ .rows s.guests

/-- The code points of an edition and of all editions before it. -/
def age? (name : String) : Option SetRule :=
  if editions.any fun e => e.names.contains name then
    let after := (editions.dropWhile fun e => !e.names.contains name).length
    let upTo := editions.take (editions.length + 1 - after)
    some (upTo.foldl (fun rule e => rule ∪ .rows e.added) (.rows #[]))
  else none

/-- The set that a name alone stands for: a property, a category or a script. -/
def ofName? (name : List Char) : Option CharSet :=
  let name := plainName name
  (findRule? name Property.all <|> category? name <|> script? name).map (·.toSet)

/-- Kinds of properties with the rules of their values. -/
def kinds : List (List String × (String → Option SetRule)) := [
  (["gc", "generalcategory"], category?),
  (["sc", "script"], script?),
  (["scx", "scriptextensions"], scriptExtension?),
  (["age"], age?),
  (["gcb", "graphemeclusterbreak"], (findRule? · Boundary.clusters)),
  (["wb", "wordbreak"], (findRule? · Boundary.words)),
  (["sb", "sentencebreak"], (findRule? · Boundary.sentences))]

/-- The set of the characters that have a value of a kind of property. -/
def ofPair? (kind value : List Char) : Option CharSet := do
  let (_, rule?) ← kinds.find? fun k => k.1.contains (plainName kind)
  let rule ← rule? (plainName value)
  return rule.toSet

end CharSet

end LogTriage.Regex
