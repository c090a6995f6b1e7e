import RpcRouting.Unicode.Age
import RpcRouting.Unicode.Segmentation

namespace RpcRouting.Unicode

namespace Property

def punctuation : CharSet :=
  categories [.connectorPunctuation, .dashPunctuation, .openPunctuation, .closePunctuation,
    .initialPunctuation, .finalPunctuation, .otherPunctuation]

def symbol : CharSet := categories [.mathSymbol, .currencySymbol, .modifierSymbol, .otherSymbol]

def separator : CharSet := categories [.spaceSeparator, .lineSeparator, .paragraphSeparator]

def casedLetter : CharSet := categories [.lowercaseLetter, .uppercaseLetter, .titlecaseLetter]

def unassigned : CharSet := .compl assigned

def other : CharSet := .union unassigned (categories [.control, .format, .privateUse])

def ascii : CharSet := .ranges [⟨0, 127, 1⟩]

end Property

-- A character set and the names it goes by, in the loose form of `PropertyName.fold`.
structure PropertyName where
  names : List String
  set : Unit → CharSet

namespace PropertyName

def find? (entries : List PropertyName) (name : String) : Option CharSet :=
  (entries.find? (·.names.contains name)).map fun entry => entry.set ()

-- Properties that hold of a character or do not.
def binary : List PropertyName := [
  ⟨["asciihexdigit", "ahex"], fun _ => Property.asciiHexDigit⟩,
  ⟨["alphabetic", "alpha"], fun _ => Property.alphabetic⟩,
  ⟨["bidicontrol", "bidic"], fun _ => Property.bidiControl⟩,
  ⟨["bidimirrored", "bidim"], fun _ => Property.bidiMirrored⟩,
  ⟨["caseignorable", "ci"], fun _ => Property.caseIgnorable⟩,
  ⟨["cased"], fun _ => Property.cased⟩,
  ⟨["changeswhencasefolded", "cwcf"], fun _ => Property.changesWhenCasefolded⟩,
  ⟨["changeswhencasemapped", "cwcm"], fun _ => Property.changesWhenCasemapped⟩,
  ⟨["changeswhenlowercased", "cwl"], fun _ => Property.changesWhenLowercased⟩,
  ⟨["changeswhentitlecased", "cwt"], fun _ => Property.changesWhenTitlecased⟩,
  ⟨["changeswhenuppercased", "cwu"], fun _ => Property.changesWhenUppercased⟩,
  ⟨["dash"], fun _ => Property.dash⟩,
  ⟨["defaultignorablecodepoint", "di"], fun _ => Property.defaultIgnorableCodePoint⟩,
  ⟨["deprecated", "dep"], fun _ => Property.deprecated⟩,
  ⟨["diacritic", "dia"], fun _ => Property.diacritic⟩,
  ⟨["emoji"], fun _ => Property.emoji⟩,
  ⟨["emojicomponent", "ecomp"], fun _ => Property.emojiComponent⟩,
  ⟨["emojimodifier", "emod"], fun _ => Property.emojiModifier⟩,
  ⟨["emojimodifierbase", "ebase"], fun _ => Property.emojiModifierBase⟩,
  ⟨["emojipresentation", "epres"], fun _ => Property.emojiPresentation⟩,
  ⟨["extendedpictographic", "extpict"], fun _ => Property.extendedPictographic⟩,
  ⟨["extender", "ext"], fun _ => Property.extender⟩,
  ⟨["graphemebase", "grbase"], fun _ => Property.graphemeBase⟩,
  ⟨["graphemeextend", "grext"], fun _ => Property.graphemeExtend⟩,
  ⟨["graphemelink", "grlink"], fun _ => Property.graphemeLink⟩,
  ⟨["hexdigit", "hex"], fun _ => Property.hexDigit⟩,
  ⟨["hyphen"], fun _ => Property.hyphen⟩,
  ⟨["idcompatmathcontinue"], fun _ => Property.idCompatMathContinue⟩,
  ⟨["idcompatmathstart"], fun _ => Property.idCompatMathStart⟩,
  ⟨["idsbinaryoperator", "idsb"], fun _ => Property.idsBinaryOperator⟩,
  ⟨["idstrinaryoperator", "idst"], fun _ => Property.idsTrinaryOperator⟩,
  ⟨["idsunaryoperator", "idsu"], fun _ => Property.idsUnaryOperator⟩,
  ⟨["idcontinue", "idc"], fun _ => Property.idContinue⟩,
  ⟨["idstart", "ids"], fun _ => Property.idStart⟩,
  ⟨["ideographic", "ideo"], fun _ => Property.ideographic⟩,
  ⟨["joincontrol", "joinc"], fun _ => Property.joinControl⟩,
  ⟨["logicalorderexception", "loe"], fun _ => Property.logicalOrderException⟩,
  ⟨["lowercase", "lower"], fun _ => Property.lowercase⟩,
  ⟨["math"], fun _ => Property.math⟩,
  ⟨["modifiercombiningmark", "mcm"], fun _ => Property.modifierCombiningMark⟩,
  ⟨["noncharactercodepoint", "nchar"], fun _ => Property.noncharacterCodePoint⟩,
  ⟨["otheralphabetic", "oalpha"], fun _ => Property.otherAlphabetic⟩,
  ⟨["otherdefaultignorablecodepoint", "odi"],
   fun _ => Property.otherDefaultIgnorableCodePoint⟩,
  ⟨["othergraphemeextend", "ogrext"], fun _ => Property.otherGraphemeExtend⟩,
  ⟨["otheridcontinue", "oidc"], fun _ => Property.otherIdContinue⟩,
  ⟨["otheridstart", "oids"], fun _ => Property.otherIdStart⟩,
  ⟨["otherlowercase", "olower"], fun _ => Property.otherLowercase⟩,
  ⟨["othermath", "omath"], fun _ => Property.otherMath⟩,
  ⟨["otheruppercase", "oupper"], fun _ => Property.otherUppercase⟩,
  ⟨["patternsyntax", "patsyn"], fun _ => Property.patternSyntax⟩,
  ⟨["patternwhitespace", "patws"], fun _ => Property.patternWhiteSpace⟩,
  ⟨["prependedconcatenationmark", "pcm"], fun _ => Property.prependedConcatenationMark⟩,
  ⟨["quotationmark", "qmark"], fun _ => Property.quotationMark⟩,
  ⟨["radical"], fun _ => Property.radical⟩,
  ⟨["regionalindicator", "ri"], fun _ => Property.regionalIndicator⟩,
  ⟨["sentenceterminal", "sterm"], fun _ => Property.sentenceTerminal⟩,
  ⟨["softdotted", "sd"], fun _ => Property.softDotted⟩,
  ⟨["terminalpunctuation", "term"], fun _ => Property.terminalPunctuation⟩,
  ⟨["unifiedideograph", "uideo"], fun _ => Property.unifiedIdeograph⟩,
  ⟨["uppercase", "upper"], fun _ => Property.uppercase⟩,
  ⟨["variationselector", "vs"], fun _ => Property.variationSelector⟩,
  ⟨["whitespace", "wspace", "space"], fun _ => Property.whiteSpace⟩,
  ⟨["xidcontinue", "xidc"], fun _ => Property.xidContinue⟩,
  ⟨["xidstart", "xids"], fun _ => Property.xidStart⟩]

def generalCategory : List PropertyName := [
  ⟨["c", "other"], fun _ => Property.other⟩,
  ⟨["cn", "unassigned"], fun _ => Property.unassigned⟩,
  ⟨["l", "letter"], fun _ => Property.letter⟩,
  ⟨["lc", "casedletter"], fun _ => Property.casedLetter⟩,
  ⟨["m", "mark", "combiningmark"], fun _ => Property.mark⟩,
  ⟨["n", "number"], fun _ => Property.number⟩,
  ⟨["p", "punctuation", "punct"], fun _ => Property.punctuation⟩,
  ⟨["s", "symbol"], fun _ => Property.symbol⟩,
  ⟨["z", "separator"], fun _ => Property.separator⟩,
  ⟨["any"], fun _ => CharSet.any⟩,
  ⟨["assigned"], fun _ => Property.assigned⟩,
  ⟨["ascii"], fun _ => Property.ascii⟩,
  ⟨["cc", "control", "cntrl"], fun _ => Category.set .control⟩,
  ⟨["cf", "format"], fun _ => Category.set .format⟩,
  ⟨["co", "privateuse"], fun _ => Category.set .privateUse⟩,
  ⟨["ll", "lowercaseletter"], fun _ => Category.set .lowercaseLetter⟩,
  ⟨["lm", "modifierletter"], fun _ => Category.set .modifierLetter⟩,
  ⟨["lo", "otherletter"], fun _ => Category.set .otherLetter⟩,
  ⟨["lt", "titlecaseletter"], fun _ => Category.set .titlecaseLetter⟩,
  ⟨["lu", "uppercaseletter"], fun _ => Category.set .uppercaseLetter⟩,
  ⟨["mc", "spacingmark"], fun _ => Category.set .spacingMark⟩,
  ⟨["me", "enclosingmark"], fun _ => Category.set .enclosingMark⟩,
  ⟨["mn", "nonspacingmark"], fun _ => Category.set .nonspacingMark⟩,
  ⟨["nd", "decimalnumber", "digit"], fun _ => Category.set .decimalNumber⟩,
  ⟨["nl", "letternumber"], fun _ => Category.set .letterNumber⟩,
  ⟨["no", "othernumber"], fun _ => Category.set .otherNumber⟩,
  ⟨["pc", "connectorpunctuation"], fun _ => Category.set .connectorPunctuation⟩,
  ⟨["pd", "dashpunctuation"], fun _ => Category.set .dashPunctuation⟩,
  ⟨["pe", "closepunctuation"], fun _ => Category.set .closePunctuation⟩,
  ⟨["pf", "finalpunctuation"], fun _ => Category.set .finalPunctuation⟩,
  ⟨["pi", "initialpunctuation"], fun _ => Category.set .initialPunctuation⟩,
  ⟨["po", "otherpunctuation"], fun _ => Category.set .otherPunctuation⟩,
  ⟨["ps", "openpunctuation"], fun _ => Category.set .openPunctuation⟩,
  ⟨["sc", "currencysymbol"], fun _ => Category.set .currencySymbol⟩,
  ⟨["sk", "modifiersymbol"], fun _ => Category.set .modifierSymbol⟩,
  ⟨["sm", "mathsymbol"], fun _ => Category.set .mathSymbol⟩,
  ⟨["so", "othersymbol"], fun _ => Category.set .otherSymbol⟩,
  ⟨["zl", "lineseparator"], fun _ => Category.set .lineSeparator⟩,
  ⟨["zp", "paragraphseparator"], fun _ => Category.set .paragraphSeparator⟩,
  ⟨["zs", "spaceseparator"], fun _ => Category.set .spaceSeparator⟩]

def graphemeBreak : List PropertyName := [
  ⟨["control", "cn"], fun _ => GraphemeBreak.control⟩,
  ⟨["cr"], fun _ => GraphemeBreak.carriageReturn⟩,
  ⟨["extend", "ex"], fun _ => GraphemeBreak.extend⟩,
  ⟨["l"], fun _ => GraphemeBreak.leading⟩,
  ⟨["lf"], fun _ => GraphemeBreak.lineFeed⟩,
  ⟨["lv"], fun _ => GraphemeBreak.openSyllable⟩,
  ⟨["lvt"], fun _ => GraphemeBreak.closedSyllable⟩,
  ⟨["prepend", "pp"], fun _ => GraphemeBreak.prepend⟩,
  ⟨["regionalindicator", "ri"], fun _ => Property.regionalIndicator⟩,
  ⟨["spacingmark", "sm"], fun _ => GraphemeBreak.spacingMark⟩,
  ⟨["t"], fun _ => GraphemeBreak.trailing⟩,
  ⟨["v"], fun _ => GraphemeBreak.vowel⟩,
  ⟨["zwj"], fun _ => GraphemeBreak.zeroWidthJoiner⟩]

def wordBreak : List PropertyName := [
  ⟨["aletter", "le"], fun _ => WordBreak.letter⟩,
  ⟨["cr"], fun _ => GraphemeBreak.carriageReturn⟩,
  ⟨["doublequote", "dq"], fun _ => .ofChars ['"']⟩,
  ⟨["extend"], fun _ => WordBreak.extend⟩,
  ⟨["extendnumlet", "ex"], fun _ => WordBreak.connector⟩,
  ⟨["format", "fo"], fun _ => WordBreak.format⟩,
  ⟨["hebrewletter", "hl"], fun _ => WordBreak.hebrewLetter⟩,
  ⟨["katakana", "ka"], fun _ => WordBreak.katakana⟩,
  ⟨["lf"], fun _ => GraphemeBreak.lineFeed⟩,
  ⟨["midletter", "ml"], fun _ => WordBreak.midLetter⟩,
  ⟨["midnum", "mn"], fun _ => WordBreak.midNumber⟩,
  ⟨["midnumlet", "mb"], fun _ => WordBreak.midBoth⟩,
  ⟨["newline", "nl"], fun _ => WordBreak.newline⟩,
  ⟨["numeric", "nu"], fun _ => WordBreak.numeric⟩,
  ⟨["regionalindicator", "ri"], fun _ => Property.regionalIndicator⟩,
  ⟨["singlequote", "sq"], fun _ => .ofChars ['\'']⟩,
  ⟨["wsegspace"], fun _ => WordBreak.space⟩,
  ⟨["zwj"], fun _ => GraphemeBreak.zeroWidthJoiner⟩]

def sentenceBreak : List PropertyName := [
  ⟨["aterm", "at"], fun _ => SentenceBreak.fullStop⟩,
  ⟨["close", "cl"], fun _ => SentenceBreak.close⟩,
  ⟨["cr"], fun _ => GraphemeBreak.carriageReturn⟩,
  ⟨["extend", "ex"], fun _ => SentenceBreak.extend⟩,
  ⟨["format", "fo"], fun _ => SentenceBreak.format⟩,
  ⟨["lf"], fun _ => GraphemeBreak.lineFeed⟩,
  ⟨["lower", "lo"], fun _ => SentenceBreak.lower⟩,
  ⟨["numeric", "nu"], fun _ => SentenceBreak.numeric⟩,
  ⟨["oletter", "le"], fun _ => SentenceBreak.letter⟩,
  ⟨["scontinue", "sc"], fun _ => SentenceBreak.continuation⟩,
  ⟨["sep", "se"], fun _ => SentenceBreak.separator⟩,
  ⟨["sp"], fun _ => SentenceBreak.space⟩,
  ⟨["sterm", "st"], fun _ => SentenceBreak.terminal⟩,
  ⟨["upper", "up"], fun _ => SentenceBreak.upper⟩]

def script? (name : String) : Option CharSet := (Script.find? name).map Script.set

def scriptExtensions? (name : String) : Option CharSet := (Script.find? name).map Script.extensions

-- Names are compared without case, blanks, hyphens, underscores and a leading `is`. The one
-- exception is `isc`, which is the short name of a property of its own.
def fold (name : List Char) : String :=
  let dropIs (cs : List Char) : List Char × Bool :=
    match cs with
    | a :: b :: rest =>
      if a.toLower = 'i' && b.toLower = 's' then (rest, true) else (cs, false)
    | _ => (cs, false)
  let (body, had) := dropIs name
  let kept := (body.filter fun c => !(c == ' ' || c == '_' || c == '-') && c.toNat < 128).map
    Char.toLower
  if had && kept == ['c'] then "isc" else String.ofList kept

-- Names of properties that take a value, or that no set belongs to. They hide the category or
-- script of the same name.
def valued : List String :=
  ["age", "gc", "generalcategory", "script", "scx", "scriptextensions", "gcb",
    "graphemeclusterbreak", "sb", "sentencebreak", "wb", "wordbreak", "isc", "isocomment", "bc",
    "bidiclass", "blk", "block", "ccc", "canonicalcombiningclass", "dm", "dt", "ea", "hst", "jg",
    "jt", "lb", "linebreak", "na", "name", "na1", "nt", "nv", "tc", "uc", "vo", "slc", "stc",
    "suc", "scf", "casefolding", "inpc", "insc", "bpb", "bpt", "bmg"]

-- The set of a name without a value: a property, else a category, else a script.
def lookup? (name : List Char) : Option CharSet :=
  let folded := fold name
  let ambiguous := folded == "cf" || folded == "sc" || folded == "lc"
  if !ambiguous && valued.contains folded then none
  else
    (if ambiguous then none else find? binary folded).or
      ((find? generalCategory folded).or (script? folded))

-- The properties that take a value, with what each value stands for.
def valueSets : List (List String × (String → Option CharSet)) :=
  [(["gc", "generalcategory"], find? generalCategory),
   (["sc", "script"], script?),
   (["scx", "scriptextensions"], scriptExtensions?),
   (["age"], Age.find?),
   (["gcb", "graphemeclusterbreak"], find? graphemeBreak),
   (["wb", "wordbreak"], find? wordBreak),
   (["sb", "sentencebreak"], find? sentenceBreak)]

-- The set of a property with a value.
def lookupValue? (property value : List Char) : Option CharSet :=
  (valueSets.find? (·.1.contains (fold property))).bind fun entry => entry.2 (fold value)

end PropertyName

end RpcRouting.Unicode
