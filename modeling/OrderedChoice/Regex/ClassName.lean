import OrderedChoice.Regex.Expression
import OrderedChoice.Unicode.Script

/-!
# Names of Unicode classes

A class such as `\p{Greek}` is named by a binary property, a general category
or a script.  Names are compared loosely: case, blanks, underscores, hyphens
and a leading `is` make no difference.
-/

namespace OrderedChoice.Regex

/-! ## Loose names -/

/-- A name in lower case, without separators, non-ASCII characters and a
leading `is`. -/
def looseName (name : String) : String :=
  let characters := name.toList
  let startsWithIs :=
    (characters.take 2).map Char.toLower == ['i', 's']
  let significant :=
    ((if startsWithIs then characters.drop 2 else characters).filter
      fun character =>
        decide (character.toNat < 0x80) && character != ' ' &&
          character != '_' && character != '-').map Char.toLower
  -- The property of ISO comments is abbreviated `isc`, which is not `c`.
  if startsWithIs && significant == ['c'] then "isc"
  else String.ofList significant

/-! ## General categories -/

/-- The categories with their loose names, each group by its own names. -/
def categoryNames : List (List String × List Unicode.Category) := [
  (["c", "other"],
    [.control, .format, .surrogate, .privateUse, .unassigned]),
  (["cc", "control", "cntrl"], [.control]),
  (["cf", "format"], [.format]),
  (["cn", "unassigned"], [.unassigned]),
  (["co", "privateuse"], [.privateUse]),
  (["cs", "surrogate"], [.surrogate]),
  (["l", "letter"],
    [.uppercaseLetter, .lowercaseLetter, .titlecaseLetter, .modifierLetter,
      .otherLetter]),
  (["lc", "casedletter"],
    [.uppercaseLetter, .lowercaseLetter, .titlecaseLetter]),
  (["ll", "lowercaseletter"], [.lowercaseLetter]),
  (["lm", "modifierletter"], [.modifierLetter]),
  (["lo", "otherletter"], [.otherLetter]),
  (["lt", "titlecaseletter"], [.titlecaseLetter]),
  (["lu", "uppercaseletter"], [.uppercaseLetter]),
  (["m", "mark", "combiningmark"],
    [.nonspacingMark, .spacingMark, .enclosingMark]),
  (["mc", "spacingmark"], [.spacingMark]),
  (["me", "enclosingmark"], [.enclosingMark]),
  (["mn", "nonspacingmark"], [.nonspacingMark]),
  (["n", "number"], [.decimalNumber, .letterNumber, .otherNumber]),
  (["nd", "decimalnumber", "digit"], [.decimalNumber]),
  (["nl", "letternumber"], [.letterNumber]),
  (["no", "othernumber"], [.otherNumber]),
  (["p", "punctuation", "punct"],
    [.connectorPunctuation, .dashPunctuation, .openPunctuation,
      .closePunctuation, .initialPunctuation, .finalPunctuation,
      .otherPunctuation]),
  (["pc", "connectorpunctuation"], [.connectorPunctuation]),
  (["pd", "dashpunctuation"], [.dashPunctuation]),
  (["pe", "closepunctuation"], [.closePunctuation]),
  (["pf", "finalpunctuation"], [.finalPunctuation]),
  (["pi", "initialpunctuation"], [.initialPunctuation]),
  (["po", "otherpunctuation"], [.otherPunctuation]),
  (["ps", "openpunctuation"], [.openPunctuation]),
  (["s", "symbol"],
    [.mathSymbol, .currencySymbol, .modifierSymbol, .otherSymbol]),
  (["sc", "currencysymbol"], [.currencySymbol]),
  (["sk", "modifiersymbol"], [.modifierSymbol]),
  (["sm", "mathsymbol"], [.mathSymbol]),
  (["so", "othersymbol"], [.otherSymbol]),
  (["z", "separator"],
    [.spaceSeparator, .lineSeparator, .paragraphSeparator]),
  (["zl", "lineseparator"], [.lineSeparator]),
  (["zp", "paragraphseparator"], [.paragraphSeparator]),
  (["zs", "spaceseparator"], [.spaceSeparator])]

/-- The set of a loosely named category or of one of the catch-all names. -/
def categoryNamed? (name : String) : Option CharSet :=
  match name with
  | "any" => some .any
  | "assigned" => some (.complement (.categorized [.unassigned]))
  | "ascii" => some (.range 0 0x7F)
  | name =>
    (categoryNames.find? fun entry => entry.1.contains name).map fun entry =>
      .categorized entry.2

/-! ## Binary properties -/

/-- The binary properties with their loose names. -/
def propertyNames : List (List String × Unicode.Property) := [
  (["alphabetic", "alpha"], .alphabetic),
  (["lowercase", "lower"], .lowercase),
  (["uppercase", "upper"], .uppercase),
  (["cased"], .cased),
  (["caseignorable", "ci"], .caseIgnorable),
  (["graphemeextend", "grext"], .graphemeExtend),
  (["graphemebase", "grbase"], .graphemeBase),
  (["idstart", "ids"], .idStart),
  (["idcontinue", "idc"], .idContinue),
  (["xidstart", "xids"], .xidStart),
  (["xidcontinue", "xidc"], .xidContinue),
  (["asciihexdigit", "ahex"], .asciiHexDigit),
  (["bidicontrol", "bidic"], .bidiControl),
  (["bidimirrored", "bidim"], .bidiMirrored),
  (["dash"], .dash),
  (["defaultignorablecodepoint", "di"], .defaultIgnorable),
  (["deprecated", "dep"], .deprecated),
  (["diacritic", "dia"], .diacritic),
  (["emoji"], .emoji),
  (["emojicomponent", "ecomp"], .emojiComponent),
  (["emojimodifier", "emod"], .emojiModifier),
  (["emojimodifierbase", "ebase"], .emojiModifierBase),
  (["emojipresentation", "epres"], .emojiPresentation),
  (["extendedpictographic", "extpict"], .extendedPictographic),
  (["extender", "ext"], .extender),
  (["hexdigit", "hex"], .hexDigit),
  (["idsbinaryoperator", "idsb"], .idsBinaryOperator),
  (["idstrinaryoperator", "idst"], .idsTrinaryOperator),
  (["ideographic", "ideo"], .ideographic),
  (["joincontrol", "joinc"], .joinControl),
  (["logicalorderexception", "loe"], .logicalOrderException),
  (["math"], .math),
  (["noncharactercodepoint", "nchar"], .noncharacter),
  (["patternsyntax", "patsyn"], .patternSyntax),
  (["patternwhitespace", "patws"], .patternWhiteSpace),
  (["quotationmark", "qmark"], .quotationMark),
  (["radical"], .radical),
  (["regionalindicator", "ri"], .regionalIndicator),
  (["sentenceterminal", "sterm"], .sentenceTerminal),
  (["softdotted", "sd"], .softDotted),
  (["terminalpunctuation", "term"], .terminalPunctuation),
  (["unifiedideograph", "uideo"], .unifiedIdeograph),
  (["variationselector", "vs"], .variationSelector),
  (["whitespace", "wspace", "space"], .whiteSpace)]

/-- The set of a loosely named binary property. -/
def propertyNamed? (name : String) : Option CharSet :=
  (propertyNames.find? fun entry => entry.1.contains name).map fun entry =>
    .having entry.2

/-- The set of a loosely named script. -/
def scriptNamed? (name : String) : Option CharSet :=
  (Unicode.Script.named? name).map fun script => .table script.ranges

/-! ## Class names -/

/-- The set that a class name stands for.  A lone name is a property, then a
category, then a script. -/
def ClassName.set? : ClassName → Option CharSet
  | .lone name =>
    let name := looseName name
    (propertyNamed? name).or ((categoryNamed? name).or (scriptNamed? name))
  | .valued property value =>
    match looseName property with
    | "generalcategory" => categoryNamed? (looseName value)
    | "gc" => categoryNamed? (looseName value)
    | "script" => scriptNamed? (looseName value)
    | "sc" => scriptNamed? (looseName value)
    | _ => none

end OrderedChoice.Regex
