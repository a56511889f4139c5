import TreeQuery.Unicode.Blank
import TreeQuery.Unicode.Hidden
import TreeQuery.Unicode.Lowercase
import TreeQuery.Unicode.Property.Emoji
import TreeQuery.Unicode.Property.Identifier
import TreeQuery.Unicode.Property.Ideograph
import TreeQuery.Unicode.Property.Mark
import TreeQuery.Unicode.Property.Punctuation
import TreeQuery.Unicode.Recent
import TreeQuery.Unicode.Script

/-!
# Sets of characters by name

A set is named by a property that a character has or has not, by a general
category, by a script, or by a property and its value.  Case, blanks, hyphens,
underscores and a leading `is` make no difference in a name.
-/

namespace TreeQuery

namespace Unicode

/-- A list of sets, each with its names in small letters and without
separators. -/
abbrev NamedSets : Type := List (List String × CharSet)

def NamedSets.find? (sets : NamedSets) (name : String) : Option CharSet :=
  (List.find? (fun entry => entry.1.contains name) sets).map Prod.snd

/-- Small letters of version 16. -/
def earlierSmallLetters : CharSet :=
  (earlier lowercaseLetters).union formerSmallLetter

/-- Marks that combine with the character before them. -/
def graphemeExtenders : CharSet :=
  .unions [nonspacingMarks, enclosingMarks, otherExtenders,
    .range '\uff9e' '\uff9f']

/-- What a mark can combine with. -/
def graphemeBases : CharSet :=
  (CharSet.unions [graphemeExtenders, controls, formatCharacters, privateUse,
    lineSeparators, paragraphSeparators]).complement.intersection assigned

/-- The properties that a character has or has not. -/
def propertySets : NamedSets :=
  [ (["asciihexdigit", "ahex"], plainHexDigits),
    (["alphabetic", "alpha"], earlier alphabetic),
    (["bidicontrol", "bidic"], directionControls),
    (["bidimirrored", "bidim"], earlier mirrored),
    (["caseignorable", "ci"], earlier caseIgnorable),
    (["cased"], (earlier cased).union formerSmallLetter),
    (["dash"], earlier dashes),
    (["defaultignorablecodepoint", "di"], ignorable),
    (["deprecated", "dep"], deprecated),
    (["diacritic", "dia"], earlier diacritics),
    (["emoji"], earlier emoji),
    (["emojicomponent", "ecomp"], emojiComponents),
    (["emojimodifier", "emod"], emojiModifiers),
    (["emojimodifierbase", "ebase"], earlier emojiModifierBases),
    (["emojipresentation", "epres"], earlier emojiPresentation),
    (["extendedpictographic", "extpict"], pictographic),
    (["extender", "ext"], earlier extenders),
    (["graphemebase", "grbase"], earlier graphemeBases),
    (["graphemeextend", "grext"], earlier graphemeExtenders),
    (["hexdigit", "hex"], hexDigits),
    (["hyphen"], hyphens),
    (["idsbinaryoperator", "idsb"], binaryOperators),
    (["idstrinaryoperator", "idst"], ternaryOperators),
    (["idsunaryoperator", "idsu"], unaryOperators),
    (["idcontinue", "idc"], earlier nameParts),
    (["idstart", "ids"], earlier nameStarts),
    (["ideographic", "ideo"], earlier ideographic),
    (["joincontrol", "joinc"], joinControls),
    (["logicalorderexception", "loe"], logicalOrderExceptions),
    (["lowercase", "lower"], (earlier lowercase).union formerSmallLetter),
    (["math"], earlier mathCharacters),
    (["noncharactercodepoint", "nchar"], noncharacters),
    (["patternsyntax", "patsyn"], patternSyntax),
    (["patternwhitespace", "patws"], patternBlanks),
    (["prependedconcatenationmark", "pcm"], prependedMarks),
    (["quotationmark", "qmark"], quotationMarks),
    (["radical"], radicals),
    (["regionalindicator", "ri"], regionalIndicators),
    (["sentenceterminal", "sterm"], earlier sentenceTerminals),
    (["softdotted", "sd"], earlier softDotted),
    (["terminalpunctuation", "term"], earlier terminalPunctuation),
    (["unifiedideograph", "uideo"], earlier unifiedIdeographs),
    (["uppercase", "upper"], earlier uppercase),
    (["variationselector", "vs"], variationSelectors),
    (["whitespace", "wspace", "space"], blanks),
    (["xidcontinue", "xidc"], (earlier nameParts).difference unstableNameParts),
    (["xidstart", "xids"], (earlier nameStarts).difference unstableNameStarts) ]

/-- The general categories and the groups of them. -/
def categorySets : NamedSets :=
  [ (["any"], .full),
    (["ascii"], .range '\x00' '\x7f'),
    (["assigned"], earlier assigned),
    (["casedletter", "lc"], (earlier casedLetters).union formerSmallLetter),
    (["closepunctuation", "pe"], earlier closePunctuation),
    (["connectorpunctuation", "pc"], earlier connectors),
    (["control", "cc", "cntrl"], controls),
    (["currencysymbol", "sc"], earlier currencySymbols),
    (["dashpunctuation", "pd"], earlier dashPunctuation),
    (["decimalnumber", "nd", "digit"], earlier decimalDigits),
    (["enclosingmark", "me"], enclosingMarks),
    (["finalpunctuation", "pf"], finalQuotes),
    (["format", "cf"], earlier formatCharacters),
    (["initialpunctuation", "pi"], initialQuotes),
    (["letter", "l"], earlier letters),
    (["letternumber", "nl"], earlier letterNumbers),
    (["lineseparator", "zl"], lineSeparators),
    (["lowercaseletter", "ll"], earlierSmallLetters),
    (["mark", "m", "combiningmark"], earlier marks),
    (["mathsymbol", "sm"], earlier mathSymbols),
    (["modifierletter", "lm"], earlier modifierLetters),
    (["modifiersymbol", "sk"], earlier modifierSymbols),
    (["nonspacingmark", "mn"], earlier nonspacingMarks),
    (["number", "n"], earlier numbers),
    (["openpunctuation", "ps"], earlier openPunctuation),
    (["other", "c"],
      (CharSet.unions [letters, marks, numbers, punctuation, symbols,
        separators]).difference recent |>.complement),
    (["otherletter", "lo"],
      (earlier otherLetters).difference formerSmallLetter),
    (["othernumber", "no"], earlier otherNumbers),
    (["otherpunctuation", "po"], earlier otherPunctuation),
    (["othersymbol", "so"], earlier otherSymbols),
    (["paragraphseparator", "zp"], paragraphSeparators),
    (["privateuse", "co"], privateUse),
    (["punctuation", "p", "punct"], earlier punctuation),
    (["separator", "z"], separators),
    (["spaceseparator", "zs"], spaceSeparators),
    (["spacingmark", "mc"], earlier spacingMarks),
    (["symbol", "s"], earlier symbols),
    (["titlecaseletter", "lt"], titlecaseLetters),
    (["unassigned", "cn"], (earlier assigned).complement),
    (["uppercaseletter", "lu"], earlier uppercaseLetters) ]

/-- A name without what makes no difference in it. -/
def looseName (name : String) : String :=
  let (hasPrefix, rest) :=
    match name.toList with
    | first :: second :: rest =>
        if first.toLower = 'i' ∧ second.toLower = 's' then (true, rest)
        else (false, first :: second :: rest)
    | chars => (false, chars)
  let kept := rest.filter fun char =>
    char.toNat < 128 && char != ' ' && char != '_' && char != '-'
  let loose := String.ofList (kept.map Char.toLower)
  if hasPrefix && loose == "c" then "isc" else loose

/-- How an expression asks for a set. -/
inductive SetName where
  | plain (name : String)
  | valued (property value : String)
  deriving DecidableEq, Repr, Inhabited

/-- Why a name stands for no set. -/
inductive UnknownName where
  | property
  | value
  deriving DecidableEq, Repr, Inhabited

def scriptNamed? (name : String) : Option Script :=
  scripts.find? fun script => script.names.contains name

/-- Names that are known for categories and scripts without any character. -/
def namesWithoutSet : List String :=
  ["surrogate", "cs", "katakanaorhiragana", "hrkt", "unknown", "zzzz"]

/-- A name that is a category or a script as well as a property is taken for the
first two. -/
def plainSet? (name : String) : Except UnknownName CharSet :=
  let property :=
    if ["cf", "sc", "lc"].contains name then none else propertySets.find? name
  match property with
  | some set => .ok set
  | none =>
      match categorySets.find? name with
      | some set => .ok set
      | none =>
          match scriptNamed? name with
          | some script => .ok script.members
          | none =>
              .error (if namesWithoutSet.contains name then .value else .property)

/-- The set with a name. -/
def SetName.set? : SetName → Except UnknownName CharSet
  | plain name => plainSet? (looseName name)
  | valued property value =>
      let ofOption (set : Option CharSet) : Except UnknownName CharSet :=
        match set with
        | some set => .ok set
        | none => .error .value
      let value := looseName value
      match looseName property with
      | "generalcategory" | "gc" => ofOption (categorySets.find? value)
      | "script" | "sc" => ofOption ((scriptNamed? value).map (·.members))
      | "scriptextensions" | "scx" => ofOption ((scriptNamed? value).map (·.users))
      | _ => .error .property

end Unicode

end TreeQuery
