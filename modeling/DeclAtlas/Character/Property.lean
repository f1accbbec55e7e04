import DeclAtlas.Character.CategoryTable
import DeclAtlas.Character.PropertyTable

/-!
# Derived properties

Many properties follow from the categories of characters and from properties that are written out.
A `Derivation` says how, and `property?` finds the characters of a property of either kind by its
name in loose spelling.
-/

namespace DeclAtlas.Character

open Text

/-- How a property follows from others. -/
inductive Derivation where
  | categories (names : List String)
  /-- The characters of some properties that are written out. -/
  | written (names : List String)
  /-- The characters with certain codes. -/
  | codes (t : CodeRanges)
  /-- The characters with either property. -/
  | either (p q : Derivation)
  /-- The characters with the first property and without the second. -/
  | without (p q : Derivation)
  deriving Repr

namespace Derivation

/-- The characters with a property. -/
def set : Derivation → CharSet
  | categories names => allOf categoryTable names
  | written names => allOf propertyTable names
  | codes t => .ofRanges t
  | either p q => .union p.set q.set
  | without p q => .difference p.set q.set

/-- Small letters. -/
def lowercase : Derivation := either (categories ["ll"]) (written ["otherlowercase"])

/-- Capital letters. -/
def uppercase : Derivation := either (categories ["lu"]) (written ["otheruppercase"])

/-- Letters with case. -/
def cased : Derivation := either (either lowercase uppercase) (categories ["lt"])

/-- Letters and what counts like them. -/
def alphabetic : Derivation :=
  either cased (either (categories ["lm", "lo", "nl"]) (written ["otheralphabetic"]))

/-- Signs of mathematics. -/
def math : Derivation := either (categories ["sm"]) (written ["othermath"])

/-- Signs inside words, such as the apostrophe. -/
def wordSigns : CodeRanges :=
  [(0x27, 0x27), (0x2E, 0x2E), (0x3A, 0x3A), (0xB7, 0xB7), (0x387, 0x387), (0x55F, 0x55F),
   (0x5F4, 0x5F4), (0x2018, 0x2019), (0x2024, 0x2024), (0x2027, 0x2027), (0xFE13, 0xFE13),
   (0xFE52, 0xFE52), (0xFE55, 0xFE55), (0xFF07, 0xFF07), (0xFF0E, 0xFF0E), (0xFF1A, 0xFF1A)]

/-- Characters that casing looks through. -/
def caseIgnorable : Derivation :=
  either (categories ["mn", "me", "cf", "lm", "sk"]) (codes wordSigns)

/-- Characters that upper-casing changes and title-casing leaves alone. -/
def titleLeavesAlone : CodeRanges :=
  [(0x1C5, 0x1C5), (0x1C8, 0x1C8), (0x1CB, 0x1CB), (0x1F2, 0x1F2), (0x10D0, 0x10FA),
   (0x10FD, 0x10FF), (0x1F88, 0x1F8F), (0x1F98, 0x1F9F), (0x1FA8, 0x1FAF), (0x1FBC, 0x1FBC),
   (0x1FCC, 0x1FCC), (0x1FFC, 0x1FFC)]

/-- Characters that title-casing alone changes. -/
def titleAloneChanges : CodeRanges :=
  [(0x1C4, 0x1C4), (0x1C7, 0x1C7), (0x1CA, 0x1CA), (0x1F1, 0x1F1)]

/-- Characters that title-casing changes. -/
def changesWhenTitlecased : Derivation :=
  either (without (written ["changeswhenuppercased"]) (codes titleLeavesAlone))
    (codes titleAloneChanges)

/-- Characters that folding alone changes. -/
def foldingAloneChanges : CodeRanges :=
  [(0xB5, 0xB5), (0xDF, 0xDF), (0x149, 0x149), (0x17F, 0x17F), (0x345, 0x345), (0x3C2, 0x3C2),
   (0x3D0, 0x3D1), (0x3D5, 0x3D6), (0x3F0, 0x3F1), (0x3F5, 0x3F5), (0x587, 0x587),
   (0x13F8, 0x13FD), (0x1C80, 0x1C88), (0x1E9A, 0x1E9B), (0x1F80, 0x1F87), (0x1F90, 0x1F97),
   (0x1FA0, 0x1FA7), (0x1FB2, 0x1FB4), (0x1FB7, 0x1FB7), (0x1FC2, 0x1FC4), (0x1FC7, 0x1FC7),
   (0x1FF2, 0x1FF4), (0x1FF7, 0x1FF7), (0xAB70, 0xABBF), (0xFB00, 0xFB06), (0xFB13, 0xFB17)]

/-- Characters that lower-casing changes and folding leaves alone. -/
def foldingLeavesAlone : CodeRanges := [(0x13A0, 0x13F5)]

/-- Characters that folding changes. -/
def changesWhenCasefolded : Derivation :=
  either (without (written ["changeswhenlowercased"]) (codes foldingLeavesAlone))
    (codes foldingAloneChanges)

/-- Characters that some change of case changes. -/
def changesWhenCasemapped : Derivation :=
  written ["changeswhenlowercased", "changeswhenuppercased"]

/-- What patterns use for themselves. -/
def patternSigns : Derivation := written ["patternsyntax", "patternwhitespace"]

/-- Characters that can begin an identifier. -/
def idStart : Derivation :=
  without (either (categories ["lu", "ll", "lt", "lm", "lo", "nl"]) (written ["otheridstart"]))
    patternSigns

/-- Characters that can continue an identifier. -/
def idContinue : Derivation :=
  without
    (either idStart (either (categories ["mn", "mc", "nd", "pc"]) (written ["otheridcontinue"])))
    patternSigns

/-- Characters whose decomposition can continue no identifier. -/
def unstableInIdentifiers : CodeRanges :=
  [(0x37A, 0x37A), (0x309B, 0x309C), (0xFC5E, 0xFC63), (0xFDFA, 0xFDFB), (0xFE70, 0xFE70),
   (0xFE72, 0xFE72), (0xFE74, 0xFE74), (0xFE76, 0xFE76), (0xFE78, 0xFE78), (0xFE7A, 0xFE7A),
   (0xFE7C, 0xFE7C), (0xFE7E, 0xFE7E)]

/-- Characters whose decomposition can continue an identifier and begin none. -/
def unstableAtStart : CodeRanges := [(0xE33, 0xE33), (0xEB3, 0xEB3), (0xFF9E, 0xFF9F)]

/-- Characters that begin an identifier in all their forms. -/
def xidStart : Derivation :=
  without idStart (either (codes unstableInIdentifiers) (codes unstableAtStart))

/-- Characters that continue an identifier in all their forms. -/
def xidContinue : Derivation := without idContinue (codes unstableInIdentifiers)

/-- Characters that join the character before them. -/
def graphemeExtend : Derivation := either (categories ["mn", "me"]) (written ["othergraphemeextend"])

/-- Characters that others can join. -/
def graphemeBase : Derivation :=
  without
    (categories ["lu", "ll", "lt", "lm", "lo", "mn", "mc", "me", "nd", "nl", "no", "pc", "pd", "ps",
      "pe", "pi", "pf", "po", "sm", "sc", "sk", "so", "zs"])
    graphemeExtend

/-- Format characters that are always shown. -/
def shownFormats : CodeRanges := [(0xFFF9, 0xFFFB), (0x13430, 0x13440)]

/-- Characters that are not shown where they are not supported. -/
def defaultIgnorable : Derivation :=
  without
    (either (written ["otherdefaultignorablecodepoint", "variationselector"]) (categories ["cf"]))
    (either (written ["whitespace", "prependedconcatenationmark"]) (codes shownFormats))

/-- Letters that Unicode 17 added. -/
def recentLetters : CodeRanges :=
  [(0x88F, 0x88F), (0xC5C, 0xC5C), (0xCDC, 0xCDC), (0xA7CE, 0xA7CF), (0xA7D2, 0xA7D2),
   (0xA7D4, 0xA7D4), (0xA7F1, 0xA7F1), (0x10940, 0x10959), (0x10EC5, 0x10EC7),
   (0x10EFA, 0x10EFB), (0x11B60, 0x11B67), (0x11DB0, 0x11DDB), (0x16EA0, 0x16EB8),
   (0x16EBB, 0x16ED3), (0x16FF2, 0x16FF6), (0x187F8, 0x187FF), (0x18D09, 0x18D1E),
   (0x18D80, 0x18DF2), (0x1E6C0, 0x1E6DE), (0x1E6E0, 0x1E6F5), (0x1E6FE, 0x1E6FF),
   (0x2B73A, 0x2B73F), (0x2CEA2, 0x2CEAD), (0x323B0, 0x33479)]

/-- Letters, as Unicode 17 gives them. -/
def letter : Derivation := either alphabetic (codes recentLetters)

/-- Numbers that Unicode 17 added. -/
def recentNumbers : CodeRanges := [(0x11DE0, 0x11DE9), (0x16FF4, 0x16FF6)]

/-- Letters and numbers, as Unicode 17 gives them. -/
def letterOrNumber : Derivation :=
  either letter (either (categories ["nd", "nl", "no"]) (codes recentNumbers))

end Derivation

open DeclAtlas.Character.Derivation in
/-- The derived properties with their names. -/
def derivedTable : List (List String × Derivation) :=
  [(["alphabetic", "alpha"], alphabetic), (["lowercase", "lower"], lowercase),
   (["uppercase", "upper"], uppercase), (["cased"], cased), (["math"], math),
   (["caseignorable", "ci"], caseIgnorable),
   (["changeswhentitlecased", "cwt"], changesWhenTitlecased),
   (["changeswhencasefolded", "cwcf"], changesWhenCasefolded),
   (["changeswhencasemapped", "cwcm"], changesWhenCasemapped), (["idstart", "ids"], idStart),
   (["idcontinue", "idc"], idContinue), (["xidstart", "xids"], xidStart),
   (["xidcontinue", "xidc"], xidContinue), (["graphemeextend", "grext"], graphemeExtend),
   (["graphemebase", "grbase"], graphemeBase),
   (["defaultignorablecodepoint", "di"], defaultIgnorable)]

/-- The characters with a property. -/
def property? (name : String) : Option CharSet :=
  (find? propertyTable name).or ((lookUp derivedTable name).map Derivation.set)

end DeclAtlas.Character
