import DeclAtlas.Character.AgeTable
import DeclAtlas.Character.BreakTable
import DeclAtlas.Character.Property
import DeclAtlas.Character.ScriptTable
import DeclAtlas.Character.SharedScriptTable

/-!
# Sets of characters by name

A set of characters is asked for by one name, which is that of a property, a category or a script
(`named?`), or by the name of a classification and that of one of its values (`valued?`).  Names
are compared in loose spelling.
-/

namespace DeclAtlas.Character

/-- The categories of letters, marks, numbers, signs and separators. -/
def plainCategories : List String :=
  ["lu", "ll", "lt", "lm", "lo", "mn", "mc", "me", "nd", "nl", "no", "pc", "pd", "ps", "pe", "pi",
    "pf", "po", "sm", "sc", "sk", "so", "zs", "zl", "zp"]

/-- All categories of characters that stand for something. -/
def assignedCategories : List String := plainCategories ++ ["cc", "cf", "co"]

/-- The classes of categories. -/
def categoryClasses : List (List String × List String) :=
  [(["l", "letter"], ["lu", "ll", "lt", "lm", "lo"]), (["lc", "casedletter"], ["lu", "ll", "lt"]),
   (["m", "mark", "combiningmark"], ["mn", "mc", "me"]), (["n", "number"], ["nd", "nl", "no"]),
   (["p", "punctuation", "punct"], ["pc", "pd", "ps", "pe", "pi", "pf", "po"]),
   (["s", "symbol"], ["sm", "sc", "sk", "so"]), (["z", "separator"], ["zs", "zl", "zp"]),
   (["assigned"], assignedCategories)]

/-- The classes of the characters that are in none of some categories. -/
def remainderClasses : List (List String × List String) :=
  [(["cn", "unassigned"], assignedCategories), (["c", "other"], plainCategories)]

/-- The characters of a category or of a class of categories; two of the classes hold all
characters and those of ASCII. -/
def category? (name : String) : Option CharSet :=
  if name = "any" then some .anything
  else if name = "ascii" then some (.range 0 127)
  else ((lookUp categoryClasses name).map (allOf categoryTable)).or
    (((lookUp remainderClasses name).map fun cs => .except (allOf categoryTable cs)).or
      (find? categoryTable name))

/-- The characters of a script. -/
def script? (name : String) : Option CharSet := find? scriptTable name

/-- Scripts that stand for no script of their own. -/
def placeholderScripts : List String := ["common", "zyyy", "inherited", "zinh", "qaai"]

/-- The characters that a script uses, those that it shares with others included. -/
def usedByScript? (name : String) : Option CharSet :=
  (script? name).map fun s =>
    if placeholderScripts.contains name then
      .difference s (.unionOf ((sharedScriptTable.filter (!·.names.contains name)).map Entry.set))
    else .union s (ofTable sharedScriptTable name)

/-- The characters that a version of Unicode knows. -/
def knownSince? (version : String) : Option CharSet :=
  (ageTable.findIdx? (·.names.contains version)).map fun n =>
    .unionOf ((ageTable.take (n + 1)).map Entry.set)

/-- The characters that go by one name.  The names `cf`, `sc` and `lc` are those of categories,
although properties have them, too. -/
def named? (name : List Char) : Option CharSet :=
  let n := looseName name
  ((property? n).or (category? n)).or (script? n)

/-- The classifications that characters are asked for by value. -/
def classifications : List (List String × (String → Option CharSet)) :=
  [(["generalcategory", "gc"], category?), (["script", "sc"], script?),
   (["scriptextensions", "scx"], usedByScript?), (["age"], knownSince?),
   (["graphemeclusterbreak", "gcb"], find? clusterBreakTable),
   (["wordbreak", "wb"], find? wordBreakTable),
   (["sentencebreak", "sb"], find? sentenceBreakTable)]

/-- The characters that have a value in a classification. -/
def valued? (classification value : List Char) : Option CharSet :=
  (lookUp classifications (looseName classification)).bind (· (looseName value))

end DeclAtlas.Character
