import DeclAtlas.Project

/-!
# Reports as Markdown

A report is a list of lines.  Every recorded item has a bullet line of its own; a section without
items is left out or says that there are none.  Long lists are cut and say how much is left out.
-/

namespace DeclAtlas

namespace Markdown

/-- A text as code. -/
def code (s : String) : String := "`" ++ s ++ "`"

/-- A heading with a blank line after it. -/
def heading (s : String) : List String := [s, ""]

/-- A section of items with a blank line after it; nothing without items. -/
def itemSection {α : Type} (title : String) (item : α → String) (xs : List α) : List String :=
  if xs.isEmpty then [] else heading ("### " ++ title) ++ xs.map item ++ [""]

/-- A bound name, where it differs from the exposed one. -/
def boundTo (exposed bound : String) : String :=
  if bound = exposed then "" else " → " ++ code bound

/-- The first items of a list, and how many more there are. -/
def firstItems {α : Type} (limit : Nat) (item : α → String) (xs : List α) : List String :=
  (xs.take limit).map item ++
    if xs.length > limit then ["- ... and " ++ toString (xs.length - limit) ++ " more"] else []

/-- Strings separated by commas. -/
def commas (xs : List String) : String := ", ".intercalate xs

/-- A hit's place as code. -/
def place (path : String) (line : Nat) : String := code (path ++ ":" ++ toString line)

/-! ### Interfaces -/

/-- An inheritance as the macro that declares it. -/
def inheritanceItem : Inheritance → String
  | .ofType t => "- JSG_INHERIT(" ++ t ++ ")"
  | .intrinsic t => "- JSG_INHERIT_INTRINSIC(" ++ t ++ ")"

/-- The line of a method. -/
def methodItem (m : Method) : String :=
  "- " ++ code m.jsName ++ boundTo m.jsName m.boundName ++ if m.isStatic then " *(static)*" else ""

/-- A placement as reports name it. -/
def placementText : Placement → String
  | .onInstance => "instance"
  | .onPrototype => "prototype"
  | .onConstructor => "static"
  | .onInspect => "inspect-only"

/-- The line of a property. -/
def propertyItem (p : Property) : String :=
  let marks := placementText p.placement :: (if p.readonly then ["readonly"] else []) ++
    if p.lazy then ["lazy"] else []
  "- " ++ code p.jsName ++ " → getter: " ++ code p.getter ++
    (match p.setter with
      | some s => ", setter: " ++ code s
      | none => "") ++
    " *(" ++ commas marks ++ ")*"

/-- The line of a constant. -/
def constantItem (c : Constant) : String :=
  "- " ++ code c.jsName ++ if c.expression = c.jsName then "" else " = " ++ code c.expression

/-- The line of a member type. -/
def nestedTypeItem (t : NestedType) : String :=
  "- " ++ code t.jsName ++ boundTo t.jsName t.boundType

/-- The symbol of an iteration hook. -/
def iteratorSymbol : HookKind → String
  | .sync => "[Symbol.iterator]"
  | .async => "[Symbol.asyncIterator]"

/-- The symbol of a disposal hook. -/
def disposalSymbol : HookKind → String
  | .sync => "[Symbol.dispose]"
  | .async => "[Symbol.asyncDispose]"

/-- The line of a hook. -/
def hookItem (symbol : HookKind → String) (h : Hook) : String :=
  "- " ++ code (symbol h.kind) ++ " via " ++ code h.method

/-- How many characters of an override are shown. -/
def previewLength : Nat := 80

/-- The beginning of an override. -/
def preview (s : String) : String :=
  if s.toList.length > previewLength then String.ofList (s.toList.take previewLength) ++ "..."
  else s

/-- The line of an override. -/
def overrideItem (o : DocOverride) : String :=
  "- " ++ code o.kind.macroName ++ ": " ++ preview o.content

/-- The section of overrides. -/
def overrideSection (os : List DocOverride) : List String :=
  itemSection "TypeScript Overrides" overrideItem os

/-- A section with a single item. -/
def singleSection (title : String) (item : Option String) : List String :=
  itemSection title (fun s => "- " ++ s) item.toList

/-- The lines of a resource type. -/
def resourceLines (i : Interface) (condition : Option String) : List String :=
  heading ("## Interface: " ++ i.typeName) ++
  ["**File:** " ++ code i.location.text] ++
  (match condition with
    | some c => ["**Config:** " ++ code c ++ " (conditional registration)"]
    | none => []) ++
  (if i.alsoRegisteredIn.isEmpty then []
    else ["**Also registered in:** " ++ commas (i.alsoRegisteredIn.map fun l => code l.text) ++
      " (may be a nested class with the same name)"]) ++
  [""] ++
  itemSection "Inheritance" inheritanceItem i.inheritedFrom ++
  itemSection "Methods" methodItem i.methods ++
  itemSection "Properties" propertyItem i.properties ++
  itemSection "Constants" constantItem i.constants ++
  itemSection "Nested Types" nestedTypeItem i.nestedTypes ++
  itemSection "Iterators" (hookItem iteratorSymbol) i.iterators ++
  singleSection "Serialization" (i.serializationTag.map fun t =>
    (if t.oneWay then "one-way serializable" else "serializable") ++ " with tag " ++ code t.tag) ++
  singleSection "Callable" (i.callableVia.map fun c => "Invocable via " ++ code c) ++
  singleSection "Wildcard Property" (i.wildcardGetter.map fun g => "Catch-all getter: " ++ code g) ++
  itemSection "Disposal" (hookItem disposalSymbol) i.disposers ++
  overrideSection i.docOverrides ++
  itemSection "Script Bundles" (fun b => "- " ++ code b) i.scriptBundles ++
  (if i.memoryInfo then ["**Memory tracking:** Has `JSG_MEMORY_INFO`"] else []) ++
  if i.iteratorDeclarations.isEmpty then []
    else "**Iterator declarations:**" :: i.iteratorDeclarations.map fun d => "- " ++ code d

/-- The line of a struct field. -/
def structFieldItem (f : StructField) : String :=
  "- " ++ code f.jsName ++
    if f.boundName = f.jsName then "" else " (bound as " ++ code f.boundName ++ ")"

/-- The lines of a value struct. -/
def structLines (i : Interface) : List String :=
  heading ("## Struct: " ++ i.typeName) ++
  ["**File:** " ++ code i.location.text] ++
  heading "**Type:** Value type (deep-copied to and from script objects)" ++
  itemSection "Fields" structFieldItem i.structFields ++
  overrideSection i.docOverrides

/-- The lines of an interface. -/
def interfaceLines (i : Interface) : List String :=
  match i.registration with
  | .resource condition => resourceLines i condition
  | .valueStruct => structLines i

/-! ### Ordinals -/

/-- An ordinal as written in a schema. -/
def ordinalText (n : Nat) : String := "@" ++ toString n

/-- The lines of a record's report. -/
def recordLines (r : Schema.OrdinalReport) : List String :=
  heading ("## " ++ r.qualifiedName ++ " (" ++ r.schemaFile ++ ")") ++
  heading ("**Next available ordinal: " ++ ordinalText r.nextOrdinal ++ "**") ++
  ["- Total fields: " ++ toString r.totalFields] ++
  (match r.highest with
    | some h => ["- Highest ordinal: " ++ ordinalText h.ordinal ++ " (" ++ code h.field ++ ")"]
    | none => ["- No fields yet"]) ++
  (if r.gaps.isEmpty then []
    else ["- Gaps: " ++ commas (r.gaps.map ordinalText), "  (Likely retired; do NOT reuse)"]) ++
  (if r.declaredAnnotations.isEmpty then []
    else ["- Annotations: " ++ commas r.declaredAnnotations]) ++
  (if r.lastFields.isEmpty then []
    else "" :: heading ("### Last " ++ toString r.lastFields.length ++ " fields") ++
      r.lastFields.map fun f => "- " ++ code f.raw) ++
  "" :: heading "### Usage" ++
  ["```capnp", "  yourNewField " ++ ordinalText r.nextOrdinal ++ " :Bool;", "```"]

/-- The row of a record. -/
def summaryRow (r : Schema.RecordSummary) : String :=
  "| " ++ code r.qualifiedName ++ " | " ++ toString r.totalFields ++ " | " ++
    (match r.highest with
      | some h => ordinalText h
      | none => "-") ++
    " | " ++ ordinalText r.nextOrdinal ++ " |"

/-- The lines of an outcome. -/
def outcomeLines : Schema.Outcome → List String
  | .record r => recordLines r
  | .summary schemaFile records =>
    heading ("## Records in " ++ schemaFile) ++
    if records.isEmpty then ["No records found."]
    else ["| Record | Fields | Highest | Next |", "|---|---|---|---|"] ++ records.map summaryRow

/-! ### Dependencies -/

/-- How many labels of a component are listed. -/
def groupListing : Nat := 15

/-- How many labels of a repository are listed on its line. -/
def inlineLabels : Nat := 3

/-- A label's line. -/
def labelItem (l : String) : String := "- " ++ code l

/-- The lines of groups by component. -/
def domainLines (gs : LabelGroups) : List String :=
  gs.flatMap fun g =>
    ("**" ++ g.1 ++ "/**") :: firstItems groupListing labelItem g.2 ++ [""]

/-- The line of a repository. -/
def repoItem (g : String × List String) : String :=
  "- **" ++ g.1 ++ "**: " ++
    if g.2.length ≤ inlineLabels then commas (g.2.map code) else toString g.2.length ++ " targets"

/-- The lines of a report on what a target depends on. -/
def forwardLines (r : DependencyReport) : List String :=
  heading ("## Dependencies: " ++ r.reference) ++
  (match r.labels with
    | l :: _ => heading ("**Target:** " ++ code l)
    | [] => []) ++
  (if r.internalDeps.isEmpty then []
    else heading ("### Direct dependencies, internal (" ++ toString r.internalTotal ++
      " targets)") ++ domainLines r.internalDeps) ++
  (if r.externalDeps.isEmpty then []
    else heading ("### Direct dependencies, external (" ++ toString r.externalTotal ++
      " targets across " ++ toString r.externalDeps.length ++ " repos)") ++
      r.externalDeps.map repoItem ++ [""]) ++
  if r.reverseDeps.isEmpty then
    heading "### Reverse dependencies" ++ ["No internal targets directly depend on this target."]
  else
    heading ("### Reverse dependencies (" ++ toString r.reverseTotal ++
      " targets depend on this)") ++ domainLines r.reverseDeps

/-- The query that lists the repository of a label. -/
def checkItem (label : String) : String :=
  "bazel query '" ++ String.ofList (Label.head label.toList) ++ "//...' --output label"

/-- The lines that say that nothing depends on a target. -/
def noDependentsLines (labels : List String) : List String :=
  heading "No direct dependents found in the internal scope." ++
  ["The dependency may only be consumed transitively, or the label may be wrong. Check with:",
   "```"] ++
  labels.map checkItem ++ ["```"]

/-- The lines that list and count dependents. -/
def dependentsLines (r : DependencyReport) : List String :=
  let count := toString r.reverseDeps.length
  heading ("### Direct dependents (" ++ toString r.reverseTotal ++ " targets)") ++
  domainLines r.reverseDeps ++
  heading "### Summary" ++
  heading ("**" ++ toString r.reverseTotal ++ " targets** across " ++ count ++ " components: " ++
    commas (r.reverseDeps.map fun g => g.1 ++ " (" ++ toString g.2.length ++ ")")) ++
  ["**" ++ r.breadth.title ++ " usage**: consumed by " ++ count ++ " component(s)."]

/-- The lines of a report on what depends on a reference. -/
def reverseLines (r : DependencyReport) : List String :=
  heading ("## Reverse dependencies: " ++ r.reference) ++
  ["**Resolved labels:** " ++ commas (r.labels.map code)] ++
  (match r.note with
    | some n => ["**Note:** " ++ n]
    | none => []) ++
  "" :: if r.reverseDeps.isEmpty then noDependentsLines r.labels else dependentsLines r

/-- The lines of a dependency report. -/
def dependencyLines (r : DependencyReport) : List String :=
  match r.direction with
  | .forward => forwardLines r
  | .reverse => reverseLines r

/-! ### Compatibility flags -/

open Compat (Flag Listing Snapshot FlagReport)

/-- The remarks on a flag. -/
def flagRemarks (f : Flag) : String :=
  let remarks := (f.disableFlag.toList.map fun d => "disable: " ++ code d) ++
    (f.impliedBy.toList.map fun i => "implied by " ++ i) ++
    if f.neededByFl then ["needed by FL"] else []
  if remarks.isEmpty then "" else " (" ++ "; ".intercalate remarks ++ ")"

/-- A heading with the number of items. -/
def counted (title : String) (n : Nat) : List String :=
  heading ("### " ++ title ++ " (" ++ toString n ++ ")")

/-- The line of a flag's name. -/
def flagItem (f : Flag) : String := "- " ++ code f.displayName

/-- The lines of a listing. -/
def listingLines (l : Listing) : List String :=
  heading "## Compatibility flags" ++
  heading (toString l.active ++ " active flags, " ++ toString l.obsolete ++ " obsolete.") ++
  counted "Date-gated" l.dated.length ++
  (l.dated.map fun f => "- **" ++ f.enableDate.getD "all dates" ++ "**: " ++ code f.displayName ++
    flagRemarks f) ++
  "" :: counted "Opt-in only, no default date" l.optIn.length ++
  (l.optIn.map fun f => flagItem f ++ flagRemarks f) ++
  "" :: counted "Experimental" l.experimental.length ++
  l.experimental.map flagItem

/-- The line that counts the flags of a state. -/
def countItem (n : Nat) (state : String) : String := "- **" ++ toString n ++ "** " ++ state

/-- The lines of a snapshot. -/
def snapshotLines (s : Snapshot) : List String :=
  heading ("## Compatibility flags at " ++ s.date) ++
  [countItem s.enabled.length "enabled by default",
   countItem s.notYetEnabled.length "not yet enabled (future date)",
   countItem s.optIn.length "opt-in only (no date set)"] ++
  heading (countItem s.experimental.length "experimental") ++
  (if s.enabled.isEmpty then []
    else counted "Enabled by default" s.enabled.length ++
      s.enabled.map fun f => flagItem f ++ " (since " ++ f.enableDate.getD "all dates" ++ ")") ++
  (if s.notYetEnabled.isEmpty then []
    else "" :: counted ("Not yet enabled, date is after \"" ++ s.date ++ "\"")
        s.notYetEnabled.length ++
      s.notYetEnabled.map fun f => flagItem f ++ " (" ++ f.enableDate.getD "" ++ ")") ++
  (if s.optIn.isEmpty then []
    else "" :: counted "Opt-in only" s.optIn.length ++ s.optIn.map flagItem) ++
  if s.experimental.isEmpty then []
    else "" :: counted "Experimental" s.experimental.length ++ s.experimental.map flagItem

/-- The lines of a report on flags. -/
def flagLines : FlagReport → List String
  | .listing l => listingLines l
  | .atDate s => snapshotLines s

/-! ### Cross references -/

/-- How many further declarations are listed. -/
def otherDeclarations : Nat := 5

/-- How many tests are listed. -/
def testListing : Nat := 10

/-- A hit with its text. -/
def hitItem (h : Hit) : String :=
  "- " ++ place h.path h.line ++ ": " ++ Text.trimString h.text

/-- The lines of declarations. -/
def declarationLines : List Hit → List String
  | [] => ["Not found in any header."]
  | primary :: others =>
    hitItem primary ::
    if others.isEmpty then []
    else ["- Also referenced in: " ++
      commas ((others.take otherDeclarations).map fun h => place h.path h.line) ++
      if others.length > otherDeclarations then
        " (+" ++ toString (others.length - otherDeclarations) ++ " more)"
      else ""]

/-- The lines of a registration. -/
def registrationLines (x : CrossReference) : List String :=
  match x.registration with
  | none => ["No `JSG_RESOURCE_TYPE(" ++ x.symbol ++ ")` found."]
  | some h =>
    ("- Registered in " ++ place h.path h.line) ::
    if x.registeredMembers.isEmpty then []
    else "- Methods and properties:" :: x.registeredMembers.map fun m => "  - " ++ code m

/-- The lines of a cross reference. -/
def crossReferenceLines (x : CrossReference) : List String :=
  heading ("## Cross-reference: " ++ x.symbol) ++
  heading "### Declaration" ++ declarationLines x.declarations ++
  "" :: heading "### Implementation" ++
  (if x.implementations.isEmpty then
    ["No implementation files reference `" ++ x.symbol ++ "::`."] else []) ++
  (x.implementations.map fun c =>
    "- " ++ code c.path ++ " (" ++ toString c.references ++ " references)") ++
  "" :: heading "### Registration" ++ registrationLines x ++
  "" :: heading "### Type Group" ++
  (match x.typeGroup with
    | some g => ["- Part of " ++ code g.macroName ++ " (defined in " ++ place g.path g.line ++ ")"]
    | none => ["Not found in any isolate type group."]) ++
  (if x.gating.isEmpty then []
    else "" :: heading "### Compatibility Flag Gating" ++ x.gating.map hitItem) ++
  "" :: heading "### Tests" ++
  if x.tests.isEmpty then ["No test files found referencing `" ++ x.symbol ++ "`."]
  else firstItems testListing labelItem x.tests

/-- Lines as a text in which every line is ended. -/
def document (ls : List String) : String := String.join (ls.map (· ++ "\n"))

end Markdown

end DeclAtlas
