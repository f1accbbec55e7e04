import DeclAtlas.Settings
import DeclAtlas.Text.LowerCase
import DeclAtlas.Toml.Document

/-!
# Reading settings

A settings file is a document with the sections `search`, `graph`, `aliases`, `ecosystems` and
`schema`.  A key that is missing keeps its default, and keys that are not known do not count, except
that their numbers must be in range.  A known key with a value of another type makes the whole file
invalid.  Aliases are added to the built-in ones, their short names in lower case.
-/

namespace DeclAtlas

open Toml

namespace Settings

/-- The text of a string. -/
def string? : Value → Option String
  | .string s => some s
  | _ => none

/-- The texts of an array of strings. -/
def strings? : Value → Option (List String)
  | .array xs => xs.mapM string?
  | _ => none

/-- The exclusive bound of counts. -/
def countBound : Nat := 18446744073709551616

/-- The value of a count. -/
def count? : Value → Option Nat
  | .integer (.ofNat n) => if n < countBound then some n else none
  | _ => none

/-- The values of the keys of a section.  A section may also be written as an array with a value
for every key in order. -/
def sectionMembers? (keys : List String) : Value → Option Members
  | .table _ ms => some ms
  | .array xs => if xs.length < keys.length then none else some (keys.zip xs)
  | .tables ts =>
    if ts.length < keys.length then none else some (keys.zip (ts.map (.table .headed)))
  | .datetime _ => some []
  | _ => none

/-- The sections that may be written as arrays, each with its keys in order. -/
def sectionKeys : List (String × List String) :=
  [("search", ["source_dir", "header_glob", "impl_glob", "max_results"]),
   ("graph", ["tool", "internal_scope", "internal_prefix", "domain_strip_prefix", "noise_prefixes"]),
   ("ecosystems", ["rust_prefixes", "cpp_prefixes", "crate_registry"]),
   ("schema", ["compiler", "plugin", "import_paths", "build_targets", "compat_file"])]

/-- The keys of a section in order. -/
def keysOf (name : String) : List String := (sectionKeys.lookup name).getD []

/-- The members of a section of the document; none of them if the section is missing. -/
def sectionOf? (root : Members) (name : String) : Option Members :=
  match root.get? name with
  | none => some []
  | some v => sectionMembers? (keysOf name) v

/-- Whether the numbers in a member of the document are in range.  What stands in an array after
the values of all the keys of a section is not looked at. -/
def isMemberInRange (m : String × Value) : Bool :=
  match m.2, keysOf m.1 with
  | .array xs, k :: ks => (xs.take (k :: ks).length).all Value.isInRange
  | v, _ => v.isInRange

/-- The value of a key, or the default if the key is missing. -/
def valueOr {α : Type} (read? : Value → Option α) (ms : Members) (key : String) (default : α) :
    Option α :=
  match ms.get? key with
  | none => some default
  | some v => read? v

/-- The search section over defaults. -/
def readSearch? (root : Members) (d : SearchSettings) : Option SearchSettings := do
  let ms ← sectionOf? root "search"
  some {
    sourceDir := ← valueOr string? ms "source_dir" d.sourceDir
    headerGlob := ← valueOr string? ms "header_glob" d.headerGlob
    implGlob := ← valueOr string? ms "impl_glob" d.implGlob
    maxResults := ← valueOr count? ms "max_results" d.maxResults }

/-- The graph section over defaults. -/
def readGraph? (root : Members) (d : GraphSettings) : Option GraphSettings := do
  let ms ← sectionOf? root "graph"
  some {
    tool := ← valueOr string? ms "tool" d.tool
    internalScope := ← valueOr string? ms "internal_scope" d.internalScope
    internalPrefix := ← valueOr string? ms "internal_prefix" d.internalPrefix
    domainStripPrefix := ← valueOr string? ms "domain_strip_prefix" d.domainStripPrefix
    noisePrefixes := ← valueOr strings? ms "noise_prefixes" d.noisePrefixes }

/-- The short name under which a date or time stands that takes the place of the aliases. -/
def momentAlias : String := "$__toml_private_datetime"

/-- The aliases of the document, sorted by the short names as written. -/
def readAliases? (root : Members) : Option (List (String × String)) :=
  match root.get? "aliases" with
  | none => some []
  | some (.table _ ms) => do
    let as ← ms.mapM fun m => (string? m.2).map fun repo => (m.1, repo)
    some (as.mergeSort fun a b => decide (a.1 ≤ b.1))
  | some (.datetime m) => some [(momentAlias, m.text)]
  | some _ => none

/-- Adds aliases to a table, one after another. -/
def addAliases (t : AliasTable) (as : List (String × String)) : AliasTable :=
  as.foldl (fun t a => AliasTable.insert (Text.lowerString a.1) a.2 t) t

/-- The aliases and the ecosystems section over defaults. -/
def readResolver? (root : Members) (d : ResolverSettings) : Option ResolverSettings := do
  let as ← readAliases? root
  let ms ← sectionOf? root "ecosystems"
  some { d with
    aliases := addAliases d.aliases as
    rustPrefixes := ← valueOr strings? ms "rust_prefixes" d.rustPrefixes
    cppPrefixes := ← valueOr strings? ms "cpp_prefixes" d.cppPrefixes
    crateRegistry := ← valueOr string? ms "crate_registry" d.crateRegistry }

/-- The schema section over defaults. -/
def readSchema? (root : Members) (d : SchemaSettings) : Option SchemaSettings := do
  let ms ← sectionOf? root "schema"
  some {
    compiler := ← valueOr string? ms "compiler" d.compiler
    plugin := ← valueOr string? ms "plugin" d.plugin
    importPaths := ← valueOr strings? ms "import_paths" d.importPaths
    buildTargets := ← valueOr strings? ms "build_targets" d.buildTargets
    compatFile := ← valueOr string? ms "compat_file" d.compatFile }

/-- The settings of a document over defaults. -/
def ofMembers? (root : Members) (d : Settings) : Option Settings := do
  guard (root.all isMemberInRange)
  some {
    search := ← readSearch? root d.search
    graph := ← readGraph? root d.graph
    resolver := ← readResolver? root d.resolver
    schema := ← readSchema? root d.schema }

/-- The settings that a text gives, if it is valid. -/
def ofText? (text : String) : Option Settings := do
  ofMembers? (← Toml.parse? text) {}

/-- The name of the settings file in the project root. -/
def fileName : String := ".declmap.toml"

/-- A settings file that states the defaults, for a new project. -/
def template : String :=
  "# declmap configuration\n" ++
  "# Every key is optional; omitted keys keep their built-in defaults.\n" ++
  "\n" ++
  "[search]\n" ++
  "# Directory holding declaration files, relative to the project root\n" ++
  "source_dir = \"src\"\n" ++
  "header_glob = \"*.h\"\n" ++
  "impl_glob = \"*.c++\"\n" ++
  "max_results = 50\n" ++
  "\n" ++
  "[graph]\n" ++
  "tool = \"bazel\"\n" ++
  "internal_scope = \"//src/...\"\n" ++
  "internal_prefix = \"//src/\"\n" ++
  "domain_strip_prefix = \"workerd/\"\n" ++
  "noise_prefixes = [\"@bazel_tools\", \"@platforms\", \"@@rules_\"]\n" ++
  "\n" ++
  "# Short dependency names rewritten to external repository names.\n" ++
  "# Entries here are added to the built-in table.\n" ++
  "[aliases]\n" ++
  "# boringssl = \"ssl\"\n" ++
  "\n" ++
  "[ecosystems]\n" ++
  "rust_prefixes = [\"rust:\", \"crate:\"]\n" ++
  "cpp_prefixes = [\"cpp:\", \"cc:\"]\n" ++
  "crate_registry = \"@crates_vendor\"\n" ++
  "\n" ++
  "[schema]\n" ++
  "compiler = \"bazel-bin/external/+http+capnp-cpp/src/capnp/capnp_tool\"\n" ++
  "plugin = \"bazel-bin/external/+http+capnp-cpp/src/capnp/capnpc-capnp\"\n" ++
  "import_paths = [\"bazel-workerd/external/+http+capnp-cpp/src\", \"src/workerd/io\", " ++
    "\"src/workerd/server\", \"src\"]\n" ++
  "build_targets = [\"@capnp-cpp//src/capnp:capnp_tool\", " ++
    "\"@capnp-cpp//src/capnp:capnpc-capnp\"]\n" ++
  "compat_file = \"src/workerd/io/compatibility-date.capnp\"\n"

end Settings

end DeclAtlas
