/-!
# Settings of a project

What a project can configure, with the values that hold where nothing is configured.
-/

namespace DeclAtlas

/-- Where declarations are searched for. -/
structure SearchSettings where
  /-- The directory of the declaration files, relative to the project root. -/
  sourceDir : String := "src"
  headerGlob : String := "*.h"
  /-- The glob of implementation files. -/
  implGlob : String := "*.c++"
  /-- The number of hits at which a search stops. -/
  maxResults : Nat := 50
  deriving Repr, DecidableEq

/-- How the build graph is asked and its labels are classified. -/
structure GraphSettings where
  tool : String := "bazel"
  /-- The universe of queries for dependents. -/
  internalScope : String := "//src/..."
  /-- What every internal label begins with. -/
  internalPrefix : String := "//src/"
  /-- The leading part of a package path that names no component. -/
  domainStripPrefix : String := "workerd/"
  /-- What labels of no interest begin with. -/
  noisePrefixes : List String := ["@bazel_tools", "@platforms", "@@rules_"]
  deriving Repr, DecidableEq

/-- An alias table: short names in lower case with the repositories they stand for. -/
abbrev AliasTable := List (String × String)

/-- The repository a short name stands for. -/
def AliasTable.repo? (t : AliasTable) (short : String) : Option String :=
  (t.find? (·.1 == short)).map Prod.snd

/-- Puts an alias into a table sorted by short names; an older alias of the same name gives way. -/
def AliasTable.insert (short repo : String) : AliasTable → AliasTable
  | [] => [(short, repo)]
  | (k, v) :: t =>
    if short < k then (short, repo) :: (k, v) :: t
    else if short = k then (k, repo) :: t
    else (k, v) :: AliasTable.insert short repo t

/-- The built-in aliases. -/
def AliasTable.builtIn : AliasTable :=
  [("boringssl", "ssl"), ("capnp", "capnp-cpp"), ("capnproto", "capnp-cpp"),
   ("cxx", "workerd-cxx"), ("icu", "com_googlesource_chromium_icu"), ("kj", "capnp-cpp"),
   ("openssl", "ssl"), ("sqlite", "sqlite3"), ("v8", "workerd-v8")]

/-- How short dependency names are resolved. -/
structure ResolverSettings where
  /-- Short names that stand for other repositories. -/
  aliases : AliasTable := AliasTable.builtIn
  /-- The qualifiers of Rust crates. -/
  rustPrefixes : List String := ["rust:", "crate:"]
  /-- The qualifiers of C++ repositories. -/
  cppPrefixes : List String := ["cpp:", "cc:"]
  /-- The repository that vendors crates. -/
  crateRegistry : String := "@crates_vendor"
  /-- The largest number of labels of an external repository. -/
  externalCap : Nat := 5
  /-- The largest number of labels of a crate. -/
  crateCap : Nat := 3
  deriving Repr, DecidableEq

/-- How schemas are compiled. -/
structure SchemaSettings where
  compiler : String := "bazel-bin/external/+http+capnp-cpp/src/capnp/capnp_tool"
  /-- The plugin that writes canonical text. -/
  plugin : String := "bazel-bin/external/+http+capnp-cpp/src/capnp/capnpc-capnp"
  /-- Where imported schemas are looked for. -/
  importPaths : List String :=
    ["bazel-workerd/external/+http+capnp-cpp/src", "src/workerd/io", "src/workerd/server", "src"]
  /-- What is built when the compiler or the plugin is missing. -/
  buildTargets : List String :=
    ["@capnp-cpp//src/capnp:capnp_tool", "@capnp-cpp//src/capnp:capnpc-capnp"]
  compatFile : String := "src/workerd/io/compatibility-date.capnp"
  deriving Repr, DecidableEq

/-- The settings of a project. -/
structure Settings where
  search : SearchSettings := {}
  /-- How the build graph is asked. -/
  graph : GraphSettings := {}
  resolver : ResolverSettings := {}
  schema : SchemaSettings := {}
  deriving Repr, DecidableEq

end DeclAtlas
