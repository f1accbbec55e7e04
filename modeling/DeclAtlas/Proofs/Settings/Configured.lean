import DeclAtlas.Proofs.Dependency.Plan
import DeclAtlas.Settings.Reader
import Mathlib.Data.List.Induction

/-!
# What is configured takes effect

Settings are read over defaults, key by key: `Chosen` says what becomes of one key, and `Configures`
that every setting comes from its own key and no other.  A document gives settings exactly if every
part of it that is looked at can be read (`exists_ofMembers?_iff`).

Aliases are put into the table of the built-in ones under their short names in lower case, and names
are looked up there in lower case.  The table holds for a key what was put in last, and what it held
before if nothing was (`repo?_addAliases`).  So an entry whose key no other entry has in lower case
decides for all names with this lower-case form, and a built-in alias goes on to count where nothing is
configured for its key; the repository that a name stands for is the first that the build graph is asked
for (`configured_values_take_effect`).
-/

namespace DeclAtlas

open Text Toml

namespace Settings

/-! ### Values -/

theorem string?_eq_some_iff {v : Value} {s : String} : string? v = some s ↔ v = .string s := by
  cases v <;> simp [string?]

/-- The texts of a list are those of an array that holds nothing but strings. -/
theorem strings?_eq_some_iff {v : Value} {ss : List String} :
    strings? v = some ss ↔ v = .array (ss.map .string) := by
  have hitems : ∀ xs : List Value, xs.mapM string? = some ss ↔ xs = ss.map .string := by
    intro xs
    induction xs generalizing ss with
    | nil => cases ss <;> simp
    | cons x xs ih =>
      cases ss <;>
      simp [List.mapM_cons, Option.bind_eq_some_iff, string?_eq_some_iff, ih]
  cases v <;> simp [strings?, hitems]

theorem count?_eq_some_iff {v : Value} {n : Nat} :
    count? v = some n ↔ v = .integer n ∧ n < countBound := by
  cases v with
  | integer k =>
    cases k with
    | ofNat m =>
      simp only [count?, Option.ite_none_right_eq_some, Option.some.injEq, Value.integer.injEq,
        Int.ofNat_eq_natCast, Int.natCast_inj]
      constructor
      · rintro ⟨hm, rfl⟩
        exact ⟨rfl, hm⟩
      · rintro ⟨rfl, hm⟩
        exact ⟨hm, rfl⟩
    | negSucc m => simp [count?]
  | _ => simp [count?]

/-! ### One key -/

/-- The value that a document gives for a key of a section. -/
def given? (root : Members) (name key : String) : Option Value :=
  (sectionOf? root name).bind (Members.get? · key)

/-- What a setting is: the value that is given for it, or the default if none is given. -/
def Chosen {α : Type} (read? : Value → Option α) (given : Option Value) (default x : α) : Prop :=
  match given with
  | none => x = default
  | some v => read? v = some x

section Key

variable {α : Type} {read? : Value → Option α} {default x : α}

theorem valueOr_eq_some_iff {root ms : Members} {name key : String}
    (hms : sectionOf? root name = some ms) :
    valueOr read? ms key default = some x ↔ Chosen read? (given? root name key) default x := by
  have hgiven : given? root name key = ms.get? key := by
    rw [given?, hms, Option.bind_some]
  rw [valueOr, hgiven]
  cases ms.get? key with
  | none => exact Option.some.injEq default x ▸ eq_comm
  | some v => exact Iff.rfl

theorem exists_chosen_iff {given : Option Value} :
    (∃ x, Chosen read? given default x) ↔ ∀ v ∈ given, (read? v).isSome = true := by
  cases given with
  | none => exact ⟨fun _ _ h => absurd h nofun, fun _ => ⟨default, rfl⟩⟩
  | some v =>
    simp only [Option.mem_some_iff, forall_eq', Option.isSome_iff_exists]
    exact Iff.rfl

end Key

/-! ### All keys -/

section Sections

variable (root : Members)

/-- Search settings that follow a document, over defaults. -/
structure ConfiguresSearch (d s : SearchSettings) : Prop where
  readable : (sectionOf? root "search").isSome = true
  sourceDir : Chosen string? (given? root "search" "source_dir") d.sourceDir s.sourceDir
  headerGlob : Chosen string? (given? root "search" "header_glob") d.headerGlob s.headerGlob
  implGlob : Chosen string? (given? root "search" "impl_glob") d.implGlob s.implGlob
  maxResults : Chosen count? (given? root "search" "max_results") d.maxResults s.maxResults

/-- Graph settings that follow a document, over defaults. -/
structure ConfiguresGraph (d s : GraphSettings) : Prop where
  readable : (sectionOf? root "graph").isSome = true
  tool : Chosen string? (given? root "graph" "tool") d.tool s.tool
  internalScope :
    Chosen string? (given? root "graph" "internal_scope") d.internalScope s.internalScope
  internalPrefix :
    Chosen string? (given? root "graph" "internal_prefix") d.internalPrefix s.internalPrefix
  domainStripPrefix :
    Chosen string? (given? root "graph" "domain_strip_prefix") d.domainStripPrefix s.domainStripPrefix
  noisePrefixes :
    Chosen strings? (given? root "graph" "noise_prefixes") d.noisePrefixes s.noisePrefixes

/-- Resolver settings that follow a document, over defaults.  The caps cannot be configured; what
becomes of the aliases is said by `repo?_aliases`. -/
structure ConfiguresResolver (d s : ResolverSettings) : Prop where
  readable : (sectionOf? root "ecosystems").isSome = true
  rustPrefixes :
    Chosen strings? (given? root "ecosystems" "rust_prefixes") d.rustPrefixes s.rustPrefixes
  cppPrefixes :
    Chosen strings? (given? root "ecosystems" "cpp_prefixes") d.cppPrefixes s.cppPrefixes
  crateRegistry :
    Chosen string? (given? root "ecosystems" "crate_registry") d.crateRegistry s.crateRegistry
  externalCap : s.externalCap = d.externalCap
  crateCap : s.crateCap = d.crateCap

/-- Schema settings that follow a document, over defaults. -/
structure ConfiguresSchema (d s : SchemaSettings) : Prop where
  readable : (sectionOf? root "schema").isSome = true
  compiler : Chosen string? (given? root "schema" "compiler") d.compiler s.compiler
  plugin : Chosen string? (given? root "schema" "plugin") d.plugin s.plugin
  importPaths : Chosen strings? (given? root "schema" "import_paths") d.importPaths s.importPaths
  buildTargets : Chosen strings? (given? root "schema" "build_targets") d.buildTargets s.buildTargets
  compatFile : Chosen string? (given? root "schema" "compat_file") d.compatFile s.compatFile

/-- Settings that follow a document, over defaults, in everything but the aliases. -/
structure Configures (d s : Settings) : Prop where
  search : ConfiguresSearch root d.search s.search
  graph : ConfiguresGraph root d.graph s.graph
  resolver : ConfiguresResolver root d.resolver s.resolver
  schema : ConfiguresSchema root d.schema s.schema

end Sections

variable {root : Members}

theorem readSearch?_eq_some_iff {d s : SearchSettings} :
    readSearch? root d = some s ↔ ConfiguresSearch root d s := by
  simp only [readSearch?, Option.bind_eq_bind, Option.bind_eq_some_iff, Option.some.injEq]
  constructor
  · rintro ⟨ms, hms, dir, hdir, header, hheader, impl, himpl, count, hcount, rfl⟩
    rw [valueOr_eq_some_iff hms] at hdir hheader himpl hcount
    exact ⟨Option.isSome_of_eq_some hms, hdir, hheader, himpl, hcount⟩
  · rintro ⟨hreadable, hdir, hheader, himpl, hcount⟩
    obtain ⟨ms, hms⟩ := Option.isSome_iff_exists.mp hreadable
    rw [← valueOr_eq_some_iff hms] at hdir hheader himpl hcount
    exact ⟨ms, hms, _, hdir, _, hheader, _, himpl, _, hcount, rfl⟩

theorem readGraph?_eq_some_iff {d s : GraphSettings} :
    readGraph? root d = some s ↔ ConfiguresGraph root d s := by
  simp only [readGraph?, Option.bind_eq_bind, Option.bind_eq_some_iff, Option.some.injEq]
  constructor
  · rintro ⟨ms, hms, tool, htool, scope, hscope, lead, hlead, strip, hstrip, noise, hnoise, rfl⟩
    rw [valueOr_eq_some_iff hms] at htool hscope hlead hstrip hnoise
    exact ⟨Option.isSome_of_eq_some hms, htool, hscope, hlead, hstrip, hnoise⟩
  · rintro ⟨hreadable, htool, hscope, hlead, hstrip, hnoise⟩
    obtain ⟨ms, hms⟩ := Option.isSome_iff_exists.mp hreadable
    rw [← valueOr_eq_some_iff hms] at htool hscope hlead hstrip hnoise
    exact ⟨ms, hms, _, htool, _, hscope, _, hlead, _, hstrip, _, hnoise, rfl⟩

theorem readSchema?_eq_some_iff {d s : SchemaSettings} :
    readSchema? root d = some s ↔ ConfiguresSchema root d s := by
  simp only [readSchema?, Option.bind_eq_bind, Option.bind_eq_some_iff, Option.some.injEq]
  constructor
  · rintro ⟨ms, hms, compiler, hcompiler, plugin, hplugin, paths, hpaths, targets, htargets, file,
      hfile, rfl⟩
    rw [valueOr_eq_some_iff hms] at hcompiler hplugin hpaths htargets hfile
    exact ⟨Option.isSome_of_eq_some hms, hcompiler, hplugin, hpaths, htargets, hfile⟩
  · rintro ⟨hreadable, hcompiler, hplugin, hpaths, htargets, hfile⟩
    obtain ⟨ms, hms⟩ := Option.isSome_iff_exists.mp hreadable
    rw [← valueOr_eq_some_iff hms] at hcompiler hplugin hpaths htargets hfile
    exact ⟨ms, hms, _, hcompiler, _, hplugin, _, hpaths, _, htargets, _, hfile, rfl⟩

/-- Resolver settings follow a document, and their aliases come from the entries of its table. -/
theorem readResolver?_eq_some_iff {d s : ResolverSettings} :
    readResolver? root d = some s ↔ ConfiguresResolver root d s ∧
      ∃ as, readAliases? root = some as ∧ s.aliases = addAliases d.aliases as := by
  simp only [readResolver?, Option.bind_eq_bind, Option.bind_eq_some_iff, Option.some.injEq]
  constructor
  · rintro ⟨as, has, ms, hms, rust, hrust, cpp, hcpp, registry, hregistry, rfl⟩
    rw [valueOr_eq_some_iff hms] at hrust hcpp hregistry
    exact ⟨⟨Option.isSome_of_eq_some hms, hrust, hcpp, hregistry, rfl, rfl⟩, as, has, rfl⟩
  · rintro ⟨⟨hreadable, hrust, hcpp, hregistry, hexternal, hcrate⟩, as, has, haliases⟩
    obtain ⟨ms, hms⟩ := Option.isSome_iff_exists.mp hreadable
    rw [← valueOr_eq_some_iff hms] at hrust hcpp hregistry
    refine ⟨as, has, ms, hms, _, hrust, _, hcpp, _, hregistry, ?_⟩
    rw [← haliases, ← hexternal, ← hcrate]

/-- **Every setting follows its own key.** -/
theorem ofMembers?_eq_some_iff {d s : Settings} :
    ofMembers? root d = some s ↔ root.all isMemberInRange = true ∧ Configures root d s ∧
      ∃ as, readAliases? root = some as ∧ s.resolver.aliases = addAliases d.resolver.aliases as := by
  have hguard : ofMembers? root d = some s ↔ root.all isMemberInRange = true ∧
      ∃ search, readSearch? root d.search = some search ∧
      ∃ graph, readGraph? root d.graph = some graph ∧
      ∃ resolver, readResolver? root d.resolver = some resolver ∧
      ∃ schema, readSchema? root d.schema = some schema ∧ ⟨search, graph, resolver, schema⟩ = s := by
    by_cases hrange : root.all isMemberInRange = true
    · rw [ofMembers?, guard, if_pos hrange]
      simp only [Option.pure_def, Option.bind_eq_bind, Option.bind_some, Option.bind_eq_some_iff,
        Option.some.injEq, hrange, true_and]
    · have hnone : ofMembers? root d = none := by
        rw [ofMembers?, guard, if_neg hrange]
        rfl
      rw [hnone]
      exact ⟨nofun, fun h => absurd h.1 hrange⟩
  rw [hguard]
  simp only [readSearch?_eq_some_iff, readGraph?_eq_some_iff, readResolver?_eq_some_iff,
    readSchema?_eq_some_iff]
  constructor
  · rintro ⟨hrange, search, hsearch, graph, hgraph, resolver, ⟨hresolver, haliases⟩, schema, hschema,
      rfl⟩
    exact ⟨hrange, ⟨hsearch, hgraph, hresolver, hschema⟩, haliases⟩
  · rintro ⟨hrange, ⟨hsearch, hgraph, hresolver, hschema⟩, haliases⟩
    exact ⟨hrange, _, hsearch, _, hgraph, _, ⟨hresolver, haliases⟩, _, hschema, rfl⟩

/-! ### Alias entries -/

/-- The entries of the alias table of a document.  A date or time that takes the place of the table
makes one entry. -/
def aliasEntries (root : Members) : List (String × String) :=
  match root.get? "aliases" with
  | some (.table _ ms) => ms.filterMap fun m => (string? m.2).map fun repo => (m.1, repo)
  | some (.datetime m) => [(momentAlias, m.text)]
  | _ => []

/-- Whether a value is an alias table, or a date or time in place of one. -/
def IsAliasTable (v : Value) : Prop :=
  (∃ origin ms, v = .table origin ms ∧ ∀ m ∈ ms, (string? m.2).isSome = true) ∨ ∃ m, v = .datetime m

theorem mapM_eq_some_iff {α β : Type} {f : α → Option β} {xs : List α} {ys : List β} :
    xs.mapM f = some ys ↔ (∀ x ∈ xs, (f x).isSome = true) ∧ xs.filterMap f = ys := by
  induction xs generalizing ys with
  | nil =>
    constructor
    · intro h
      exact ⟨by simp, Option.some.inj h⟩
    · rintro ⟨-, h⟩
      exact congrArg some h
  | cons x xs ih =>
    simp only [List.mapM_cons, Option.bind_eq_bind, Option.bind_eq_some_iff, Option.pure_def,
      Option.some.injEq, List.forall_mem_cons, ih]
    constructor
    · rintro ⟨y, hy, rest, ⟨hall, hrest⟩, rfl⟩
      refine ⟨⟨Option.isSome_of_eq_some hy, hall⟩, ?_⟩
      rw [List.filterMap_cons_some hy, hrest]
    · rintro ⟨⟨hx, hall⟩, rfl⟩
      obtain ⟨y, hy⟩ := Option.isSome_iff_exists.mp hx
      exact ⟨y, hy, _, ⟨hall, rfl⟩, (List.filterMap_cons_some hy).symm⟩

theorem isSome_readAliases?_iff :
    (readAliases? root).isSome = true ↔ ∀ v ∈ root.get? "aliases", IsAliasTable v := by
  unfold readAliases?
  split
  · rename_i hget
    rw [hget]
    exact ⟨fun _ _ h => absurd h nofun, fun _ => rfl⟩
  · rename_i origin ms hget
    rw [hget]
    constructor
    · intro h
      obtain ⟨as, has⟩ := Option.isSome_iff_exists.mp h
      obtain ⟨es, hes, -⟩ := Option.bind_eq_some_iff.mp has
      rintro v ⟨⟩
      refine .inl ⟨origin, ms, rfl, fun m hm => ?_⟩
      have hentry := (mapM_eq_some_iff.mp hes).1 m hm
      rwa [Option.isSome_map] at hentry
    · intro h
      have hentries : ∀ m ∈ ms, ((string? m.2).map fun repo => (m.1, repo)).isSome = true := by
        intro m hm
        rw [Option.isSome_map]
        rcases h _ rfl with ⟨origin', ms', heq, hall⟩ | ⟨moment, heq⟩
        · obtain ⟨-, rfl⟩ := Value.table.inj heq
          exact hall m hm
        · exact nomatch heq
      rw [mapM_eq_some_iff.mpr ⟨hentries, rfl⟩]
      rfl
  · rename_i m hget
    rw [hget]
    exact ⟨fun _ v hv => .inr ⟨m, (Option.some.inj hv).symm⟩, fun _ => rfl⟩
  · rename_i v htable hmoment hget
    refine ⟨nofun, fun h => ?_⟩
    rcases h v hget with ⟨origin, ms, rfl, -⟩ | ⟨m, rfl⟩
    · exact (htable origin ms rfl).elim
    · exact (hmoment m rfl).elim

/-- The aliases that are read are the entries of the table in another order. -/
theorem perm_aliasEntries {as : List (String × String)} (h : readAliases? root = some as) :
    as.Perm (aliasEntries root) := by
  unfold readAliases? at h
  unfold aliasEntries
  split at h
  · rename_i hget
    obtain rfl := Option.some.inj h
    rw [hget]
  · rename_i ms hget
    simp only [Option.bind_eq_bind, Option.bind_eq_some_iff, Option.some.injEq] at h
    obtain ⟨es, hes, rfl⟩ := h
    rw [hget]
    exact (mapM_eq_some_iff.mp hes).2.symm ▸ List.mergeSort_perm es _
  · rename_i m hget
    obtain rfl := Option.some.inj h
    rw [hget]
  · exact absurd h nofun

/-! ### Documents that can be read -/

/-- The keys of texts, with their sections. -/
def stringKeys : List (String × String) :=
  [("search", "source_dir"), ("search", "header_glob"), ("search", "impl_glob"), ("graph", "tool"),
   ("graph", "internal_scope"), ("graph", "internal_prefix"), ("graph", "domain_strip_prefix"),
   ("ecosystems", "crate_registry"), ("schema", "compiler"), ("schema", "plugin"),
   ("schema", "compat_file")]

/-- The keys of lists of texts, with their sections. -/
def listKeys : List (String × String) :=
  [("graph", "noise_prefixes"), ("ecosystems", "rust_prefixes"), ("ecosystems", "cpp_prefixes"),
   ("schema", "import_paths"), ("schema", "build_targets")]

/-- A document of which every part that is looked at can be read: the numbers are in range, the
sections and the aliases are tables or stand for some, and the values are of the types of their keys. -/
structure Readable (root : Members) : Prop where
  in_range : ∀ m ∈ root, isMemberInRange m = true
  sections : ∀ name ∈ ["search", "graph", "ecosystems", "schema"], (sectionOf? root name).isSome = true
  strings : ∀ k ∈ stringKeys, ∀ v ∈ given? root k.1 k.2, (string? v).isSome = true
  lists : ∀ k ∈ listKeys, ∀ v ∈ given? root k.1 k.2, (strings? v).isSome = true
  counts : ∀ v ∈ given? root "search" "max_results", (count? v).isSome = true
  aliases : ∀ v ∈ root.get? "aliases", IsAliasTable v

namespace Readable

theorem exists_string (h : Readable root) (name key : String) (hkey : (name, key) ∈ stringKeys)
    (default : String) : ∃ x, Chosen string? (given? root name key) default x :=
  exists_chosen_iff.mpr (h.strings (name, key) hkey)

theorem exists_list (h : Readable root) (name key : String) (hkey : (name, key) ∈ listKeys)
    (default : List String) : ∃ xs, Chosen strings? (given? root name key) default xs :=
  exists_chosen_iff.mpr (h.lists (name, key) hkey)

theorem exists_search (h : Readable root) (d : SearchSettings) :
    ∃ s, ConfiguresSearch root d s := by
  obtain ⟨dir, hdir⟩ := h.exists_string "search" "source_dir" (by decide) d.sourceDir
  obtain ⟨header, hheader⟩ := h.exists_string "search" "header_glob" (by decide) d.headerGlob
  obtain ⟨impl, himpl⟩ := h.exists_string "search" "impl_glob" (by decide) d.implGlob
  obtain ⟨count, hcount⟩ : ∃ n, Chosen count? (given? root "search" "max_results") d.maxResults n :=
    exists_chosen_iff.mpr h.counts
  exact ⟨⟨dir, header, impl, count⟩, h.sections "search" (by decide), hdir, hheader, himpl, hcount⟩

theorem exists_graph (h : Readable root) (d : GraphSettings) : ∃ s, ConfiguresGraph root d s := by
  obtain ⟨tool, htool⟩ := h.exists_string "graph" "tool" (by decide) d.tool
  obtain ⟨scope, hscope⟩ := h.exists_string "graph" "internal_scope" (by decide) d.internalScope
  obtain ⟨lead, hlead⟩ := h.exists_string "graph" "internal_prefix" (by decide) d.internalPrefix
  obtain ⟨strip, hstrip⟩ :=
    h.exists_string "graph" "domain_strip_prefix" (by decide) d.domainStripPrefix
  obtain ⟨noise, hnoise⟩ := h.exists_list "graph" "noise_prefixes" (by decide) d.noisePrefixes
  exact ⟨⟨tool, scope, lead, strip, noise⟩, h.sections "graph" (by decide), htool, hscope, hlead,
    hstrip, hnoise⟩

theorem exists_resolver (h : Readable root) (d : ResolverSettings) (aliases : AliasTable) :
    ∃ s, ConfiguresResolver root d s ∧ s.aliases = aliases := by
  obtain ⟨rust, hrust⟩ := h.exists_list "ecosystems" "rust_prefixes" (by decide) d.rustPrefixes
  obtain ⟨cpp, hcpp⟩ := h.exists_list "ecosystems" "cpp_prefixes" (by decide) d.cppPrefixes
  obtain ⟨registry, hregistry⟩ :=
    h.exists_string "ecosystems" "crate_registry" (by decide) d.crateRegistry
  exact ⟨⟨aliases, rust, cpp, registry, d.externalCap, d.crateCap⟩,
    ⟨h.sections "ecosystems" (by decide), hrust, hcpp, hregistry, rfl, rfl⟩, rfl⟩

theorem exists_schema (h : Readable root) (d : SchemaSettings) : ∃ s, ConfiguresSchema root d s := by
  obtain ⟨compiler, hcompiler⟩ := h.exists_string "schema" "compiler" (by decide) d.compiler
  obtain ⟨plugin, hplugin⟩ := h.exists_string "schema" "plugin" (by decide) d.plugin
  obtain ⟨paths, hpaths⟩ := h.exists_list "schema" "import_paths" (by decide) d.importPaths
  obtain ⟨targets, htargets⟩ := h.exists_list "schema" "build_targets" (by decide) d.buildTargets
  obtain ⟨file, hfile⟩ := h.exists_string "schema" "compat_file" (by decide) d.compatFile
  exact ⟨⟨compiler, plugin, paths, targets, file⟩, h.sections "schema" (by decide), hcompiler, hplugin,
    hpaths, htargets, hfile⟩

end Readable

theorem Configures.readable {d s : Settings} (h : Configures root d s)
    (hrange : root.all isMemberInRange = true) (haliases : (readAliases? root).isSome = true) :
    Readable root := by
  have hread : ∀ {α : Type} {read? : Value → Option α} {given : Option Value} {default x : α},
      Chosen read? given default x → ∀ v ∈ given, (read? v).isSome = true :=
    fun hx => exists_chosen_iff.mp ⟨_, hx⟩
  obtain ⟨hsearch, hgraph, hresolver, hschema⟩ := h
  refine ⟨List.all_eq_true.mp hrange, ?_, ?_, ?_, hread hsearch.maxResults,
    isSome_readAliases?_iff.mp haliases⟩
  · simp only [List.forall_mem_cons]
    exact ⟨hsearch.readable, hgraph.readable, hresolver.readable, hschema.readable, by simp⟩
  · simp only [stringKeys, List.forall_mem_cons]
    exact ⟨hread hsearch.sourceDir, hread hsearch.headerGlob, hread hsearch.implGlob,
      hread hgraph.tool, hread hgraph.internalScope, hread hgraph.internalPrefix,
      hread hgraph.domainStripPrefix, hread hresolver.crateRegistry, hread hschema.compiler,
      hread hschema.plugin, hread hschema.compatFile, by simp⟩
  · simp only [listKeys, List.forall_mem_cons]
    exact ⟨hread hgraph.noisePrefixes, hread hresolver.rustPrefixes, hread hresolver.cppPrefixes,
      hread hschema.importPaths, hread hschema.buildTargets, by simp⟩

/-- **When a document gives settings**: exactly if every part that is looked at can be read. -/
theorem exists_ofMembers?_iff (d : Settings) :
    (∃ s, ofMembers? root d = some s) ↔ Readable root := by
  constructor
  · rintro ⟨s, hs⟩
    obtain ⟨hrange, hconfigures, as, has, -⟩ := ofMembers?_eq_some_iff.mp hs
    exact hconfigures.readable hrange (Option.isSome_of_eq_some has)
  · intro h
    obtain ⟨as, has⟩ := Option.isSome_iff_exists.mp (isSome_readAliases?_iff.mpr h.aliases)
    obtain ⟨search, hsearch⟩ := h.exists_search d.search
    obtain ⟨graph, hgraph⟩ := h.exists_graph d.graph
    obtain ⟨resolver, hresolver, haliases⟩ :=
      h.exists_resolver d.resolver (addAliases d.resolver.aliases as)
    obtain ⟨schema, hschema⟩ := h.exists_schema d.schema
    refine ⟨⟨search, graph, resolver, schema⟩, ofMembers?_eq_some_iff.mpr ⟨?_, ?_, as, has, haliases⟩⟩
    · exact List.all_eq_true.mpr h.in_range
    · exact ⟨hsearch, hgraph, hresolver, hschema⟩

/-! ### The alias table -/

theorem repo?_cons (short repo : String) (t : AliasTable) (k : String) :
    AliasTable.repo? ((short, repo) :: t) k = if short = k then some repo else t.repo? k := by
  by_cases h : short = k
  · simp [AliasTable.repo?, h]
  · simp [AliasTable.repo?, h]

theorem repo?_insert (t : AliasTable) (short repo k : String) :
    (AliasTable.insert short repo t).repo? k = if short = k then some repo else t.repo? k := by
  induction t with
  | nil => exact repo?_cons short repo [] k
  | cons a t ih =>
    obtain ⟨key, value⟩ := a
    rw [AliasTable.insert]
    by_cases hlt : short < key
    · rw [if_pos hlt]
      exact repo?_cons short repo _ k
    · rw [if_neg hlt]
      by_cases heq : short = key
      · subst heq
        rw [if_pos rfl, repo?_cons, repo?_cons]
        by_cases h : short = k
        · rw [if_pos h, if_pos h]
        · rw [if_neg h, if_neg h, if_neg h]
      · rw [if_neg heq, repo?_cons, repo?_cons, ih]
        by_cases hkey : key = k
        · -- the alias goes under another name than that of the first entry
          have hshort : short ≠ k := fun h => heq (h.trans hkey.symm)
          rw [if_pos hkey, if_pos hkey, if_neg hshort]
        · rw [if_neg hkey, if_neg hkey]

/-- Whether an entry decides for the names with a lower-case form. -/
def isEntryFor (k : String) (e : String × String) : Bool := lowerString e.1 == k

/-- **What is put in last counts**, and what was there before where nothing is put in. -/
theorem repo?_addAliases (t : AliasTable) (as : List (String × String)) (k : String) :
    (addAliases t as).repo? k =
      ((as.filter (isEntryFor k)).getLast?.map Prod.snd).or (t.repo? k) := by
  induction as using List.reverseRecOn with
  | nil => rfl
  | append_singleton as a ih =>
    have hadd : addAliases t (as ++ [a]) =
        AliasTable.insert (lowerString a.1) a.2 (addAliases t as) := List.foldl_concat ..
    rw [hadd, repo?_insert, List.filter_append]
    by_cases h : lowerString a.1 = k
    · have hentry : isEntryFor k a = true := beq_iff_eq.mpr h
      rw [if_pos h, List.filter_cons_of_pos hentry, List.filter_nil, List.getLast?_concat]
      rfl
    · have hother : ¬ isEntryFor k a = true := fun hentry => h (beq_iff_eq.mp hentry)
      rw [if_neg h, List.filter_cons_of_neg hother, List.filter_nil, List.append_nil]
      exact ih

/-- Whether the document has one entry only for the names that a short name stands for. -/
def SoleAlias (root : Members) (short repo : String) : Prop :=
  (aliasEntries root).filter (isEntryFor (lowerString short)) = [(short, repo)]

/-- The alias table of settings that a document configures: an entry without a rival counts, and the
default where there is no entry. -/
theorem repo?_aliases {d s : Settings} (h : ofMembers? root d = some s) :
    (∀ short repo, SoleAlias root short repo →
      s.resolver.aliases.repo? (lowerString short) = some repo) ∧
    ∀ k, (∀ e ∈ aliasEntries root, lowerString e.1 ≠ k) →
      s.resolver.aliases.repo? k = d.resolver.aliases.repo? k := by
  obtain ⟨-, -, as, has, haliases⟩ := ofMembers?_eq_some_iff.mp h
  have hperm := perm_aliasEntries has
  rw [haliases]
  constructor
  · intro short repo hsole
    have hentry : as.filter (isEntryFor (lowerString short)) = [(short, repo)] := by
      have hfilter := hperm.filter (isEntryFor (lowerString short))
      rw [show (aliasEntries root).filter _ = _ from hsole] at hfilter
      exact List.perm_singleton.mp hfilter
    rw [repo?_addAliases, hentry]
    rfl
  · intro k hnone
    have hempty : as.filter (isEntryFor k) = [] := by
      rw [List.filter_eq_nil_iff]
      intro e he hentry
      exact hnone e (hperm.mem_iff.mp he) (beq_iff_eq.mp hentry)
    rw [repo?_addAliases, hempty]
    rfl

end Settings

/-! ### The first query -/

/-- What the build graph is asked first when a reference is resolved. -/
def firstQuery? (g : AnsweringGraph) (t : ResolverSettings) (r : Reference) : Option String :=
  ((resolve g.recorded t r).run []).2.head?

/-- **The repository that a name stands for is asked for first.** -/
theorem firstQuery?_eq {g : AnsweringGraph} {t : ResolverSettings} {r : Reference}
    (hcap : 1 ≤ t.crateCap) (hrust : r.ecosystem ≠ some .rust) (hname : r.name ≠ "")
    (hcan : r.isCanonical = false) :
    firstQuery? g t r = some (repoName (aliasTarget t r.name) ++ "//...") := by
  obtain ⟨out, hfollows, hout⟩ := exists_follows (g := g) hcap hname hcan
  obtain ⟨rest, hrest⟩ : ∃ rest, strategies t r =
      .externalRepo (repoName (aliasTarget t r.name)) :: rest := by
    rw [strategies, if_neg hrust, List.append_assoc]
    exact ⟨_, rfl⟩
  rw [firstQuery?, hout]
  rw [hrest] at hfollows
  cases hfollows with
  | found k => rfl
  | exhausted => rfl

theorem firstQuery?_of_repo? {g : AnsweringGraph} {t : ResolverSettings} {r : Reference}
    {repo : String} (hcap : 1 ≤ t.crateCap) (hrust : r.ecosystem ≠ some .rust) (hname : r.name ≠ "")
    (hcan : r.isCanonical = false) (h : t.aliases.repo? (lowerString r.name) = some repo) :
    firstQuery? g t r = some (repoName repo ++ "//...") := by
  rw [firstQuery?_eq hcap hrust hname hcan, aliasTarget, h]
  rfl

/-- **What is configured takes effect.**  A document gives settings exactly if every part of it that is
looked at can be read.  Then every setting has the value that is given for it, and its default if none is
given.  A name that no qualifier binds to Rust leads first to the repository of the alias entry with its
lower-case form, if there is one and no second one; a built-in alias without such an entry counts as
before. -/
theorem configured_values_take_effect (root : Members) :
    ((∃ c, Settings.ofMembers? root {} = some c) ↔ Settings.Readable root) ∧
    ∀ c, Settings.ofMembers? root {} = some c →
      Settings.Configures root {} c ∧
      ∀ (g : AnsweringGraph) (r : Reference), r.ecosystem ≠ some .rust → r.name ≠ "" →
        r.isCanonical = false →
        (∀ short repo, Settings.SoleAlias root short repo →
          lowerString r.name = lowerString short →
          firstQuery? g c.resolver r = some (repoName repo ++ "//...")) ∧
        ∀ a ∈ AliasTable.builtIn, (∀ e ∈ Settings.aliasEntries root, lowerString e.1 ≠ a.1) →
          lowerString r.name = a.1 →
          firstQuery? g c.resolver r = some (repoName a.2 ++ "//...") := by
  refine ⟨Settings.exists_ofMembers?_iff {}, fun c h => ?_⟩
  obtain ⟨-, hconfigures, -⟩ := Settings.ofMembers?_eq_some_iff.mp h
  obtain ⟨hsole, hnone⟩ := Settings.repo?_aliases h
  have hcap : 1 ≤ c.resolver.crateCap := by
    rw [hconfigures.resolver.crateCap]
    decide
  refine ⟨hconfigures, fun g r hrust hname hcan => ⟨?_, ?_⟩⟩
  · intro short repo hentry hlower
    apply firstQuery?_of_repo? hcap hrust hname hcan
    rw [hlower]
    exact hsole short repo hentry
  · intro a ha hfree hlower
    have hbuiltIn : ∀ b ∈ AliasTable.builtIn, AliasTable.builtIn.repo? b.1 = some b.2 := by
      decide +kernel
    apply firstQuery?_of_repo? hcap hrust hname hcan
    rw [hlower, hnone a.1 hfree]
    exact hbuiltIn a ha

/-- One built-in alias is replaced, in another letter case, and another one is kept. -/
theorem configured_values_take_effect_v8 :
    let aliases := [("V8", Value.string "v8-fork"), ("Zlib", Value.string "@zlib-ng")]
    let root : Members := [("graph", .table .headed [("tool", .string "bazelisk")]),
      ("aliases", .table .headed aliases)]
    let c : Settings := {
      graph := { tool := "bazelisk" }
      resolver := { aliases := [("boringssl", "ssl"), ("capnp", "capnp-cpp"),
        ("capnproto", "capnp-cpp"), ("cxx", "workerd-cxx"), ("icu", "com_googlesource_chromium_icu"),
        ("kj", "capnp-cpp"), ("openssl", "ssl"), ("sqlite", "sqlite3"), ("v8", "v8-fork"),
        ("zlib", "@zlib-ng")] } }
    Settings.Readable root ∧ Settings.ofMembers? root {} = some c ∧ Settings.Configures root {} c ∧
    Settings.SoleAlias root "V8" "v8-fork" ∧
    ∀ g : AnsweringGraph,
      firstQuery? g c.resolver ⟨some .cpp, "v8"⟩ = some "@v8-fork//..." ∧
      firstQuery? g c.resolver ⟨none, "OpenSSL"⟩ = some "@ssl//..." := by
  intro aliases root c
  have hread : Settings.readAliases? root = some [("V8", "v8-fork"), ("Zlib", "@zlib-ng")] :=
    congrArg some (List.mergeSort_of_pairwise (by decide))
  have h : Settings.ofMembers? root {} = some c := by
    rw [Settings.ofMembers?, Settings.readResolver?, hread]
    decide +kernel
  have hsole : Settings.SoleAlias root "V8" "v8-fork" := by
    rw [Settings.SoleAlias]
    decide +kernel
  have hfree : ∀ e ∈ Settings.aliasEntries root, lowerString e.1 ≠ "openssl" := by decide +kernel
  obtain ⟨hreadable, heffect⟩ := configured_values_take_effect root
  obtain ⟨hconfigures, hqueries⟩ := heffect c h
  refine ⟨hreadable.mp ⟨c, h⟩, h, hconfigures, hsole, fun g => ⟨?_, ?_⟩⟩
  · have hv8 := hqueries g ⟨some .cpp, "v8"⟩ (by decide) (by decide) (by decide)
    exact hv8.1 "V8" "v8-fork" hsole (by decide +kernel)
  · have hssl := hqueries g ⟨none, "OpenSSL"⟩ (by decide) (by decide) (by decide)
    exact hssl.2 ("openssl", "ssl") (by decide) hfree (by decide +kernel)

end DeclAtlas
