import DeclAtlas.Dependency.Reference
import DeclAtlas.Input
import DeclAtlas.Sources
import DeclAtlas.Text.LowerCase

/-!
# Resolving names to labels

A short name is looked up by strategies in a fixed order, and the first one that yields labels
wins.  The external repository of the name, or of what it is an alias for, comes first; then the
crate registry, and the repositories named after the crate; at last the repository of the name as
written, if that has not been tried.  A qualifier leaves out the strategies of the other ecosystem.
-/

namespace DeclAtlas

open Text

/-- One way of finding labels. -/
inductive Strategy where
  /-- All targets of an external repository. -/
  | externalRepo (repo : String)
  /-- The targets of the crate registry whose labels mention the name. -/
  | crateRegistry (registry name : String)
  /-- The registry's repositories named after the crate. -/
  | crateRepository (registry name : String)
  deriving Repr, DecidableEq

namespace Strategy

/-- The query of a strategy. -/
def query : Strategy → String
  | .externalRepo repo => repo ++ "//..."
  | .crateRegistry registry _ => registry ++ "//..."
  | .crateRepository registry name =>
    "filter(\"" ++ String.ofList (registry.toList.dropWhile (· == '@')) ++ "__" ++ name ++
      "\", //external:all-targets)"

/-- A strategy as messages describe it. -/
def text (s : Strategy) : String :=
  match s with
  | .externalRepo _ => "external repository: `" ++ s.query ++ "`"
  | .crateRegistry _ name =>
    "Rust crate: `" ++ s.query ++ "` (labels containing `:" ++ name ++ "` or `/" ++ name ++ "`)"
  | .crateRepository _ _ => "Rust crate repository: `" ++ s.query ++ "`"

end Strategy

/-- A name that no strategy found. -/
structure Unresolved where
  reference : String
  /-- What its qualifier said. -/
  ecosystem : Option Ecosystem
  /-- The strategies tried, in order. -/
  tried : List Strategy
  deriving Repr, DecidableEq

/-- The message for a name that no strategy found. -/
def Unresolved.message (u : Unresolved) : String :=
  let lead := match u.ecosystem with
    | some e => "Could not resolve " ++ e.text ++ " dependency \"" ++ u.reference ++ "\".\n"
    | none => "Could not resolve \"" ++ u.reference ++ "\" to a dependency label.\n"
  let hint := match u.ecosystem with
    | some _ => ""
    | none => ", or qualify the name (`rust:" ++ u.reference ++ "` or `cpp:" ++ u.reference ++
        "`) to narrow the search"
  lead ++ "\nTried:\n" ++ String.join (u.tried.map fun s => "- " ++ s.text ++ "\n") ++
    "\nProvide a full label instead (e.g. `@ada-url//:ada`)" ++ hint ++ "."

/-- Why a reference has no labels. -/
inductive ResolveError where
  | input (e : InputError)
  | unresolved (u : Unresolved)
  deriving Repr, DecidableEq

/-- The message for a reference without labels. -/
def ResolveError.message : ResolveError → String
  | .input e => e.message
  | .unresolved u => u.message

/-- The labels of a reference, with a remark on how they were found. -/
structure Resolution where
  labels : List String
  /-- How they were found, where that is not plain. -/
  note : Option String
  deriving Repr, DecidableEq

/-- The name of a repository with its at sign. -/
def repoName (name : String) : String :=
  if startsWith ['@'] name.toList then name else "@" ++ name

/-- Whether a label has neither a nested package nor a nested target. -/
def isTopLevel (label : String) : Bool :=
  match cut? ['/', '/'] label.toList with
  | none => false
  | some (_, rest) =>
    match cut? [':'] rest with
    | none => false
    | some (package, target) => !package.contains '/' && !target.contains '/'

/-- The labels of an external repository that are kept: the top-level ones if there are any, and
no more than the cap. -/
def keepExternal (cap : Nat) (labels : List String) : List String :=
  let top := labels.filter isTopLevel
  (if top.isEmpty then labels else top).take cap

/-- Whether a label mentions a crate after a colon or slash; `needle` is in lower case. -/
def mentionsCrate (needle : List Char) (label : String) : Bool :=
  contains (':' :: needle) (lower label.toList) || contains ('/' :: needle) (lower label.toList)

/-- The labels that a strategy keeps of an answer. -/
def Strategy.keep (t : ResolverSettings) : Strategy → List String → List String
  | .externalRepo _, ls => keepExternal t.externalCap ls
  | .crateRegistry _ name, ls =>
    (ls.filter (mentionsCrate (lower name.toList))).take t.crateCap
  | .crateRepository _ _, ls => ls.take t.crateCap

/-- Whether an answer settles that the crate is in the registry.  The registry's repositories are
then not asked, even where the cap keeps none of the labels. -/
def Strategy.settlesCrate : Strategy → List String → Bool
  | .crateRegistry _ name, ls => ls.any (mentionsCrate (lower name.toList))
  | _, _ => false

/-- Whether a strategy asks for the repositories named after a crate. -/
def Strategy.isCrateRepository : Strategy → Bool
  | .crateRepository _ _ => true
  | _ => false

/-- The repository that a short name stands for. -/
def aliasTarget (t : ResolverSettings) (name : String) : String :=
  (t.aliases.repo? (lowerString name)).getD name

/-- The remark on a name that stands for another repository. -/
def aliasNote (t : ResolverSettings) (name : String) : Option String :=
  if aliasTarget t name = name then none
  else some ("Resolved alias \"" ++ name ++ "\" to \"" ++ aliasTarget t name ++ "\"")

/-- A strategy with the remark that its success calls for. -/
structure Attempt where
  strategy : Strategy
  note : Option String
  deriving Repr, DecidableEq

/-- The external repository that a name stands for. -/
def externalAttempt (t : ResolverSettings) (name : String) : Attempt :=
  ⟨.externalRepo (repoName (aliasTarget t name)), aliasNote t name⟩

/-- The attempts at finding a crate. -/
def crateAttempts (t : ResolverSettings) (name : String) : List Attempt :=
  [.crateRegistry t.crateRegistry name, .crateRepository t.crateRegistry name].map
    (⟨·, some "Resolved as Rust crate"⟩)

/-- The attempts at a reference, in order. -/
def plan (t : ResolverSettings) (r : Reference) : List Attempt :=
  let raw := Strategy.externalRepo (repoName r.name)
  match r.ecosystem with
  | some .cpp => [externalAttempt t r.name]
  | some .rust => crateAttempts t r.name
  | none =>
    externalAttempt t r.name :: crateAttempts t r.name ++
      if (externalAttempt t r.name).strategy = raw then [] else [⟨raw, none⟩]

section

variable {m : Type → Type} [Monad m]

/-- The labels that a query yields; none if it fails. -/
def askGraph (graph : GraphAsker m) (query : String) : m (List String) := do
  pure (orEmpty (← graph query))

/-- Makes attempts until one yields labels.  `settled` says that the crate has been found in its
registry, `tried` which strategies have been tried so far. -/
def attemptAll (graph : GraphAsker m) (t : ResolverSettings) (settled : Bool)
    (tried : List Strategy) : List Attempt → m (Except (List Strategy) Resolution)
  | [] => pure (.error tried)
  | a :: rest => do
    if settled && a.strategy.isCrateRepository then attemptAll graph t settled tried rest
    else
      let labels ← askGraph graph a.strategy.query
      match a.strategy.keep t labels with
      | [] =>
        attemptAll graph t (settled || a.strategy.settlesCrate labels) (tried ++ [a.strategy]) rest
      | l :: ls => pure (.ok ⟨l :: ls, a.note⟩)

/-- The labels of a reference. -/
def resolve (graph : GraphAsker m) (t : ResolverSettings) (r : Reference) :
    m (Except ResolveError Resolution) :=
  if r.name.isEmpty then pure (.error (.input .emptyReference))
  else if r.isCanonical then pure (.ok ⟨[r.name], none⟩)
  else do
    match ← attemptAll graph t false [] (plan t r) with
    | .ok resolution => pure (.ok resolution)
    | .error tried => pure (.error (.unresolved ⟨r.name, r.ecosystem, tried⟩))

end

end DeclAtlas
