import DeclAtlas.Dependency.Resolver
import DeclAtlas.Path

/-!
# Dependency reports

A report answers what a target depends on, or what depends on it, with labels grouped by component
or repository.  Dependents are looked for in the internal scope only.
-/

namespace DeclAtlas

open Text

/-- Which way dependencies are followed. -/
inductive Direction where
  /-- What the target depends on. -/
  | forward
  /-- What depends on the target. -/
  | reverse
  deriving Repr, DecidableEq

/-- How widely a dependency is used. -/
inductive Breadth where
  | unused
  | narrow
  | moderate
  | broad
  deriving Repr, DecidableEq

/-- The breadth of use by a number of components. -/
def Breadth.ofCount (domains : Nat) : Breadth :=
  if domains = 0 then .unused
  else if domains = 1 then .narrow
  else if domains ≤ 3 then .moderate
  else .broad

/-- A breadth as reports name it. -/
def Breadth.text : Breadth → String
  | .unused => "unused"
  | .narrow => "narrow"
  | .moderate => "moderate"
  | .broad => "broad"

/-- A breadth as it begins a sentence. -/
def Breadth.title : Breadth → String
  | .unused => "Unused"
  | .narrow => "Narrow"
  | .moderate => "Moderate"
  | .broad => "Broad"

/-- What a target depends on or what depends on it. -/
structure DependencyReport where
  reference : String
  /-- Which way dependencies were followed. -/
  direction : Direction
  /-- The labels of the reference. -/
  labels : List String
  /-- How the labels were found, where that is not plain. -/
  note : Option String
  /-- Internal dependencies by component. -/
  internalDeps : LabelGroups
  /-- External dependencies by repository. -/
  externalDeps : LabelGroups
  /-- Dependents by component. -/
  reverseDeps : LabelGroups
  deriving Repr, DecidableEq

namespace DependencyReport

/-- The number of internal dependencies. -/
def internalTotal (r : DependencyReport) : Nat := r.internalDeps.total

/-- The number of external dependencies. -/
def externalTotal (r : DependencyReport) : Nat := r.externalDeps.total

/-- The number of dependents. -/
def reverseTotal (r : DependencyReport) : Nat := r.reverseDeps.total

/-- How widely the target is used. -/
def breadth (r : DependencyReport) : Breadth := .ofCount r.reverseDeps.length

end DependencyReport

/-- Labels in ascending order. -/
def sortLabels (labels : List String) : List String := labels.mergeSort (fun a b => decide (a ≤ b))

/-- A sorted list without repetitions. -/
def dropRepeats : List String → List String
  | [] => []
  | [a] => [a]
  | a :: b :: r => if a = b then dropRepeats (b :: r) else a :: dropRepeats (b :: r)

/-- The labels of a list, each once and in ascending order. -/
def labelSet (labels : List String) : List String := dropRepeats (sortLabels labels)

/-- The dependencies of a label that are reported: neither itself nor noise. -/
def reported (s : GraphSettings) (label : String) (answer : List String) : List String :=
  answer.filter fun l => l != label && !Label.isNoise s l

/-- The internal labels among some, in ascending order. -/
def internalLabels (s : GraphSettings) (ls : List String) : List String :=
  sortLabels (ls.filter (Label.isInternal s))

/-- The external labels among some, in ascending order. -/
def externalLabels (s : GraphSettings) (ls : List String) : List String :=
  sortLabels (ls.filter fun l => !Label.isInternal s l && Label.isExternal l)

/-- The report on what a label depends on, from the answers for its dependencies and its
dependents. -/
def forwardReport (s : GraphSettings) (target label : String) (deps dependents : List String) :
    DependencyReport where
  reference := target
  direction := .forward
  labels := [label]
  note := none
  internalDeps := Label.groupByDomain s (internalLabels s (reported s label deps))
  externalDeps := Label.groupByRepo (externalLabels s (reported s label deps))
  reverseDeps := Label.groupByDomain s
    (labelSet (dependents.filter fun l => l != label && Label.isInternal s l))

/-- The report on what depends on some labels, from the answers for each. -/
def reverseReport (s : GraphSettings) (reference : String) (r : Resolution)
    (dependents : List (List String)) : DependencyReport where
  reference := reference
  direction := .reverse
  labels := r.labels
  note := r.note
  internalDeps := []
  externalDeps := []
  reverseDeps := Label.groupByDomain s (labelSet (dependents.flatten.filter (Label.isInternal s)))

/-- The query for what a label depends on. -/
def depsQuery (label : String) (depth : Nat) : String :=
  "deps(" ++ label ++ ", " ++ toString depth ++ ")"

/-- The query for what depends on a label inside the internal scope. -/
def rdepsQuery (s : GraphSettings) (label : String) (depth : Nat) : String :=
  "rdeps(" ++ s.internalScope ++ ", " ++ label ++ ", " ++ toString depth ++ ")"

theorem depsQuery_eq (label : String) (depth : Nat) :
    depsQuery label depth = "deps(" ++ ", ".intercalate [label, toString depth] ++ ")" := by
  simp [depsQuery, String.intercalate_cons_of_ne_nil, String.append_assoc]

theorem rdepsQuery_eq (s : GraphSettings) (label : String) (depth : Nat) :
    rdepsQuery s label depth =
      "rdeps(" ++ ", ".intercalate [s.internalScope, label, toString depth] ++ ")" := by
  simp [rdepsQuery, String.intercalate_cons_of_ne_nil, String.append_assoc]

/-- The file that a plain name stands for. -/
def sourceFile (name : String) : String :=
  if startsWith "src/".toList name.toList then name else "src/" ++ name

/-- The directory of a source file. -/
def sourceDirectory (file : String) : String := (Path.parent? file).getD ""

/-- The rule of a directory that a source file belongs to: one named after the file, or else the
first. -/
def ruleFor? (file : String) (rules : List String) : Option String :=
  let named := rules.find? fun l => endsWith (':' :: ((Path.fileStem? file).getD "").toList) l.toList
  named.or rules.head?

/-- The label that a directory has by default. -/
def defaultLabel (dir : String) : String :=
  "//" ++ dir ++ ":" ++ (Path.fileName? dir).getD ""

section

variable {m : Type → Type} [Monad m]

/-- The label of the target whose dependencies are asked for.  A plain name is taken for a source
file, whose directory is asked for its rules. -/
def resolveTarget (graph : GraphAsker m) (t : ResolverSettings) (target : String) :
    m (Except ResolveError String) :=
  let r := Reference.parse t target
  if r.name.isEmpty then pure (.error (.input .emptyReference))
  else if r.isCanonical then pure (.ok r.name)
  else match r.ecosystem with
    | some _ => do
      match ← resolve graph t r with
      | .error e => pure (.error e)
      | .ok resolution =>
        match resolution.labels with
        | l :: _ => pure (.ok l)
        | [] => pure (.error (.unresolved ⟨r.name, r.ecosystem, []⟩))
    | none => do
      let file := sourceFile r.name
      let dir := sourceDirectory file
      let rules ← askGraph graph ("kind(\"rule\", //" ++ dir ++ "/...)")
      pure (.ok ((ruleFor? file rules).getD (defaultLabel dir)))

/-- The report on what a target depends on, with its direct dependents. -/
def forwardDependencies (graph : GraphAsker m) (t : ResolverSettings) (s : GraphSettings)
    (target : String) (depth : Nat) : m (Except ResolveError DependencyReport) := do
  match ← resolveTarget graph t target with
  | .error e => pure (.error e)
  | .ok label =>
    let deps ← askGraph graph (depsQuery label depth)
    let dependents ← askGraph graph (rdepsQuery s label 1)
    pure (.ok (forwardReport s target label deps dependents))

/-- The report on what depends on a reference. -/
def reverseDependencies (graph : GraphAsker m) (t : ResolverSettings) (s : GraphSettings)
    (reference : String) (depth : Nat) : m (Except ResolveError DependencyReport) := do
  match ← resolve graph t (Reference.parse t reference) with
  | .error e => pure (.error e)
  | .ok r =>
    let answers ← r.labels.mapM fun l => askGraph graph (rdepsQuery s l depth)
    pure (.ok (reverseReport s reference r answers))

/-- The dependency report on a target; blanks around the target do not count. -/
def dependencies (graph : GraphAsker m) (t : ResolverSettings) (s : GraphSettings)
    (target : String) (direction : Direction) (depth : Nat) :
    m (Except ResolveError DependencyReport) :=
  match direction with
  | .forward => forwardDependencies graph t s (trimString target) depth
  | .reverse => reverseDependencies graph t s (trimString target) depth

end

end DeclAtlas
