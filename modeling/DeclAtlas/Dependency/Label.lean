import DeclAtlas.Settings
import DeclAtlas.Text.Find

/-!
# Build labels

A label names a build target: `//package:target` inside the project, `@repo//package:target`
outside.  Internal labels are grouped by the component that owns them, external ones by their
repository.
-/

namespace DeclAtlas

open Text

/-- Labels by group, sorted by the name of the group. -/
abbrev LabelGroups := List (String × List String)

namespace LabelGroups

/-- Appends a label to its group. -/
def add (group label : String) : LabelGroups → LabelGroups
  | [] => [(group, [label])]
  | (g, ls) :: gs =>
    if group < g then (group, [label]) :: (g, ls) :: gs
    else if group = g then (g, ls ++ [label]) :: gs
    else (g, ls) :: add group label gs

/-- Groups labels by a name each; a group keeps the order of the labels. -/
def groupBy (name : String → String) (labels : List String) : LabelGroups :=
  labels.foldl (fun gs l => add (name l) l gs) []

/-- The number of labels in all groups. -/
def total (gs : LabelGroups) : Nat := gs.foldr (fun g n => g.2.length + n) 0

end LabelGroups

namespace Label

/-- Whether a text is a label already: `//…` or `@…`. -/
def isCanonical (s : List Char) : Bool := startsWith ['/', '/'] s || startsWith ['@'] s

/-- Whether a label begins with one of the prefixes of no interest. -/
def isNoise (s : GraphSettings) (label : String) : Bool :=
  s.noisePrefixes.any fun p => startsWith p.toList label.toList

/-- Whether a label is inside the project. -/
def isInternal (s : GraphSettings) (label : String) : Bool :=
  startsWith s.internalPrefix.toList label.toList

/-- Whether a label is outside the project. -/
def isExternal (label : String) : Bool := startsWith ['@'] label.toList

/-- The package path of an internal label below the internal prefix, if it is not empty. -/
def packageBelow? (s : GraphSettings) (label : String) : Option (List Char) := do
  let rest ← dropLead? s.internalPrefix.toList label.toList
  let (package, _) ← cut? [':'] rest
  if package.isEmpty then none else some package

/-- The component that owns a label; `other` where the label names no package. -/
def domain (s : GraphSettings) (label : String) : String :=
  match packageBelow? s label with
  | some p => String.ofList ((dropLead? s.domainStripPrefix.toList p).getD p)
  | none => "other"

/-- The part of a label before its package. -/
def head (label : List Char) : List Char :=
  match cut? ['/', '/'] label with
  | some (h, _) => h
  | none => label

/-- The repository of an external label.  A canonical name `@@a+b+` comes down to its last
non-empty part between plus signs, so extension prefixes and version marks fall away. -/
def repo (label : String) : String :=
  let h := head label.toList
  match dropLead? ['@', '@'] h with
  | none => String.ofList h
  | some seg =>
    match (pieces '+' seg).reverse.find? (!·.isEmpty) with
    | some bare => String.ofList ('@' :: bare)
    | none => String.ofList h

/-- Labels by owning component. -/
def groupByDomain (s : GraphSettings) (labels : List String) : LabelGroups :=
  LabelGroups.groupBy (domain s) labels

/-- Labels by repository. -/
def groupByRepo (labels : List String) : LabelGroups := LabelGroups.groupBy repo labels

end Label

end DeclAtlas
