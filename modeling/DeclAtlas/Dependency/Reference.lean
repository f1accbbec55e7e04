import DeclAtlas.Dependency.Label
import DeclAtlas.Text.CharClass

/-!
# References to dependencies

A user names a dependency by a label or by a short name, which a qualifier may bind to one
ecosystem.  Qualifiers are compared without regard to the case of ASCII letters, those of Rust
before those of C++, each in the configured order.
-/

namespace DeclAtlas

open Text

/-- Where a dependency comes from. -/
inductive Ecosystem where
  | cpp
  | rust
  deriving Repr, DecidableEq

/-- The ecosystem as messages name it. -/
def Ecosystem.text : Ecosystem → String
  | .cpp => "C++"
  | .rust => "Rust"

/-- A name with its qualifier split off. -/
structure Reference where
  /-- What the qualifier says. -/
  ecosystem : Option Ecosystem
  /-- The name without its qualifier. -/
  name : String
  deriving Repr, DecidableEq

namespace Reference

/-- What follows `w` in a text that begins with it, up to the case of ASCII letters. -/
def dropQualifier? : (w s : List Char) → Option (List Char)
  | [], s => some s
  | a :: w, b :: s => if a.toLower = b.toLower then dropQualifier? w s else none
  | _ :: _, [] => none

/-- The qualifiers in the order in which they are tried. -/
def qualifiers (t : ResolverSettings) : List (String × Ecosystem) :=
  t.rustPrefixes.map (·, .rust) ++ t.cppPrefixes.map (·, .cpp)

/-- The reference that a user's text stands for. -/
def parse (t : ResolverSettings) (input : String) : Reference :=
  let s := trim input.toList
  let found := (qualifiers t).findSome? fun q =>
    (dropQualifier? q.1.toList s).map fun rest => (⟨some q.2, String.ofList (trimStart rest)⟩)
  found.getD ⟨none, String.ofList s⟩

/-- Whether the name is a label already. -/
def isCanonical (r : Reference) : Bool := Label.isCanonical r.name.toList

end Reference

end DeclAtlas
