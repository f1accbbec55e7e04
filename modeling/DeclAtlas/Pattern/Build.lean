import DeclAtlas.Pattern.Basic

/-!
# Building patterns

The patterns that are read from texts are simplified while they are put together.  A set without
members matches nothing, a choice between single characters is a set, branches that begin alike
share their beginning (`choice`), and repeating what only matches the empty text adds nothing
(`repeated`).
-/

namespace DeclAtlas.Pattern

/-- The pattern of one character of a set. -/
def ofSet (s : CharSet) : Pattern := if s.isEmpty then .never else .one s

/-- Whether only the empty text can match. -/
def isIdle : Pattern → Bool
  | .never | .one _ => false
  | .empty | .place _ => true
  | .seq p q | .alt p q => p.isIdle && q.isIdle
  | .again _ most p => most.isSome && p.isIdle
  | .group p => p.isIdle

/-- A pattern repeated between `least` and `most` times.  What only matches the empty text is repeated
at most once. -/
def repeated (least : Nat) (most : Option Nat) (p : Pattern) : Pattern :=
  let (least, most) :=
    if p.isIdle then (min least 1, some (min (most.getD 1) 1)) else (least, most)
  if most = some 0 then .empty
  else if least = 1 ∧ most = some 1 then p
  else .again least most p

/-- Whether a pattern has a group. -/
def hasGroup : Pattern → Bool
  | .never | .empty | .one _ | .place _ => false
  | .seq p q | .alt p q => p.hasGroup || q.hasGroup
  | .again _ _ p => p.hasGroup
  | .group _ => true

/-- The set of a pattern that matches single characters. -/
def set? : Pattern → Option CharSet
  | .never => some .nothing
  | .one s => some s
  | _ => none

/-- Whether a pattern is a given character. -/
def isCharacter (p : Pattern) : Bool := p.set?.any CharSet.isSingle

/-- Whether a pattern begins with a given character. -/
def startsWithCharacter : Pattern → Bool
  | .seq p _ => p.isCharacter
  | p => p.isCharacter

/-- Parts of a sequence with characters in a row put together. -/
def joinCharacters : List Pattern → List Pattern
  | [] => []
  | p :: ps =>
    match joinCharacters ps with
    | [] => [p]
    | q :: qs =>
      if p.isCharacter && q.startsWithCharacter then .seq p q :: qs else p :: q :: qs

/-- What two sequences have in common at their beginnings; groups are never the same. -/
def commonFront : List Pattern → List Pattern → List Pattern
  | p :: ps, q :: qs => if p = q && !p.hasGroup then p :: commonFront ps qs else []
  | _, _ => []

/-- A choice between patterns; branches that are choices themselves are taken apart. -/
def plainChoice (ps : List Pattern) : Pattern :=
  match ps.flatMap branches with
  | [p] => p
  | ps =>
    match ps.mapM set? with
    | some sets => ofSet (.unionOf sets)
    | none => anyOf ps

/-- A choice between patterns, the common beginning of all branches taken out. -/
def choice (ps : List Pattern) : Pattern :=
  match (ps.flatMap branches).map fun p => joinCharacters p.parts with
  | l :: m :: ls =>
    let front := (m :: ls).foldl commonFront l
    if front.isEmpty || (l :: m :: ls).any (·.length < 2) then plainChoice ps
    else inOrder (front ++ [plainChoice ((l :: m :: ls).map fun l => inOrder (l.drop front.length))])
  | _ => plainChoice ps

end DeclAtlas.Pattern
