import DeclAtlas.Pattern.Basic

/-!
# Matching

A text is matched from left to right with the patterns that its rest may still have to match.  A
pattern that has taken a character leaves finitely many such patterns (`afterChar`), each of them a
piece of the pattern in front of pieces of itself, so their list stays short once repetitions of a
member are dropped.  A repetition counts down; where its pattern accepts the empty text, all times
that are still owed can be empty, so none is owed any more.  Conditions on places need the characters on both sides only, and both are at
hand at every step.

`isMatch` asks whether some part of the text matches, `matchesAll` whether the whole text does.
-/

namespace DeclAtlas.Pattern

/-- Whether the empty text between two characters matches. -/
def acceptsEmpty (before after : Option Char) : Pattern → Bool
  | .never => false
  | .empty => true
  | .one _ => false
  | .place p => p.holds before after
  | .seq p q => p.acceptsEmpty before after && q.acceptsEmpty before after
  | .alt p q => p.acceptsEmpty before after || q.acceptsEmpty before after
  | .again least _ p => least == 0 || p.acceptsEmpty before after
  | .group p => p.acceptsEmpty before after

/-- What remains of a repetition after one more time: nothing if that was the last time. -/
def remaining (least : Nat) (most : Option Nat) (p : Pattern) : Pattern :=
  match most with
  | none => .again least none p
  | some m => if m ≤ 1 then .empty else .again least (some (m - 1)) p

/-- The patterns that the rest of a text has to match, one of them, after the character `c`. -/
def afterChar (before : Option Char) (c : Char) : Pattern → List Pattern
  | .never => []
  | .empty => []
  | .one s => if s.contains c then [.empty] else []
  | .place _ => []
  | .seq p q =>
    let first := (p.afterChar before c).map (andThen · q)
    if p.acceptsEmpty before (some c) then first ++ q.afterChar before c else first
  | .alt p q => p.afterChar before c ++ q.afterChar before c
  | .again least most p =>
    if most == some 0 then []
    else
      let least := if p.acceptsEmpty before (some c) then 0 else least - 1
      (p.afterChar before c).map (andThen · (remaining least most p))
  | .group p => p.afterChar before c

/-- The members of a list, each once. -/
def distinct : List Pattern → List Pattern
  | [] => []
  | p :: ps =>
    let rest := distinct ps
    if rest.contains p then rest else p :: rest

/-- The patterns that remain after the character `c`, each once. -/
def advance (ps : List Pattern) (before : Option Char) (c : Char) : List Pattern :=
  distinct (ps.flatMap (afterChar before c))

/-- Whether one of some patterns matches the beginning of a text, or `p` some part of it. -/
def findFrom (p : Pattern) (ps : List Pattern) (before : Option Char) : List Char → Bool
  | [] => (p :: ps).any (acceptsEmpty before none)
  | c :: r =>
    (p :: ps).any (acceptsEmpty before (some c)) ||
      findFrom p (advance (p :: ps) before c) (some c) r

/-- Whether some part of a text matches. -/
def isMatch (p : Pattern) (s : List Char) : Bool := p.findFrom [] none s

/-- Whether one of some patterns matches a whole text. -/
def matchesFrom (ps : List Pattern) (before : Option Char) : List Char → Bool
  | [] => ps.any (acceptsEmpty before none)
  | c :: r => matchesFrom (advance ps before c) (some c) r

/-- Whether the whole of a text matches. -/
def matchesAll (p : Pattern) (s : List Char) : Bool := matchesFrom [p] none s

theorem mem_distinct {p : Pattern} {ps : List Pattern} : p ∈ distinct ps ↔ p ∈ ps := by
  induction ps with
  | nil => simp [distinct]
  | cons q ps ih =>
    simp only [distinct, List.contains_eq_mem, decide_eq_true_eq]
    by_cases h : q ∈ distinct ps <;> grind

end DeclAtlas.Pattern
