import DeclAtlas.Pattern.Brackets
import DeclAtlas.Pattern.Build
import DeclAtlas.Pattern.Footprint
import DeclAtlas.Pattern.Match

/-!
# Reading patterns

A pattern is read item by item.  A repetition sign belongs to the item before it, so the items of a
branch are kept in a list, newest first; a setting of switches is an item that cannot be repeated.
Switches hold from where they are set to the end of their group.

Items are read together with the depth of their nesting: a group, a repetition, a sequence of several
items and a choice each lie one step above what they hold.  A pattern that is nested too deep or that
takes too much room is refused.
-/

namespace DeclAtlas.Pattern

open Text

/-- How deep a pattern may be nested. -/
def depthLimit : Nat := 250

/-- The number that ASCII digits at the beginning of a text write, blanks around them left out. -/
def repeatCount? (f : Switches) (s : List Char) : Option Nat × List Char :=
  let (digits, rest) := spelledWhile f Char.isDigit (s.dropWhile isBlank)
  (asciiNatBelow? 4294967296 digits, f.skip (rest.dropWhile isBlank))

/-- Reads a number of repetitions between braces, the opening one already taken. -/
def repeatRange? (f : Switches) (s : List Char) : Option ((Nat × Option Nat) × List Char) :=
  match repeatCount? f (f.skip s) with
  | (some n, '}' :: r) => some ((n, some n), f.skip r)
  | (some n, ',' :: r) =>
    match f.skip r with
    | '}' :: t => some ((n, none), f.skip t)
    | t =>
      match repeatCount? f t with
      | (some m, '}' :: u) => if n ≤ m then some ((n, some m), f.skip u) else none
      | _ => none
  | _ => none

/-- A text without the sign that makes a repetition reluctant. -/
def dropReluctance : List Char → List Char
  | '?' :: r => r
  | r => r

/-- Sets or resets a switch. -/
def Switches.set? (f : Switches) (on : Bool) : Char → Option Switches
  | 'i' => some { f with caseless := on }
  | 'm' => some { f with multiline := on }
  | 's' => some { f with dotAll := on }
  | 'U' => some f
  | 'u' => some { f with unicode := on }
  | 'x' => some { f with verbose := on }
  | 'R' => some { f with returns := on }
  | _ => none

/-- Reads settings of switches up to the sign that ends them, `)` or `:`.  No switch may be set
twice, and a minus sign must be followed by a switch. -/
def switches? (f : Switches) (on : Bool) (seen : List Char) :
    List Char → Option (Switches × Char × List Char)
  | [] => none
  | c :: r =>
    if c = ')' || c = ':' then
      if seen.head? = some '-' then none else some (f, c, r)
    else if c = '-' then
      if on then switches? f false ('-' :: seen) r else none
    else if seen.contains c then none
    else match f.set? on c with
      | some g => switches? g on (c :: seen) r
      | none => none

/-- Whether a character can begin the name of a group. -/
def isNameStart (c : Char) : Bool :=
  if c.toNat < 128 then c.isAlpha || c == '_' else Character.Derivation.letter.set.contains c

/-- Whether a character can stand in the name of a group. -/
def isNameChar (c : Char) : Bool :=
  if c.toNat < 128 then c.isAlphanum || c == '_' || c == '.' || c == '[' || c == ']'
  else Character.Derivation.letterOrNumber.set.contains c

/-- Reads the name of a group up to the sign that ends it. -/
def groupName? (s : List Char) : Option (List Char × List Char) := do
  let (name, rest) ← cut? ['>'] s
  match name with
  | [] => none
  | c :: r => if isNameStart c && r.all isNameChar then some (name, rest) else none

/-- The kinds of groups. -/
inductive GroupKind where
  /-- A group that only holds a pattern together. -/
  | plain
  /-- A group whose text can be asked for by number. -/
  | numbered
  /-- A group whose text can be asked for by name. -/
  | named (name : List Char)
  deriving Repr, DecidableEq

/-- The name of a group. -/
def GroupKind.name : GroupKind → Option (List Char)
  | named n => some n
  | _ => none

/-- What an opening parenthesis begins. -/
inductive Opening where
  /-- A group with the switches that hold in it. -/
  | group (f : Switches) (kind : GroupKind)
  | setting (f : Switches)

/-- Reads what follows an opening parenthesis. -/
def opening? (f : Switches) (s : List Char) : Option (Opening × List Char) :=
  match f.skip s with
  | '?' :: 'P' :: '<' :: r => (groupName? r).map fun (n, t) => (.group f (.named n), t)
  | '?' :: '<' :: r => (groupName? r).map fun (n, t) => (.group f (.named n), t)
  | '?' :: ')' :: _ => none
  | '?' :: r =>
    (switches? f true [] r).map fun (g, sign, t) =>
      (if sign = ')' then .setting g else .group g .plain, t)
  | t => some (.group f .numbered, t)

/-- An item of a branch. -/
inductive Item where
  | setting
  | part (p : Nested Pattern)
  deriving Repr, DecidableEq

/-- The pattern of an item; a setting matches the empty text. -/
def Item.nested : Item → Nested Pattern
  | setting => ⟨.empty, 0⟩
  | part p => p

/-- The items of a branch, newest first. -/
abbrev Branch := List Item

/-- The pattern of a branch. -/
def branchPattern (b : Branch) : Nested Pattern :=
  let members := b.map Item.nested
  ⟨inOrder (members.reverse.map Nested.value), depthTogether members⟩

/-- The choice between branches. -/
def choiceOf (branches : List (Nested Pattern)) : Nested Pattern :=
  match branches with
  | [p] => p
  | ps => ⟨choice (ps.map Nested.value), depthTogether ps⟩

/-- Reads a group up to its end, which is not taken; `names` are those of the groups before. -/
def group? (fuel : Nat) (f : Switches) (names : List (List Char)) (done : List (Nested Pattern))
    (b : Branch) (s : List Char) : Option (Nested Pattern × List (List Char) × List Char) :=
  match fuel with
  | 0 => none
  | fuel + 1 =>
    let next := fun (p : Pattern) (depth : Nat) (r : List Char) =>
      group? fuel f names done (.part ⟨p, depth⟩ :: b) r
    let again := fun (least : Nat) (most : Option Nat) (r : List Char) =>
      match b with
      | .part p :: rest =>
        let q := ⟨repeated least most p.value, p.depth + 1⟩
        group? fuel f names done (.part q :: rest) (dropReluctance r)
      | _ => none
    let finish := fun (_ : Unit) => choiceOf (branchPattern b :: done).reverse
    match f.skip s with
    | [] => some (finish (), names, [])
    | ')' :: r => some (finish (), names, ')' :: r)
    | '|' :: r => group? fuel f names (branchPattern b :: done) [] r
    | '*' :: r => again 0 none r
    | '+' :: r => again 1 none r
    | '?' :: r => again 0 (some 1) r
    | '{' :: r =>
      match repeatRange? f r with
      | some ((least, most), t) => again least most t
      | none => none
    | '[' :: r =>
      match brackets? f r with
      | some (set, t) => next (ofSet set.value) set.depth t
      | none => none
    | '(' :: r =>
      match opening? f r with
      | none => none
      | some (.setting g, t) => group? fuel g names done (.setting :: b) t
      | some (.group g kind, t) =>
        if kind.name.any names.contains then none
        else match group? fuel g (kind.name.toList ++ names) [] [] t with
          | some (p, names, ')' :: u) =>
            let q := if kind = .plain then p.value else .group p.value
            group? fuel f names done (.part ⟨q, p.depth + 1⟩ :: b) u
          | _ => none
    | '.' :: r =>
      match f.dot? with
      | some set => next (ofSet set) 0 r
      | none => none
    | '^' :: r => next (.place f.lineStart) 0 r
    | '$' :: r => next (.place f.lineEnd) 0 r
    | '\\' :: r =>
      match escape? f r with
      | some (.char c, t) => next (f.char c) 0 t
      | some (.set set, t) => next (ofSet set) 0 t
      | some (.place p, t) => next (.place p) 0 t
      | none => none
    | c :: r => next (f.char c) 0 r

/-- The pattern that a text writes, if it is well-formed and keeps the limits. -/
def ofString? (s : String) : Option Pattern :=
  match group? (s.length + 1) {} [] [] [] s.toList with
  | some (p, _, []) => if p.depth ≤ depthLimit && p.value.fits then some p.value else none
  | _ => none

/-- Whether a text writes a pattern that keeps the limits. -/
def isAdmitted (s : String) : Bool := (ofString? s).isSome

end DeclAtlas.Pattern
