import DeclAtlas.Glob.Basic

/-!
# Reading globs

Two stars mean directories only where they stand alone between slashes or the ends of the glob;
elsewhere they are two single stars.  Braces hold alternatives and may be nested.  A bracket that is
not closed is an error, or stands for itself where the reader is lenient; what stands after it is
read for ranges all the same, and a range whose end lies before its start is always an error.
-/

namespace DeclAtlas.Glob

/-- What a text after an opening bracket holds. -/
inductive SetReading where
  /-- A set, and the text after its closing bracket. -/
  | closed (ranges : List (Char × Char)) (rest : List Char)
  /-- A range whose end lies before its start. -/
  | reversed
  /-- No closing bracket. -/
  | unclosed

/-- Reads the ranges of a set up to its closing bracket.  `ranges` are those read before, the last
one first; with `open_`, a hyphen waits for the end of a range. -/
def ranges (before : List (Char × Char)) (open_ : Bool) : List Char → SetReading
  | [] => .unclosed
  | c :: r =>
    match before with
    | [] => ranges [(c, c)] false r
    | (a, b) :: earlier =>
      if open_ then
        if c = ']' then .closed ((('-', '-') :: before).reverse) r
        else if a ≤ c then ranges ((a, c) :: earlier) false r
        else .reversed
      else if c = ']' then .closed before.reverse r
      else if c = '-' then ranges ((a, b) :: earlier) true r
      else ranges ((c, c) :: before) false r

/-- A text without the sign of a complement, and whether it begins with one. -/
def complement : List Char → Bool × List Char
  | '!' :: r => (true, r)
  | '^' :: r => (true, r)
  | r => (false, r)

/-- How opening brackets are read. -/
inductive Brackets where
  /-- Each must be closed. -/
  | strict
  /-- The first one that is not closed stands for itself, and so do all after it. -/
  | lenient
  /-- Each stands for itself. -/
  | plain
  deriving Repr, DecidableEq

/-- Reads what an opening bracket, already taken, begins; gives how brackets are read from there
on, too. -/
def bracket? (mode : Brackets) (s : List Char) : Option (GlobItem × Brackets × List Char) :=
  if mode = .plain then some (.char '[', .plain, s)
  else
    let (negated, r) := complement s
    match ranges [] false r with
    | .closed rs t => some (.set negated rs, mode, t)
    | .reversed => none
    | .unclosed => if mode = .lenient then some (.char '[', .plain, s) else none

/-- What becomes of the elements before two stars that mean directories; `atEnd` tells whether
nothing follows.  The slash before them is part of what they mean. -/
def directories (atEnd : Bool) : List GlobItem → List GlobItem
  | .leading :: items => .leading :: items
  | .trailing :: items => .trailing :: items
  | _ :: items => (if atEnd then .trailing else .between) :: items
  | [] => []

/-- Reads two stars, which are already taken.  `items` are the elements before them, the last one
first, and `before` is the character before them; gives the new elements and the rest. -/
def twoStars (nested : Bool) (before : Option Char) (items : List GlobItem) (s : List Char) :
    List GlobItem × List Char :=
  let plain := (.many :: .many :: items, s)
  if items.isEmpty then
    match s with
    | [] => ([.leading], [])
    | '/' :: r => ([.leading], r)
    | _ => plain
  else if before != some '/' && !(nested && (before == some ',' || before == some '{')) then plain
  else match s with
    | [] => (directories true items, [])
    | '/' :: r => (directories false items, r)
    | ',' :: _ => if nested then (directories true items, s) else plain
    | '}' :: _ => if nested then (directories true items, s) else plain
    | _ => plain

/-- Reads a branch of a glob: up to a comma or a closing brace if it is nested in braces, else up to
the end.  The sign that ends it is left.  `fuel` bounds the number of elements. -/
def branch? (fuel : Nat) (mode : Brackets) (nested : Bool) (before : Option Char)
    (items : List GlobItem) (s : List Char) : Option (List GlobItem × Brackets × List Char) :=
  match fuel with
  | 0 => none
  | fuel + 1 =>
    match s with
    | [] => some (items.reverse, mode, [])
    | '?' :: r => branch? fuel mode nested (some '?') (.any :: items) r
    | '*' :: '*' :: r =>
      let (items, t) := twoStars nested before items r
      branch? fuel mode nested (some (if t.length < r.length then '/' else '*')) items t
    | '*' :: r => branch? fuel mode nested (some '*') (.many :: items) r
    | '[' :: r =>
      match bracket? mode r with
      | some (i, mode, t) =>
        branch? fuel mode nested (some (if t.length < r.length then ']' else '[')) (i :: items) t
      | none => none
    | '{' :: r =>
      match choices? fuel mode [] '{' r with
      | some (branches, mode, t) =>
        branch? fuel mode nested (some '}') (.choice branches :: items) t
      | none => none
    | '}' :: r => if nested then some (items.reverse, mode, '}' :: r) else none
    | ',' :: r =>
      if nested then some (items.reverse, mode, ',' :: r)
      else branch? fuel mode nested (some ',') (.char ',' :: items) r
    | '\\' :: c :: r => branch? fuel mode nested (some c) (.char c :: items) r
    | ['\\'] => none
    | c :: r => branch? fuel mode nested (some c) (.char c :: items) r
where
  /-- Reads the branches of a choice up to the closing brace, which is taken. -/
  choices? (fuel : Nat) (mode : Brackets) (branches : List (List GlobItem)) (before : Char)
      (s : List Char) : Option (List (List GlobItem) × Brackets × List Char) :=
    match fuel with
    | 0 => none
    | fuel + 1 =>
      match branch? fuel mode true (some before) [] s with
      | some (b, mode, ',' :: r) => choices? fuel mode (branches ++ [b]) ',' r
      | some (b, mode, '}' :: r) => some (branches ++ [b], mode, r)
      | _ => none

/-- The glob that a text writes, if it is well-formed. -/
def read? (mode : Brackets) (s : List Char) : Option Glob :=
  match branch? (2 * s.length + 2) mode false none [] s with
  | some (g, _, []) => some g
  | _ => none

end DeclAtlas.Glob
