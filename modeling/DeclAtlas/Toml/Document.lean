import DeclAtlas.Toml.Scalar

/-!
# TOML documents

A document is a list of statements: headers, and values assigned to keys below the last header.
`parse?` reads the statements and builds the tables; it gives nothing for a text that is no
document, such as one that defines a key twice.
-/

namespace DeclAtlas.Toml

open Text

/-- A text without its leading spaces. -/
def skipSpaces (s : List Char) : List Char := s.dropWhile isSpace

/-- The text after a comment, if one begins here. -/
def skipComment : List Char → List Char
  | '#' :: s => s.dropWhile isPlain
  | s => s

/-- What follows a line break. -/
def newline? : List Char → Option (List Char)
  | '\n' :: s => some s
  | '\r' :: '\n' :: s => some s
  | _ => none

/-- What follows the spaces and the comment at the end of a line, and its line break. -/
def endOfLine? (s : List Char) : Option (List Char) :=
  match skipComment (skipSpaces s) with
  | [] => some []
  | r => newline? r

/-- The text after spaces, comments and line breaks; `n` bounds their number. -/
def skipLines : Nat → List Char → List Char
  | 0, s => s
  | n + 1, s =>
    let r := skipComment (skipSpaces s)
    match newline? r with
    | some t => skipLines n t
    | none => r

/-- The text after spaces, comments and line breaks. -/
def skipAll (s : List Char) : List Char := skipLines (s.length + 1) s

/-- Whether `c` can stand in a key without quotes. -/
def isBare (c : Char) : Bool := c.isAlphanum || c == '_' || c == '-'

/-- Reads a key without dots. -/
def simpleKey? (s : List Char) : Option (String × List Char) :=
  ((lineString? s).or (run? isBare s)).map fun r => (String.ofList r.1, r.2)

/-- Reads keys joined by dots, at most `n` of them. -/
def keys? : Nat → Reader (List String)
  | 0, _ => none
  | n + 1, s => do
    let (k, s) ← simpleKey? s
    match skipSpaces s with
    | '.' :: r =>
      let (ks, s) ← keys? n (skipSpaces r)
      some (k :: ks, s)
    | r => some ([k], r)

/-- How many keys a dotted key may have, and how many brackets and braces may be open at once. -/
def depthLimit : Nat := 80

/-- Reads a dotted key and the spaces after it. -/
def key? (s : List Char) : Option (List String × List Char) := keys? depthLimit s

mutual

/-- Reads a value; `n` bounds the number of its parts, and at most `depth` brackets and braces may
be open at once. -/
def valueWithin? : Nat → Nat → Reader Value
  | 0, _, _ => none
  | n + 1, depth, s =>
    match s, depth with
    | '[' :: r, depth + 1 =>
      (itemsWithin? n depth (skipAll r)).map fun xs => (.array xs.1, xs.2)
    | '{' :: r, depth + 1 =>
      (membersWithin? n depth [] (skipAll r)).map fun ms => (.table .inlined ms.1, ms.2)
    | s, _ =>
      match string? s with
      | some (t, r) => some (.string (String.ofList t), r)
      | none => (classify? (unquoted s).1).map fun v => (v, (unquoted s).2)

/-- Reads the items of an array and its closing bracket. -/
def itemsWithin? : Nat → Nat → Reader (List Value)
  | 0, _, _ => none
  | n + 1, depth, s =>
    match s with
    | ']' :: r => some ([], r)
    | s => do
      let (v, s) ← valueWithin? n depth s
      match skipAll s with
      | ',' :: r => (itemsWithin? n depth (skipAll r)).map fun vs => (v :: vs.1, vs.2)
      | ']' :: r => some ([v], r)
      | _ => none

/-- Reads the members of an inline table and its closing brace, before which a comma may stand.
Lines may end anywhere but inside a dotted key. -/
def membersWithin? : Nat → Nat → Members → Reader Members
  | 0, _, _, _ => none
  | n + 1, depth, ms, s =>
    match s with
    | '}' :: r => some (ms, r)
    | s => do
      let (k, s) ← key? s
      let s ← dropLead? ['='] (skipAll s)
      let (v, s) ← valueWithin? n depth (skipAll s)
      let ms ← Members.assign? v k ms
      match skipAll s with
      | ',' :: r => membersWithin? n depth ms (skipAll r)
      | '}' :: r => some (ms, r)
      | _ => none

end

/-- Reads a value. -/
def value? (s : List Char) : Option (Value × List Char) :=
  valueWithin? (2 * s.length + 2) depthLimit s

/-- A statement of a document. -/
inductive Statement where
  | header (path : List String)
  /-- The header of one more table. -/
  | nextHeader (path : List String)
  | assign (key : List String) (value : Value)

/-- Reads a statement. -/
def statement? : Reader Statement
  | '[' :: '[' :: s => do
    let (k, s) ← key? (skipSpaces s)
    let s ← dropLead? [']', ']'] s
    some (.nextHeader k, s)
  | '[' :: s => do
    let (k, s) ← key? (skipSpaces s)
    let s ← dropLead? [']'] s
    some (.header k, s)
  | s => do
    let (k, s) ← key? s
    let s ← dropLead? ['='] s
    let (v, s) ← value? (skipSpaces s)
    some (.assign k v, s)

/-- Reads statements to the end of a text; `n` bounds their number. -/
def statementsWithin? : Nat → List Char → Option (List Statement)
  | 0, _ => none
  | n + 1, s =>
    match skipAll s with
    | [] => some []
    | r => do
      let (x, r) ← statement? r
      let r ← endOfLine? r
      let xs ← statementsWithin? n r
      some (x :: xs)

/-- The statements of a text; a byte order mark before them does not count. -/
def statements? (s : List Char) : Option (List Statement) :=
  let s := (dropLead? ['\uFEFF'] s).getD s
  statementsWithin? (s.length + 1) s

/-- A document in the making: the root table and the path of the last header. -/
structure Draft where
  root : Members
  /-- The path of the last header. -/
  path : List String

/-- Carries out a statement. -/
def Draft.apply? (d : Draft) : Statement → Option Draft
  | .header path => do
    let k ← path.getLast?
    let root ← Members.within? (Members.open? k) path.dropLast d.root
    some ⟨root, path⟩
  | .nextHeader path => do
    let k ← path.getLast?
    let root ← Members.within? (Members.openNext? k) path.dropLast d.root
    some ⟨root, path⟩
  | .assign key v => do
    let root ← Members.within? (Members.assign? v key) d.path d.root
    some ⟨root, d.path⟩

/-- The root table of a text. -/
def parse? (text : String) : Option Members := do
  let xs ← statements? text.toList
  let d ← xs.foldlM Draft.apply? ⟨[], []⟩
  some d.root

end DeclAtlas.Toml
