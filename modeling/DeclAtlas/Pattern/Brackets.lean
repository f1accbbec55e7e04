import DeclAtlas.Pattern.Escape

/-!
# Bracketed sets

Between brackets stand characters, ranges, escapes, named ASCII classes and further bracketed sets.
They are united unless one of the operations `&&`, `--` and `~~` stands between them; the operations
bind alike and are carried out from left to right.  Hyphens at the beginning stand for themselves, and
so does a closing bracket that comes first.

A set is read together with the depth of its nesting (`Nested`): brackets, a union of several members
and an operation each lie one step above what they hold.
-/

namespace DeclAtlas.Pattern

open Text

/-- An operation on sets. -/
inductive SetOp where
  | inter
  | difference
  | symmetric
  deriving Repr, DecidableEq

/-- The outcome of an operation. -/
def SetOp.apply (o : SetOp) (s t : CharSet) : CharSet :=
  match o with
  | .inter => .inter s t
  | .difference => .difference s t
  | .symmetric => .symmetric s t

/-- The operation at the beginning of a text. -/
def setOp? : List Char → Option (SetOp × List Char)
  | '&' :: '&' :: r => some (.inter, r)
  | '-' :: '-' :: r => some (.difference, r)
  | '~' :: '~' :: r => some (.symmetric, r)
  | _ => none

/-- Something that has been read, and the depth of its nesting. -/
structure Nested (α : Type) where
  /-- What has been read. -/
  value : α
  /-- How deep it is nested. -/
  depth : Nat
  deriving Repr, DecidableEq

/-- The depth of some members next to each other, which count as nested if there are several. -/
def depthTogether {α : Type} (members : List (Nested α)) : Nat :=
  let deepest := members.foldl (fun n m => max n m.depth) 0
  if members.length < 2 then deepest else deepest + 1

/-- What has been read of a set: the members since the last operation, newest first, and what comes
before. -/
structure SetParts where
  /-- The members since the last operation. -/
  members : List (Nested CharSet)
  /-- The set before the last operation, and the operation. -/
  before : Option (Nested CharSet × SetOp)
  deriving Repr, DecidableEq

namespace SetParts

/-- One member more. -/
def add (p : SetParts) (s : CharSet) (depth : Nat) : SetParts :=
  { p with members := ⟨s, depth⟩ :: p.members }

/-- The set that the parts make. -/
def total (f : Switches) (p : SetParts) : Nested CharSet :=
  let s := f.fold (.unionOf (p.members.map Nested.value))
  let depth := depthTogether p.members
  match p.before with
  | none => ⟨s, depth⟩
  | some (t, o) => ⟨o.apply t.value s, max t.depth depth + 1⟩

/-- The parts with an operation behind them. -/
def operate (f : Switches) (p : SetParts) (o : SetOp) : SetParts := ⟨[], some (p.total f, o)⟩

end SetParts

/-- The ASCII classes with names. -/
def asciiClasses : List (String × CharSet) :=
  [("alnum", .union .asciiLetter .asciiDigit), ("alpha", .asciiLetter), ("ascii", .range 0 127),
   ("blank", .union (.single '\t') (.single ' ')), ("cntrl", .union (.range 0 31) (.range 127 127)),
   ("digit", .asciiDigit), ("graph", .ascii '!' '~'), ("lower", .ascii 'a' 'z'),
   ("print", .ascii ' ' '~'),
   ("punct", .unionOf [.ascii '!' '/', .ascii ':' '@', .ascii '[' '\x60', .ascii '\x7b' '~']),
   ("space", .asciiBlank), ("upper", .ascii 'A' 'Z'), ("word", .asciiWord),
   ("xdigit", .unionOf [.asciiDigit, .ascii 'A' 'F', .ascii 'a' 'f'])]

/-- A set or its complement. -/
def complementIf (f : Switches) (negated : Bool) (s : CharSet) : Option CharSet :=
  if negated then f.except? s else some s

/-- A named class, without its name. -/
structure AsciiClass where
  /-- The characters of the name. -/
  set : CharSet
  /-- Whether all others are meant. -/
  negated : Bool

/-- Reads a named class, the bracket and the colon already taken. -/
def asciiClass? (s : List Char) : Option (AsciiClass × List Char) := do
  let (name, rest) ← cut? [':', ']'] s
  let (negated, name) := match name with
    | '^' :: n => (true, n)
    | n => (false, n)
  let set ← asciiClasses.lookup (String.ofList name)
  some (⟨set, negated⟩, rest)

/-- The characters of a named class. -/
def AsciiClass.members? (f : Switches) (c : AsciiClass) : Option CharSet :=
  complementIf f c.negated (f.fold c.set)

/-- Reads a character or an escape inside brackets. -/
def setItem? (f : Switches) (s : List Char) : Option (Escape × List Char) :=
  match s with
  | [] => none
  | '\\' :: r =>
    match escape? f r with
    | some (.place _, _) => none
    | some (.char c, rest) => (f.member? c).map fun c => (.char c, rest)
    | other => other
  | c :: r => (f.member? c).map fun c => (.char c, r)

/-- The set of a character or of an escape. -/
def setOf? : Escape → Option CharSet
  | .char c => some (.single c)
  | .set s => some s
  | .place _ => none

/-- The character behind one that has just been read, blanks left out and the sign that begins a
comment, too, but not the comment itself. -/
def Switches.next? (f : Switches) (s : List Char) : Option Char :=
  if f.verbose then
    let behindSign := fun t : List Char => match t with
      | '#' :: r => r.dropWhile isBlank
      | t => t
    (behindSign (s.dropWhile isBlank)).head?.or s.head?
  else s.head?

/-- Reads an item or a range of two characters.  A hyphen makes no range before a closing bracket or
another hyphen. -/
def setRange? (f : Switches) (s : List Char) : Option (CharSet × List Char) := do
  let (first, r) ← setItem? f s
  let alone := (setOf? first).map (·, f.skip r)
  match f.skip r with
  | '-' :: t =>
    if f.next? t = some ']' ∨ f.next? t = some '-' then alone
    else
      let (last, rest) ← setItem? f (f.skip t)
      match first, last with
      | .char a, .char b => if a ≤ b then some (.range a.toNat b.toNat, rest) else none
      | _, _ => none
  | _ => alone

/-- Takes hyphens at the beginning of a text. -/
def leadingHyphens (f : Switches) (s : List Char) : List CharSet × List Char :=
  let (hyphens, rest) := spelledWhile f (· == '-') s
  (hyphens.map .single, rest)

/-- Takes what stands for itself at the beginning of a set: hyphens or a closing bracket. -/
def leadingLiterals (f : Switches) : List Char → List CharSet × List Char
  | ']' :: r => ([.single ']'], f.skip r)
  | s => leadingHyphens f s

/-- Reads what opens a set, the bracket already taken: whether its complement is meant, and what stands
for itself at its beginning. -/
def setOpening (f : Switches) (s : List Char) : Bool × SetParts × List Char :=
  let (negated, t) := match f.skip s with
    | '^' :: t => (true, f.skip t)
    | t => (false, t)
  let (members, t) := leadingLiterals f t
  (negated, ⟨members.map (⟨·, 0⟩), none⟩, t)

/-- The set whose brackets hold some parts. -/
def closed? (f : Switches) (negated : Bool) (p : SetParts) : Option (Nested CharSet) :=
  let total := p.total f
  (complementIf f negated total.value).map (⟨·, total.depth + 1⟩)

/-- Reads the rest of a bracketed set; `fuel` bounds the number of its items. -/
def setRest? (fuel : Nat) (f : Switches) (negated : Bool) (p : SetParts) (s : List Char) :
    Option (Nested CharSet × List Char) :=
  match fuel with
  | 0 => none
  | fuel + 1 =>
    match f.skip s with
    | [] => none
    | ']' :: r => (closed? f negated p).map (·, r)
    | '[' :: r =>
      let named := match r with
        | ':' :: t => asciiClass? t
        | _ => none
      match named with
      | some (c, rest) => do setRest? fuel f negated (p.add (← c.members? f) 0) rest
      | none => do
        let (negatedInside, parts, t) := setOpening f r
        let (inside, rest) ← setRest? fuel f negatedInside parts t
        setRest? fuel f negated (p.add inside.value inside.depth) rest
    | t =>
      match setOp? t with
      | some (o, rest) => setRest? fuel f negated (p.operate f o) rest
      | none => do
        let (set, rest) ← setRange? f t
        setRest? fuel f negated (p.add set 0) rest

/-- Reads a bracketed set, the opening bracket already taken. -/
def brackets? (f : Switches) (s : List Char) : Option (Nested CharSet × List Char) := do
  let (negated, parts, t) := setOpening f s
  setRest? (s.length + 1) f negated parts t

end DeclAtlas.Pattern
