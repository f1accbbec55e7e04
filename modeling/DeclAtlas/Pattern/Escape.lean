import DeclAtlas.Character.Naming
import DeclAtlas.Pattern.Basic
import DeclAtlas.Text.CharClass
import DeclAtlas.Text.Find
import DeclAtlas.Text.Reading

/-!
# Escapes and switches

What a pattern means by a backslash and by single characters such as the dot depends on the
switches that are on at that place.  An escape stands for a character, for a set of characters or
for a condition on a place.

With the switch for remarks, blanks and comments do not count, not even between the digits of a
number or the letters of a name; `spelled` reads such a run.
-/

namespace DeclAtlas.Pattern

open Text

/-- The switches of a pattern. -/
structure Switches where
  /-- Letters match regardless of case. -/
  caseless : Bool := false
  /-- The ends of lines count as well as the ends of the text. -/
  multiline : Bool := false
  /-- The dot matches line breaks, too. -/
  dotAll : Bool := false
  /-- The classes are those of Unicode. -/
  unicode : Bool := true
  /-- Blanks and comments do not count. -/
  verbose : Bool := false
  /-- Carriage returns end lines. -/
  returns : Bool := false
  deriving Repr, DecidableEq

namespace Switches

/-- The word characters. -/
def word (f : Switches) : CharSet := if f.unicode then .word else .asciiWord

/-- The decimal digits. -/
def digit (f : Switches) : CharSet := if f.unicode then .digit else .asciiDigit

/-- White space. -/
def blank (f : Switches) : CharSet := if f.unicode then .blank else .asciiBlank

/-- The set with the case variants of its members where case does not count; without Unicode only
those of ASCII. -/
def fold (f : Switches) (s : CharSet) : CharSet := if f.caseless then s.caseless !f.unicode else s

/-- The complement of a set, which is a set of characters only with Unicode. -/
def except? (f : Switches) (s : CharSet) : Option CharSet :=
  if f.unicode then some (.except s) else none

/-- What the dot matches. -/
def dot? (f : Switches) : Option CharSet :=
  if !f.unicode then none
  else if f.dotAll then some .anything
  else if f.returns then some (.except (.union (.single '\n') (.single '\r')))
  else some (.except (.single '\n'))

/-- The condition that a circumflex stands for. -/
def lineStart (f : Switches) : Place := if f.multiline then .lineStart f.returns else .textStart

/-- The condition that a dollar sign stands for. -/
def lineEnd (f : Switches) : Place := if f.multiline then .lineEnd f.returns else .textEnd

/-- A condition on the word characters around a place. -/
def edge (f : Switches) (e : Edge) : Place := .edge e f.word

/-- The pattern of a character that stands for itself. -/
def char (f : Switches) (c : Char) : Pattern := .one (f.fold (.single c))

/-- A character as a member of a set, which without Unicode has to be ASCII. -/
def member? (f : Switches) (c : Char) : Option Char :=
  if f.unicode || c.toNat < 128 then some c else none

end Switches

/-- A text without blanks and comments at its beginning; `comment` tells whether one is open. -/
def dropRemarks (comment : Bool) : List Char → List Char
  | [] => []
  | c :: r =>
    if comment then dropRemarks (c != '\n') r
    else if isBlank c then dropRemarks false r
    else if c = '#' then dropRemarks true r
    else c :: r

/-- A text without what does not count at its beginning. -/
def Switches.skip (f : Switches) (s : List Char) : List Char :=
  if f.verbose then dropRemarks false s else s

/-- The characters at the beginning of a text that satisfy `p`, at most `count` of them and without
the remarks between them, and the rest of the text behind the remarks that follow. -/
def spelled (f : Switches) (p : Char → Bool) (count : Nat) (comment : Bool) :
    List Char → List Char × List Char
  | [] => ([], [])
  | c :: r =>
    if comment then spelled f p count (c != '\n') r
    else if f.verbose && isBlank c then spelled f p count false r
    else if f.verbose && c == '#' then spelled f p count true r
    else if count != 0 && p c then
      let (cs, rest) := spelled f p (count - 1) false r
      (c :: cs, rest)
    else ([], c :: r)

/-- All characters at the beginning of a text that satisfy `p`, and the rest of the text. -/
def spelledWhile (f : Switches) (p : Char → Bool) (s : List Char) : List Char × List Char :=
  spelled f p s.length false s

/-- What an escape stands for. -/
inductive Escape where
  | char (c : Char)
  | set (s : CharSet)
  | place (p : Place)
  deriving Repr, DecidableEq

/-- The character whose code point some hexadecimal digits write. -/
def charOfDigits? (digits : List Char) : Option Char := (hexNat? digits).bind charOf?

/-- Whether a character is a hexadecimal digit. -/
def isHexDigit (c : Char) : Bool := (hexValue? c).isSome

/-- Reads a character written as its code point, with `width` digits or between braces. -/
def codePoint? (f : Switches) (width : Nat) (s : List Char) : Option (Char × List Char) :=
  match f.skip s with
  | '{' :: r =>
    match spelledWhile f isHexDigit r with
    | (digits, '}' :: rest) => (charOfDigits? digits).map (·, f.skip rest)
    | _ => none
  | r =>
    let (digits, rest) := spelled f isHexDigit width false r
    if digits.length = width then (charOfDigits? digits).map (·, rest) else none

/-- Reads a character written with two digits or between braces.  Without Unicode, two digits
write a byte, which is a character only below 128. -/
def byteOrCodePoint? (f : Switches) (s : List Char) : Option (Char × List Char) := do
  let (c, rest) ← codePoint? f 2 s
  if f.unicode || c.toNat < 128 || (f.skip s).head? == some '{' then some (c, rest) else none

/-- The names of conditions on word characters. -/
def edgeNames : List (String × Edge) :=
  [("start", .start), ("end", .finish), ("start-half", .startHalf), ("end-half", .finishHalf)]

/-- Whether a character can stand in the name of a condition. -/
def isEdgeLetter (c : Char) : Bool := c.isAlpha || c == '-'

/-- Reads what follows an escaped `b`: the name of a condition in braces, or nothing.  Braces
that do not begin with a letter are left to be read as a number of repetitions. -/
def edgeName? (f : Switches) (s : List Char) : Option (Edge × List Char) :=
  match s with
  | '{' :: r =>
    match f.skip r with
    | [] => none
    | c :: t =>
      if isEdgeLetter c then
        match spelledWhile f isEdgeLetter (c :: t) with
        | (name, '}' :: rest) => (edgeNames.lookup (String.ofList name)).map (·, rest)
        | _ => none
      else some (.boundary, s)
  | _ => some (.boundary, s)

/-- The set that a name between braces stands for: the name of a set, or the name of a
classification and a value with a sign between them.  Inequality means the same as equality. -/
def setNamed? (name : List Char) : Option CharSet :=
  let atSign := fun sign => (cut? sign name).map fun (c, v) => Character.valued? c v
  (((atSign ['!', '=']).or (atSign [':'])).or (atSign ['='])).getD (Character.named? name)

/-- Reads the name of a set: one letter, or what stands between braces. -/
def setName? (f : Switches) (s : List Char) : Option (CharSet × List Char) :=
  match f.skip s with
  | [] => none
  | '\\' :: _ => none
  | '{' :: r =>
    match spelledWhile f (· != '}') r with
    | (name, '}' :: rest) => (setNamed? name).map (·, rest)
    | _ => none
  | c :: r => (Character.named? [c]).map (·, f.skip r)

/-- Reads the name of a set and takes the set or its complement. -/
def namedSet? (f : Switches) (negated : Bool) (s : List Char) : Option (Escape × List Char) := do
  if !f.unicode then none
  let (set, rest) ← setName? f s
  some (.set (if negated then .except (f.fold set) else f.fold set), rest)

/-- Characters that stand for themselves after a backslash. -/
def isEscapable (c : Char) : Bool :=
  c.toNat < 128 && !c.isAlphanum && c != '<' && c != '>'

/-- Reads an escape, the backslash already taken. -/
def escape? (f : Switches) (s : List Char) : Option (Escape × List Char) :=
  match s with
  | [] => none
  | 'd' :: r => some (.set f.digit, r)
  | 's' :: r => some (.set f.blank, r)
  | 'w' :: r => some (.set f.word, r)
  | 'D' :: r => (f.except? f.digit).map (.set ·, r)
  | 'S' :: r => (f.except? f.blank).map (.set ·, r)
  | 'W' :: r => (f.except? f.word).map (.set ·, r)
  | 'p' :: r => namedSet? f false r
  | 'P' :: r => namedSet? f true r
  | 'a' :: r => some (.char '\x07', r)
  | 'f' :: r => some (.char '\x0c', r)
  | 't' :: r => some (.char '\t', r)
  | 'n' :: r => some (.char '\n', r)
  | 'r' :: r => some (.char '\r', r)
  | 'v' :: r => some (.char '\x0b', r)
  | 'A' :: r => some (.place .textStart, r)
  | 'z' :: r => some (.place .textEnd, r)
  | 'B' :: r => some (.place (f.edge .within), r)
  | '<' :: r => some (.place (f.edge .start), r)
  | '>' :: r => some (.place (f.edge .finish), r)
  | 'b' :: r => (edgeName? f r).map fun (e, rest) => (.place (f.edge e), rest)
  | 'x' :: r => (byteOrCodePoint? f r).map fun (c, rest) => (.char c, rest)
  | 'u' :: r => (codePoint? f 4 r).map fun (c, rest) => (.char c, rest)
  | 'U' :: r => (codePoint? f 8 r).map fun (c, rest) => (.char c, rest)
  | c :: r => if isEscapable c then some (.char c, r) else none

end DeclAtlas.Pattern
