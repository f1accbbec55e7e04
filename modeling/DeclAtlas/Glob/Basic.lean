import DeclAtlas.Pattern.Match
import DeclAtlas.Text.Utf8

/-!
# Globs

A glob describes paths.  It is matched against the bytes of a path, so that a question mark stands
for one byte, not for one character; a star does not cross a slash, while two stars between slashes
stand for any number of directories.  A glob is turned into a pattern over bytes, each byte taken
for the character with its number.
-/

namespace DeclAtlas

open Pattern

/-- One element of a glob. -/
inductive GlobItem where
  /-- A character that stands for itself. -/
  | char (c : Char)
  /-- One byte of a name. -/
  | any
  /-- Any number of bytes of a name. -/
  | many
  /-- Any directories, at the beginning. -/
  | leading
  /-- Any directories, in the middle. -/
  | between
  /-- Everything below a directory, at the end. -/
  | trailing
  /-- A character in one of some ranges, or in none of them. -/
  | set (negated : Bool) (ranges : List (Char × Char))
  /-- One of several globs. -/
  | choice (branches : List (List GlobItem))
  deriving Repr

/-- A glob. -/
abbrev Glob := List GlobItem

namespace Glob

/-- The bytes of a text, each as the character with its number. -/
def byteChars (s : List Char) : List Char := (Text.encode s).map fun b => Char.ofNat b.toNat

/-- The bytes of a character. -/
def bytesOf (c : Char) : List Nat := (String.utf8EncodeChar c).map UInt8.toNat

/-- One given byte. -/
def byte (n : Nat) : CharSet := .range n n

/-- The bytes that a range of characters admits: those of its ends, and what lies between the last
byte of the first end and the first byte of the last end. -/
def rangeBytes (first last : Char) : List CharSet :=
  let a := bytesOf first
  let b := bytesOf last
  if first = last then a.map byte
  else a.dropLast.map byte ++ [.range (a.getLastD 0) (b.headD 0)] ++ b.tail.map byte

/-- A slash. -/
def slash : Pattern := .one (.single '/')

/-- Any byte. -/
def anyByte : Pattern := .one (.range 0 255)

/-- Any byte but the slash. -/
def nameByte : Pattern := .one (.difference (.range 0 255) (.single '/'))

/-- Anything up to a slash. -/
def anySlash : Pattern := inOrder [.star anyByte, slash]

/-- The bytes that a set of characters admits. -/
def setBytes (negated : Bool) (ranges : List (Char × Char)) : CharSet :=
  let s := CharSet.unionOf (ranges.flatMap fun r => rangeBytes r.1 r.2)
  if negated then .difference (.range 0 255) s else s

/-- Whether a pattern is the empty one. -/
def isEmpty : Pattern → Bool
  | .empty => true
  | _ => false

mutual

/-- The pattern of an element. -/
def itemPattern : GlobItem → Pattern
  | .char c => inOrder ((bytesOf c).map fun n => .one (byte n))
  | .any => nameByte
  | .many => .star nameByte
  | .leading => .alt (optional slash) anySlash
  | .between => .alt slash (inOrder [slash, anySlash])
  | .trailing => inOrder [slash, .star anyByte]
  | .set negated ranges => .one (setBytes negated ranges)
  | .choice branches =>
    match branchPatterns branches with
    | [] => .empty
    | ps => anyOf ps

/-- The patterns of the branches of a choice, the empty branches left out. -/
def branchPatterns : List (List GlobItem) → List Pattern
  | [] => []
  | b :: bs =>
    let p := itemsPattern b
    if isEmpty p then branchPatterns bs else p :: branchPatterns bs

/-- The pattern of some elements. -/
def itemsPattern : List GlobItem → Pattern
  | [] => .empty
  | i :: is => andThen (itemPattern i) (itemsPattern is)

end

/-- The pattern of a glob, over the bytes of a path.  A glob that is nothing but directories at the
beginning matches every path. -/
def pattern (g : Glob) : Pattern :=
  match g with
  | [.leading] => .star anyByte
  | g => itemsPattern g

end Glob

end DeclAtlas
