/-!
# UTF-8

Files and the output of tools are bytes.  The decoder goes from byte to byte: between characters it
waits for a lead byte, and after a lead byte it owes a number of tail bytes, the first of which has
bounds of its own, so that no overlong form, no surrogate and nothing above the last code point
gets through.  The longest beginning of a character that cannot be finished counts as one mistake.

A text is read strictly (`decode?`: no mistake at all) or leniently (`decodeLossy`: each mistake
becomes a replacement character).
-/

namespace DeclAtlas

/-- A sequence of bytes. -/
abbrev Bytes := List UInt8

namespace Text

/-- A character that has begun: the tail bytes owed, the bounds of the next one and the bits read
so far. -/
structure Unfinished where
  /-- The number of tail bytes owed, the next one not counted. -/
  further : Nat
  /-- The least value of the next byte. -/
  least : Nat
  /-- The greatest value of the next byte. -/
  greatest : Nat
  /-- The bits read so far. -/
  bits : Nat
  deriving Repr, DecidableEq

/-- The character that a byte above the ASCII range begins. -/
def lead? (b : Nat) : Option Unfinished :=
  if b < 0xC2 then none
  else if b < 0xE0 then some ⟨0, 0x80, 0xBF, b - 0xC0⟩
  else if b = 0xE0 then some ⟨1, 0xA0, 0xBF, 0⟩
  else if b = 0xED then some ⟨1, 0x80, 0x9F, 0xD⟩
  else if b < 0xF0 then some ⟨1, 0x80, 0xBF, b - 0xE0⟩
  else if b = 0xF0 then some ⟨2, 0x90, 0xBF, 0⟩
  else if b < 0xF4 then some ⟨2, 0x80, 0xBF, b - 0xF0⟩
  else if b = 0xF4 then some ⟨2, 0x80, 0x8F, 4⟩
  else none

/-- What a byte between characters gives: a character, the beginning of one, or a mistake. -/
def decodeLead (b : Nat) : List (Option Char) × Option Unfinished :=
  if b < 0x80 then ([some (Char.ofNat b)], none)
  else match lead? b with
    | some u => ([], some u)
    | none => ([none], none)

/-- What a byte gives after what came before it. -/
def decodeStep (state : Option Unfinished) (b : Nat) : List (Option Char) × Option Unfinished :=
  match state with
  | none => decodeLead b
  | some u =>
    if u.least ≤ b && b ≤ u.greatest then
      let bits := 64 * u.bits + (b - 0x80)
      match u.further with
      | 0 => ([some (Char.ofNat bits)], none)
      | n + 1 => ([], some ⟨n, 0x80, 0xBF, bits⟩)
    else
      let (out, next) := decodeLead b
      (none :: out, next)

/-- The characters of some bytes, each mistake in its place. -/
def decodeFrom (state : Option Unfinished) : Bytes → List (Option Char)
  | [] => if state.isSome then [none] else []
  | b :: bs =>
    let (out, next) := decodeStep state b.toNat
    out ++ decodeFrom next bs

/-- The text of some bytes, if they are well-formed. -/
def decode? (bs : Bytes) : Option String := ((decodeFrom none bs).mapM id).map String.ofList

/-- The text of some bytes, with a replacement character for each mistake. -/
def decodeLossy (bs : Bytes) : String :=
  String.ofList ((decodeFrom none bs).map (·.getD '\uFFFD'))

/-- The bytes of a text. -/
def encode (s : List Char) : Bytes := s.flatMap String.utf8EncodeChar

/-- The bytes of a string. -/
def encodeString (s : String) : Bytes := encode s.toList

end Text

end DeclAtlas
