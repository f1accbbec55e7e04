import DeclAtlas.Character.CharSet

/-!
# The bytes of sets of characters

The characters of a set are written with one to four bytes.  Their byte sequences are those of a few
rows of byte ranges, one range for each place; `byteRows` gives the rows in order.  A byte is given
by the bits that it holds, and the first byte of a row by the number of the bytes after it, too.
-/

namespace DeclAtlas.Character

/-- A range of bytes: the number of bytes that are still to follow at the beginning of a character,
and the bits of the first and of the last byte. -/
abbrev ByteRange := Nat × Nat × Nat

/-- A row of byte ranges, one for each byte of a character. -/
abbrev ByteRow := List ByteRange

/-- The bits that a byte after the first one holds, as a number of its own. -/
def tailUnit (n : Nat) : Nat := Nat.pow 64 n

/-- The rows for the numbers from `first` to `last` in digits to the base 64; `n` digits follow the
leading one, and `lead` marks it. -/
def digitRows (lead : Nat) : (n first last : Nat) → List ByteRow
  | 0, first, last => [[(lead, first, last)]]
  | n + 1, first, last =>
    let unit := tailUnit (n + 1)
    let a := first / unit
    let b := last / unit
    let under := fun (h : Nat) (rows : List ByteRow) => rows.map ((lead, h, h) :: ·)
    if a = b then under a (digitRows 0 n (first % unit) (last % unit))
    else
      let headWhole := first % unit = 0
      let tailWhole := last % unit = unit - 1
      let low := if headWhole then a else a + 1
      let high := if tailWhole then b + 1 else b
      (if headWhole then [] else under a (digitRows 0 n (first % unit) (unit - 1))) ++
        (if low < high then [(lead, low, high - 1) :: List.replicate (n + 1) (0, 0, 63)] else []) ++
        if tailWhole then [] else under b (digitRows 0 n 0 (last % unit))

/-- The code points that are written with one to four bytes, those of no character left out, and the
number of bytes after the first. -/
def lengthBands : List (Nat × Nat × Nat) :=
  [(0, 0x7F, 0), (0x80, 0x7FF, 1), (0x800, 0xD7FF, 2), (0xE000, 0xFFFF, 2), (0x10000, 0x10FFFF, 3)]

/-- The rows of byte ranges for the characters of a set. -/
def byteRows (s : CharSet) : List ByteRow :=
  s.ranges.flatMap fun r =>
    lengthBands.flatMap fun (least, greatest, n) =>
      if max r.1 least ≤ min r.2 greatest then
        digitRows n n (max r.1 least) (min r.2 greatest)
      else []

end DeclAtlas.Character
