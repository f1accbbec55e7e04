import DeclAtlas.Text.Find

/-!
# Blocks of braces

Blocks and calls are cut out of files by counting delimiters character by character; no token is
looked at, so a delimiter inside a string or a comment counts as well.  `takeBalanced` takes lines
until the running balance is at most zero, which ends a block of braces as well as a call.

A block belongs to a marker line: it opens on the first line with a brace among the few lines from
the marker on, and closes where the balance of braces over whole lines is back at zero.  A block
that is never closed runs to the last line.
-/

namespace DeclAtlas.Nesting

/-! ### Balance of delimiters over lines -/

/-- How much one character adds to the balance of a pair of delimiters. -/
def charDelta (opening closing c : Char) : Int :=
  if c = opening then 1 else if c = closing then -1 else 0

/-- The number of opening less the number of closing delimiters on a line. -/
def delta (opening closing : Char) (l : Line) : Int :=
  l.foldr (fun c n => charDelta opening closing c + n) 0

/-- The balance of braces of a line. -/
def braceDelta (l : Line) : Int := delta '{' '}' l

/-- The balance of parentheses of a line. -/
def parenDelta (l : Line) : Int := delta '(' ')' l

/-- The lines up to and including the first one after which the balance, `depth` at the start, is
at most zero; all lines if there is none. -/
def takeBalanced (d : Line → Int) (depth : Int) : List Line → List Line
  | [] => []
  | l :: ls => if depth + d l ≤ 0 then [l] else l :: takeBalanced d (depth + d l) ls

@[simp] theorem takeBalanced_nil (d : Line → Int) (depth : Int) : takeBalanced d depth [] = [] :=
  rfl

/-- What is taken is a beginning of the lines. -/
theorem takeBalanced_isPrefix (d : Line → Int) (depth : Int) (ls : List Line) :
    takeBalanced d depth ls <+: ls := by
  induction ls generalizing depth with
  | nil => exact List.prefix_rfl
  | cons l ls ih =>
    unfold takeBalanced
    split
    · exact ⟨ls, rfl⟩
    · exact List.cons_prefix_cons.2 ⟨rfl, ih _⟩

theorem takeBalanced_ne_nil (d : Line → Int) (depth : Int) {ls : List Line} (h : ls ≠ []) :
    takeBalanced d depth ls ≠ [] := by
  cases ls with
  | nil => exact absurd rfl h
  | cons l ls => unfold takeBalanced; split <;> simp

/-! ### Blocks -/

/-- The number of lines, the marker's own included, that may hold the opening brace of a block. -/
def lookahead : Nat := 5

/-- A balanced region of a list of lines. -/
structure Block where
  /-- The 0-based number of the line with the opening brace. -/
  start : Nat
  /-- The lines of the block, whole. -/
  lines : List Line
  deriving Repr, DecidableEq

/-- The 0-based number of the last line of a block. -/
def Block.last (b : Block) : Nat := b.start + (b.lines.length - 1)

/-- The text of a block. -/
def Block.text (b : Block) : List Char := Text.joinWith ['\n'] b.lines

/-- The number of lines before the first one with an opening brace, of those in reach. -/
def openingAt? (reach : Nat) (ls : List Line) : Option Nat :=
  (ls.take reach).findIdx? (·.contains '{')

/-- The block of the marker on line `marker`, counted from 0. -/
def blockAt? (ls : List Line) (marker : Nat) : Option Block :=
  (openingAt? lookahead (ls.drop marker)).map fun n =>
    ⟨marker + n, takeBalanced braceDelta 0 (ls.drop (marker + n))⟩

end DeclAtlas.Nesting
