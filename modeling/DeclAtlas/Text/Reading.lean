import DeclAtlas.Text.CharClass
import DeclAtlas.Text.Find
import DeclAtlas.Text.WordChar

/-!
# Reading texts from the left

Small readers take a text and give back what they read together with the rest, or nothing.  The
forms of the declaration files are sequences of them: a literal, a word, a run of blanks.  A search
tries a reader at every place from left to right; it is told which character stands before the
place, so that a form can ask to begin at a word boundary.

The classes read next to each other are disjoint, so a reader that takes as much as it can never
has to give anything back; `afterBlanks` is the one exception and says so.

Escapes give characters by the numbers of their code points, written with hexadecimal digits of
either case.
-/

namespace DeclAtlas.Text

/-- A reader of a value at the start of a text. -/
abbrev Reader (α : Type) := List Char → Option (α × List Char)

/-- A reader that is also told the character before the text, if there is one. -/
abbrev PlacedReader (α : Type) := Option Char → List Char → Option (α × List Char)

/-- The longest run of characters in `p`, which must not be empty. -/
def run? (p : Char → Bool) : Reader (List Char) := fun s =>
  match s.takeWhile p with
  | [] => none
  | c :: w => some (c :: w, s.dropWhile p)

/-- A word, as long as possible. -/
def word? : Reader (List Char) := run? isWord

/-- The text after a run of blanks, which must not be empty. -/
def blanks? : List Char → Option (List Char)
  | [] => none
  | c :: r => if isBlank c then some (trimStart r) else none

/-- The text after the string `w`. -/
def literal? (w : String) (s : List Char) : Option (List Char) := dropLead? w.toList s

/-- Tries `k` after all leading blanks, then gives the blanks back one at a time. -/
def afterBlanks {α : Type} (k : List Char → Option α) : List Char → Option α
  | [] => k []
  | c :: r => if isBlank c then (afterBlanks k r).or (k (c :: r)) else k (c :: r)

/-- Whether a word boundary lies between what was read, `w`, and the text that follows.  What
stands before `w` is taken not to be part of a word. -/
def boundaryAfter (w s : List Char) : Bool :=
  w.getLast?.any isWord != s.head?.any isWord

/-- Reads only where no word character stands before the text. -/
def atWordStart {α : Type} (p : Reader α) : PlacedReader α := fun before s =>
  if before.any isWord then none else p s

/-- What a reader reads at the leftmost place at which it reads anything. -/
def firstMatch {α : Type} (p : PlacedReader α) (before : Option Char) :
    List Char → Option (α × List Char)
  | [] => p before []
  | c :: r => (p before (c :: r)).or (firstMatch p (some c) r)

/-- What a reader that needs no context reads at the leftmost place. -/
def findMatch? {α : Type} (p : Reader α) (s : List Char) : Option α :=
  (firstMatch (fun _ => p) none s).map Prod.fst

/-- What a reader reads at one place after another, from left to right; a reading takes the
characters it has used, `used` of which are still to be passed over. -/
def matchesFrom {α : Type} (p : PlacedReader α) (before : Option Char) (used : Nat) :
    List Char → List α
  | [] => []
  | c :: r =>
    match used with
    | n + 1 => matchesFrom p (some c) n r
    | 0 =>
      match p before (c :: r) with
      | some (a, rest) => a :: matchesFrom p (some c) (r.length - rest.length) r
      | none => matchesFrom p (some c) 0 r

/-- All readings of a text that do not overlap, from left to right. -/
def allMatches {α : Type} (p : PlacedReader α) (s : List Char) : List α := matchesFrom p none 0 s

/-- Adds to a reading the text it has used. -/
def withText {α : Type} (p : Reader α) : Reader (List Char × α) := fun s =>
  (p s).map fun r => ((s.take (s.length - r.2.length), r.1), r.2)

theorem run?_eq_some {p : Char → Bool} {s w r : List Char} (h : run? p s = some (w, r)) :
    s = w ++ r ∧ w ≠ [] ∧ (∀ c ∈ w, p c = true) := by
  unfold run? at h
  split at h
  · simp at h
  · rename_i c t ht
    simp only [Option.some.injEq, Prod.mk.injEq] at h
    obtain ⟨rfl, rfl⟩ := h
    refine ⟨?_, by simp, ?_⟩
    · rw [← ht, List.takeWhile_append_dropWhile]
    · intro d hd
      rw [← ht] at hd
      exact List.all_eq_true.1 List.all_takeWhile d hd

/-! ### Hexadecimal numbers -/

/-- The value of a hexadecimal digit. -/
def hexValue? (c : Char) : Option Nat :=
  if c.isDigit then some (c.toNat - 48)
  else if 'a' ≤ c ∧ c ≤ 'f' then some (c.toNat - 87)
  else if 'A' ≤ c ∧ c ≤ 'F' then some (c.toNat - 55)
  else none

/-- Reads `n` hexadecimal digits after those that make `acc`. -/
def hexNumber? : Nat → Nat → Reader Nat
  | 0, acc, s => some (acc, s)
  | n + 1, acc, c :: s => (hexValue? c).bind fun v => hexNumber? n (16 * acc + v) s
  | _ + 1, _, [] => none

/-- The number that a text of hexadecimal digits writes. -/
def hexNat? (s : List Char) : Option Nat :=
  if s.isEmpty then none
  else s.foldl (fun n c => n.bind fun n => (hexValue? c).map (16 * n + ·)) (some 0)

/-- The character of a code point. -/
def charOf? (n : Nat) : Option Char :=
  if n.isValidChar then some (Char.ofNat n) else none

end DeclAtlas.Text
