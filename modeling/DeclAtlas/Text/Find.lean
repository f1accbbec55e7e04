/-!
# Finding and cutting texts

Occurrences of one text in another, and the cuts made at them.  Of several occurrences the first
counts unless a name says otherwise.

A text falls into lines at its line feeds.  A carriage return directly before the line feed belongs
to the line break, and a final line break opens no further line.
-/

namespace DeclAtlas

/-- One line of a text, without its line break. -/
abbrev Line := List Char

namespace Text

/-! ### Occurrences -/

/-- What follows `w` in a text that begins with it. -/
def dropLead? : (w s : List Char) → Option (List Char)
  | [], s => some s
  | a :: w, b :: s => if a = b then dropLead? w s else none
  | _ :: _, [] => none

theorem dropLead?_eq_some {w s r : List Char} : dropLead? w s = some r ↔ s = w ++ r := by
  induction w generalizing s with
  | nil => simp [dropLead?, eq_comm]
  | cons a w ih =>
    cases s with
    | nil => simp [dropLead?]
    | cons b s =>
      by_cases h : a = b
      · subst h; simp [dropLead?, ih]
      · simp [dropLead?, h, Ne.symm h]

/-- Whether a text begins with `w`. -/
def startsWith (w s : List Char) : Bool := (dropLead? w s).isSome

/-- The text from the first occurrence of `w` on. -/
def findFrom? (w : List Char) : List Char → Option (List Char)
  | [] => if w.isEmpty then some [] else none
  | c :: r => if startsWith w (c :: r) then some (c :: r) else findFrom? w r

/-- Whether `w` occurs in a text. -/
def contains (w s : List Char) : Bool := (findFrom? w s).isSome

/-- What follows the first occurrence of `w`. -/
def after? (w s : List Char) : Option (List Char) := (findFrom? w s).bind (dropLead? w)

/-- What stands before and after the first occurrence of `w`. -/
def cut? (w s : List Char) : Option (List Char × List Char) :=
  (findFrom? w s).bind fun r => (dropLead? w r).map fun t => (s.take (s.length - r.length), t)

/-- What stands before and after the last occurrence of the character `c`. -/
def cutLast? (c : Char) (s : List Char) : Option (List Char × List Char) :=
  let tail := s.reverse.takeWhile (· != c)
  match s.reverse.dropWhile (· != c) with
  | [] => none
  | _ :: lead => some (lead.reverse, tail.reverse)

/-- What precedes `w` in a text that ends with it. -/
def dropEnd? (w s : List Char) : Option (List Char) :=
  (dropLead? w.reverse s.reverse).map List.reverse

/-- Whether a text ends with `w`. -/
def endsWith (w s : List Char) : Bool := (dropEnd? w s).isSome

/-- The pieces between the occurrences of the character `c`; there is always at least one. -/
def pieces (c : Char) (s : List Char) : List (List Char) :=
  match s with
  | [] => [[]]
  | d :: r =>
    match pieces c r with
    | [] => [[d]]
    | p :: ps => if d = c then [] :: p :: ps else (d :: p) :: ps

/-- Whether the string `w` occurs in a text. -/
def containsString (w : String) (s : List Char) : Bool := contains w.toList s

theorem startsWith_append (w s : List Char) : startsWith w (w ++ s) = true := by
  simp [startsWith, (dropLead?_eq_some (w := w)).2 rfl]

/-! ### Lines -/

/-- The lines of a text. -/
def lines : List Char → List Line
  | [] => []
  | '\n' :: r => [] :: lines r
  | '\r' :: '\n' :: r => [] :: lines r
  | c :: r =>
    match lines r with
    | [] => [[c]]
    | l :: ls => (c :: l) :: ls

/-- The lines of a string. -/
def linesOf (s : String) : List Line := lines s.toList

/-- Lines joined by a separator. -/
def joinWith (sep : List Char) : List Line → List Char
  | [] => []
  | [l] => l
  | l :: ls => l ++ sep ++ joinWith sep ls

end Text

end DeclAtlas
