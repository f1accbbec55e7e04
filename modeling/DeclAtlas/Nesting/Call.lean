import DeclAtlas.Nesting.Block
import DeclAtlas.Text.CharClass
import DeclAtlas.Text.Find

/-!
# Calls that span lines

The argument of a call may run over several lines.  `gather` joins the lines of a call, and
`outerArgument` takes what stands between its outermost parentheses.
-/

namespace DeclAtlas.Nesting

open Text

/-- A call that may have taken further lines with it. -/
structure Gathered where
  /-- The trimmed lines of the call, joined by single spaces. -/
  joined : List Char
  /-- The number of lines taken after the first. -/
  extra : Nat
  deriving Repr, DecidableEq

/-- Gathers the call that begins on the first of the lines. -/
def gather (ls : List Line) : Gathered :=
  let taken := takeBalanced parenDelta 0 ls
  ⟨joinWith [' '] (taken.map trim), taken.length - 1⟩

/-- The text between the first opening and the last closing parenthesis, trimmed.  The whole text
is taken if there is no such pair in this order. -/
def outerArgument (s : List Char) : List Char :=
  match s.dropWhile (· != '(') with
  | [] => trim s
  | _ :: r =>
    match cutLast? ')' r with
    | some (inner, _) => trim inner
    | none => trim s

/-- The outer argument of the call that begins at the first occurrence of `name`. -/
def argumentOf (name : List Char) (s : List Char) : List Char :=
  outerArgument ((findFrom? name s).getD s)

/-- Reads forms line by line.  `read?` is shown a line and those after it; it answers with what the
line stands for and the number of further lines the form has taken.  Forms begin on the first
`within` lines only, and the next `taken` lines belong to an earlier form. -/
def readForms {α : Type} (read? : Line → List Line → Option (α × Nat)) (within taken : Nat) :
    List Line → List α
  | [] => []
  | l :: ls =>
    match within, taken with
    | 0, _ => []
    | w + 1, n + 1 => readForms read? w n ls
    | w + 1, 0 =>
      match read? l ls with
      | none => readForms read? w 0 ls
      | some (a, extra) => a :: readForms read? w extra ls

end DeclAtlas.Nesting
