import DeclAtlas.Script.Session
import DeclAtlas.Text.CharClass

/-!
# Conditions in scripts

The conditions of `test`: about texts, numbers and files, joined by `-a`, `-o` and an exclamation
mark.  With up to three arguments their number decides what they mean, so a text that looks like an
operator does no harm.
-/

namespace DeclAtlas.Script

/-- The whole number that a text writes. -/
def integer? (s : String) : Option Int :=
  match s.toList with
  | '-' :: r => (Text.asciiNat? r).map fun n => -(n : Int)
  | '+' :: r => (Text.asciiNat? r).map Int.ofNat
  | r => (Text.asciiNat? r).map Int.ofNat

/-- A condition with an operator before its argument. -/
def unaryCondition (s : Session) (op arg : String) : Option Bool :=
  let found := (s.tree.find (s.absolute arg)).toOption
  match op with
  | "-n" => some (!arg.isEmpty)
  | "-z" => some arg.isEmpty
  | "-e" => some found.isSome
  | "-r" => some found.isSome
  | "-w" => some found.isSome
  | "-f" => some (found.any fun t => !t.isDirectory)
  | "-d" => some (found.any Tree.isDirectory)
  | "-s" => some (found.any fun t => match t with
    | .file content => !content.isEmpty
    | _ => true)
  | "-x" => some (found.any fun t => match t with
    | .file _ => false
    | _ => true)
  | "-L" => some false
  | "-h" => some false
  | _ => none

/-- A comparison of numbers. -/
def compareIntegers (p : Int → Int → Bool) (a b : String) : Option Bool := do
  some (p (← integer? a) (← integer? b))

/-- The operators that stand between two arguments. -/
def binaryOperators : List String :=
  ["=", "==", "!=", "-eq", "-ne", "-lt", "-le", "-gt", "-ge"]

/-- A condition with an operator between two arguments. -/
def binaryCondition (a op b : String) : Option Bool :=
  match op with
  | "=" => some (a == b)
  | "==" => some (a == b)
  | "!=" => some (a != b)
  | "-eq" => compareIntegers (· == ·) a b
  | "-ne" => compareIntegers (· != ·) a b
  | "-lt" => compareIntegers (fun x y => decide (x < y)) a b
  | "-le" => compareIntegers (fun x y => decide (x ≤ y)) a b
  | "-gt" => compareIntegers (fun x y => decide (y < x)) a b
  | "-ge" => compareIntegers (fun x y => decide (y ≤ x)) a b
  | _ => none

/-- The arguments before and after the first occurrence of an operator. -/
def splitArgs? (op : String) (args : List String) : Option (List String × List String) :=
  match args.dropWhile (· != op) with
  | [] => none
  | _ :: right => some (args.takeWhile (· != op), right)

/-- Whether the condition that some arguments state holds; nothing if they state none.  `fuel`
bounds how deep conditions are joined. -/
def condition (fuel : Nat) (s : Session) (args : List String) : Option Bool :=
  match fuel with
  | 0 => none
  | fuel + 1 =>
    match args with
    | [] => some false
    | [a] => some (!a.isEmpty)
    | ["!", a] => some a.isEmpty
    | [op, a] => unaryCondition s op a
    | [a, op, b] =>
      if binaryOperators.contains op then binaryCondition a op b
      else if a = "!" then (condition fuel s [op, b]).map (!·)
      else if op = "-a" then some (!a.isEmpty && !b.isEmpty)
      else if op = "-o" then some (!a.isEmpty || !b.isEmpty)
      else if a = "(" && b = ")" then some (!op.isEmpty)
      else none
    | args =>
      match splitArgs? "-o" args with
      | some (l, r) => do some ((← condition fuel s l) || (← condition fuel s r))
      | none =>
        match splitArgs? "-a" args with
        | some (l, r) => do some ((← condition fuel s l) && (← condition fuel s r))
        | none =>
          match args with
          | "!" :: rest => (condition fuel s rest).map (!·)
          | _ => none

/-- The status of `test` with some arguments. -/
def testStatus (s : Session) (args : List String) : Nat :=
  match condition (args.length + 1) s args with
  | some true => 0
  | some false => 1
  | none => 2

end DeclAtlas.Script
