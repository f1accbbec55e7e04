import DeclAtlas.Script.Token

/-!
# Reading scripts

The commands of a script are read by recursive descent.  A reserved word counts as such only where a
command may begin; everywhere else it is a word like any other.
-/

namespace DeclAtlas.Script

/-- A word that is one unquoted text. -/
def plainWord? : Word → Option String
  | [.text s false] => some (String.ofList s)
  | _ => none

/-- The text of a token that could be a reserved word. -/
def reserved? : Token → Option String
  | .word w _ => plainWord? w
  | _ => none

/-- Whether the tokens begin with the reserved word `s`. -/
def startsWithWord (s : String) (ts : List Token) : Bool :=
  (ts.head?.bind reserved?) == some s

/-- The tokens after the reserved word `s`. -/
def word? (s : String) (ts : List Token) : Option (List Token) :=
  if startsWithWord s ts then some ts.tail else none

/-- Whether a token is the operator `s`. -/
def isOp (s : String) : Token → Bool
  | .op o => o == s
  | _ => false

/-- The tokens after the operator `s`. -/
def op? (s : String) (ts : List Token) : Option (List Token) :=
  if ts.head?.any (isOp s) then some ts.tail else none

/-- The tokens after line breaks. -/
def skipBreaks : List Token → List Token
  | .newline :: ts => skipBreaks ts
  | ts => ts

/-- The reserved words that end a list of commands. -/
def closingWords : List String := ["then", "else", "elif", "fi", "do", "done", "esac", "\x7d"]

/-- Whether a list of commands ends before some tokens. -/
def endsList : List Token → Bool
  | [] => true
  | t :: _ => isOp ")" t || isOp ";;" t || (reserved? t).any closingWords.contains

/-- Splits an assignment into its name and its value. -/
def assignment? (w : Word) : Option (String × Word) :=
  match w with
  | .text s false :: ps =>
    match Text.cut? ['='] s with
    | some (name, value) =>
      if name.head?.any isNameStart && name.all isNameChar then
        some (String.ofList name, if value.isEmpty then ps else .text value false :: ps)
      else none
    | none => none
  | _ => none

/-- What an operator redirects, with the descriptor it concerns by default. -/
def redirectionOf? : String → Option (RedirectionKind × Nat)
  | "<" => some (.input, 0)
  | ">" => some (.output, 1)
  | ">|" => some (.output, 1)
  | ">>" => some (.append, 1)
  | ">&" => some (.duplicate, 1)
  | "<&" => some (.duplicate, 0)
  | _ => none

/-- Reads a redirection. -/
def redirection? : List Token → Option (Redirection × List Token)
  | .descriptor n :: .op o :: .word w _ :: ts =>
    (redirectionOf? o).map fun (k, _) => (⟨n, k, w⟩, ts)
  | .op o :: .word w _ :: ts => (redirectionOf? o).map fun (k, n) => (⟨n, k, w⟩, ts)
  | _ => none

/-- Reads all redirections at the beginning of some tokens; `fuel` bounds their number. -/
def redirections (fuel : Nat) (ts : List Token) : List Redirection × List Token :=
  match fuel with
  | 0 => ([], ts)
  | fuel + 1 =>
    match redirection? ts with
    | none => ([], ts)
    | some (r, ts) =>
      let (rs, ts) := redirections fuel ts
      (r :: rs, ts)

/-- A command with redirections, if there are any. -/
def redirect (c : Command) (rs : List Redirection) : Command :=
  if rs.isEmpty then c else .redirected c rs

/-- A compound command with the redirections behind it. -/
def withRedirections (c : Command) (ts : List Token) : Option (Command × List Token) :=
  let (rs, ts) := redirections ts.length ts
  some (redirect c rs, ts)

/-- What has been read of a simple command. -/
structure SimpleParts where
  assignments : List (String × Word) := []
  words : List Word := []
  redirections : List Redirection := []

/-- Reads the rest of a simple command. -/
def simpleRest (fuel : Nat) (p : SimpleParts) (ts : List Token) : SimpleParts × List Token :=
  match fuel with
  | 0 => (p, ts)
  | fuel + 1 =>
    match ts with
    | .word w _ :: rest =>
      match if p.words.isEmpty then assignment? w else none with
      | some a => simpleRest fuel { p with assignments := p.assignments ++ [a] } rest
      | none => simpleRest fuel { p with words := p.words ++ [w] } rest
    | _ =>
      match redirection? ts with
      | some (r, rest) => simpleRest fuel { p with redirections := p.redirections ++ [r] } rest
      | none => (p, ts)

/-- Reads a simple command. -/
def simple? (ts : List Token) : Option (Command × List Token) :=
  let line := match ts with
    | .word _ line :: _ => line
    | _ => 1
  let (p, rest) := simpleRest ts.length {} ts
  if p.assignments.isEmpty && p.words.isEmpty && p.redirections.isEmpty then none
  else some (redirect (.simple line p.assignments p.words) p.redirections, rest)

/-- Reads words up to a token that is none. -/
def wordsOf : List Token → List Word × List Token
  | .word w _ :: ts =>
    let (ws, ts) := wordsOf ts
    (w :: ws, ts)
  | ts => ([], ts)

/-- The tokens after a separator, if there is one, and after line breaks. -/
def skipSeparator (ts : List Token) : List Token := skipBreaks ((op? ";" ts).getD ts)

/-- Reads the patterns of an arm. -/
def armPatterns? : List Token → Option (List Word × List Token)
  | .word w _ :: .op ")" :: ts => some ([w], ts)
  | .word w _ :: .op "|" :: ts => (armPatterns? ts).map fun (ws, ts) => (w :: ws, ts)
  | _ => none

mutual

/-- Reads a list of commands up to what ends it. -/
def commands? (fuel : Nat) (ts : List Token) : Option (Command × List Token) :=
  match fuel with
  | 0 => none
  | fuel + 1 =>
    let ts := skipBreaks ts
    if endsList ts then some (.nothing, ts)
    else do
      let (c, ts) ← andOr? fuel ts
      match ts with
      | .newline :: rest =>
        let (d, ts) ← commands? fuel rest
        some (.sequence c d, ts)
      | .op o :: rest =>
        if o = ";" || o = "&" then
          let (d, ts) ← commands? fuel rest
          some (.sequence c d, ts)
        else some (c, ts)
      | _ => some (c, ts)

/-- Reads pipelines joined by conditions. -/
def andOr? (fuel : Nat) (ts : List Token) : Option (Command × List Token) :=
  match fuel with
  | 0 => none
  | fuel + 1 => do
    let (c, ts) ← pipeline? fuel ts
    andOrRest? fuel c ts

/-- Reads the pipelines after the first one. -/
def andOrRest? (fuel : Nat) (c : Command) (ts : List Token) : Option (Command × List Token) :=
  match fuel with
  | 0 => none
  | fuel + 1 =>
    match ts with
    | .op "&&" :: rest => do
      let (d, ts) ← pipeline? fuel (skipBreaks rest)
      andOrRest? fuel (.both c d) ts
    | .op "||" :: rest => do
      let (d, ts) ← pipeline? fuel (skipBreaks rest)
      andOrRest? fuel (.either c d) ts
    | _ => some (c, ts)

/-- Reads a pipeline. -/
def pipeline? (fuel : Nat) (ts : List Token) : Option (Command × List Token) :=
  match fuel with
  | 0 => none
  | fuel + 1 =>
    match word? "!" ts with
    | some rest => (pipeline? fuel rest).map fun (c, ts) => (.negated c, ts)
    | none => do
      let (c, ts) ← command? fuel ts
      match ts with
      | .op "|" :: rest =>
        let (d, ts) ← pipeline? fuel (skipBreaks rest)
        some (.pipe c d, ts)
      | _ => some (c, ts)

/-- Reads a command. -/
def command? (fuel : Nat) (ts : List Token) : Option (Command × List Token) :=
  match fuel with
  | 0 => none
  | fuel + 1 =>
    match ts with
    | [] => none
    | .op "(" :: rest => do
      let (c, ts) ← commands? fuel rest
      let ts ← op? ")" ts
      withRedirections (.separate c) ts
    | .op _ :: _ => simple? ts
    | .newline :: _ => none
    | .descriptor _ :: _ => simple? ts
    | .word w _ :: rest =>
      match plainWord? w with
      | some "if" => do
        let (c, ts) ← conditional? fuel rest
        withRedirections c ts
      | some "while" => loop? fuel true rest
      | some "until" => loop? fuel false rest
      | some "for" => each? fuel rest
      | some "case" => select? fuel rest
      | some "\x7b" => do
        let (c, ts) ← commands? fuel rest
        let ts ← word? "\x7d" ts
        withRedirections c ts
      | some name =>
        if closingWords.contains name then none
        else match rest with
          | .op "(" :: .op ")" :: rest => do
            let (c, ts) ← command? fuel (skipBreaks rest)
            some (.define name c, ts)
          | _ => simple? ts
      | none => simple? ts

/-- Reads what follows `if` or `elif`. -/
def conditional? (fuel : Nat) (ts : List Token) : Option (Command × List Token) :=
  match fuel with
  | 0 => none
  | fuel + 1 => do
    let (test, ts) ← commands? fuel ts
    let ts ← word? "then" ts
    let (yes, ts) ← commands? fuel ts
    match ts.head?.bind reserved? with
    | some "fi" => some (.conditional test yes .nothing, ts.tail)
    | some "else" =>
      let (no, ts) ← commands? fuel ts.tail
      let ts ← word? "fi" ts
      some (.conditional test yes no, ts)
    | some "elif" =>
      let (no, ts) ← conditional? fuel ts.tail
      some (.conditional test yes no, ts)
    | _ => none

/-- Reads what follows `while` or `until`. -/
def loop? (fuel : Nat) (while_ : Bool) (ts : List Token) : Option (Command × List Token) :=
  match fuel with
  | 0 => none
  | fuel + 1 => do
    let (test, ts) ← commands? fuel ts
    let (body, ts) ← block? fuel ts
    withRedirections (.loop while_ test body) ts

/-- Reads what follows `for`. -/
def each? (fuel : Nat) (ts : List Token) : Option (Command × List Token) :=
  match fuel with
  | 0 => none
  | fuel + 1 =>
    match ts with
    | .word w _ :: ts => do
      let name ← plainWord? w
      let ts := skipBreaks ts
      let (items, ts) := match word? "in" ts with
        | some rest =>
          let (ws, rest) := wordsOf rest
          (some ws, rest)
        | none => (none, ts)
      let (body, ts) ← block? fuel (skipSeparator ts)
      withRedirections (.each name items body) ts
    | _ => none

/-- Reads the body of a loop. -/
def block? (fuel : Nat) (ts : List Token) : Option (Command × List Token) :=
  match fuel with
  | 0 => none
  | fuel + 1 => do
    let ts ← word? "do" ts
    let (body, ts) ← commands? fuel ts
    let ts ← word? "done" ts
    some (body, ts)

/-- Reads what follows `case`. -/
def select? (fuel : Nat) (ts : List Token) : Option (Command × List Token) :=
  match fuel with
  | 0 => none
  | fuel + 1 =>
    match ts with
    | .word w _ :: ts => do
      let ts ← word? "in" (skipBreaks ts)
      let (arms, ts) ← arms? fuel ts
      withRedirections (.select w arms) ts
    | _ => none

/-- Reads the arms of a selection. -/
def arms? (fuel : Nat) (ts : List Token) : Option (List (List Word × Command) × List Token) :=
  match fuel with
  | 0 => none
  | fuel + 1 =>
    let ts := skipBreaks ts
    match word? "esac" ts with
    | some rest => some ([], rest)
    | none => do
      let (patterns, ts) ← armPatterns? ((op? "(" ts).getD ts)
      let (c, ts) ← commands? fuel ts
      match op? ";;" ts with
      | some rest =>
        let (arms, ts) ← arms? fuel rest
        some ((patterns, c) :: arms, ts)
      | none =>
        let ts ← word? "esac" (skipBreaks ts)
        some ([(patterns, c)], ts)

end

/-- The command that a script is. -/
def read? (s : List Char) : Option Command := do
  let ts ← tokens? s
  match commands? (12 * ts.length + 12) ts with
  | some (c, []) => some c
  | _ => none

end DeclAtlas.Script
