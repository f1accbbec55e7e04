import DeclAtlas.Script.Syntax
import DeclAtlas.Text.CharClass
import DeclAtlas.Text.Find

/-!
# Tokens of a script

A script falls into words, operators and line breaks.  Quotes, backslashes and dollar signs are
taken apart while a word is read; the script of a command substitution is kept as it is.
-/

namespace DeclAtlas.Script

open Text

/-- A token of a script. -/
inductive Token where
  | word (w : Word) (line : Nat)
  | op (s : String)
  /-- A number directly before a redirection. -/
  | descriptor (n : Nat)
  | newline
  deriving Repr

/-- Where a word, or a part of one, ends. -/
inductive Extent where
  /-- At a blank or an operator. -/
  | bare
  /-- At a double quote. -/
  | double
  /-- At a closing brace. -/
  | brace (quoted : Bool)
  deriving Repr, DecidableEq

/-- Whether an unquoted character ends a word. -/
def isMeta (c : Char) : Bool := [' ', '\t', '\n', ';', '&', '|', '(', ')', '<', '>'].contains c

/-- Whether a character ends a part of a word. -/
def Extent.endsAt : Extent → Char → Bool
  | .bare, c => isMeta c
  | .double, c => c == '"'
  | .brace _, c => c == '\x7d'

/-- Whether a part of a word is quoted. -/
def Extent.isQuoted : Extent → Bool
  | .bare => false
  | .double => true
  | .brace quoted => quoted

/-- Whether a character can begin the name of a variable. -/
def isNameStart (c : Char) : Bool := c.isAlpha || c == '_'

/-- Whether a character can stand in the name of a variable. -/
def isNameChar (c : Char) : Bool := c.isAlphanum || c == '_'

/-- The names of parameters that are single signs. -/
def isSpecial (c : Char) : Bool := ['@', '*', '#', '?', '$', '!', '-'].contains c || c.isDigit

/-- Reads up to a closing parenthesis; `depth` counts the open ones inside, and `quote` is the
quotation mark that is open. -/
def insideParens? (depth : Nat) (quote : Option Char) : List Char → Option (List Char × List Char)
  | [] => none
  | c :: r =>
    let go := fun depth quote => (insideParens? depth quote r).map fun (s, t) => (c :: s, t)
    match quote with
    | some q => go depth (if c = q then none else quote)
    | none =>
      if c = '\'' || c = '"' then go depth (some c)
      else if c = '(' then go (depth + 1) none
      else if c = ')' then
        match depth with
        | 0 => some ([], r)
        | depth + 1 => go depth none
      else go depth none

/-- Reads up to a closing back quote, backslashes before back quotes removed. -/
def insideBackQuotes? : List Char → Option (List Char × List Char)
  | [] => none
  | '\x60' :: r => some ([], r)
  | '\\' :: '\x60' :: r => (insideBackQuotes? r).map fun (s, t) => ('\x60' :: s, t)
  | c :: r => (insideBackQuotes? r).map fun (s, t) => (c :: s, t)

/-- The changes to the value of a parameter, the longer ones first. -/
def changes : List String :=
  [":-", ":+", ":=", "-", "+", "=", "##", "#", "%%", "%"]

/-- The change at the beginning of a text. -/
def change? (s : List Char) : Option (String × List Char) :=
  changes.findSome? fun c => (dropLead? c.toList s).map (c, ·)

/-- Reads the name of a parameter. -/
def paramName? (s : List Char) : Option (String × List Char) :=
  match s with
  | [] => none
  | c :: r =>
    if isNameStart c then
      some (String.ofList (s.takeWhile isNameChar), s.dropWhile isNameChar)
    else if isSpecial c then some (String.singleton c, r)
    else none

/-- Puts a piece before others; neighbouring texts that are quoted alike become one. -/
def consPiece (p : Piece) (ps : List Piece) : List Piece :=
  match p, ps with
  | .text s true, .text t true :: ps => .text (s ++ t) true :: ps
  | .text s false, .text t false :: ps => .text (s ++ t) false :: ps
  | p, ps => p :: ps

mutual

/-- Reads the pieces of a part of a word up to the sign that ends it, which is left. -/
def pieces? (fuel : Nat) (e : Extent) (s : List Char) : Option (List Piece × List Char) :=
  match fuel with
  | 0 => none
  | fuel + 1 =>
    let next := fun (p : Piece) (r : List Char) =>
      (pieces? fuel e r).map fun (ps, t) => (consPiece p ps, t)
    match s with
    | [] => if e = .bare then some ([], []) else none
    | c :: r =>
      if e.endsAt c then some ([], s)
      else if c = '\\' then
        match r with
        | [] => next (.text ['\\'] e.isQuoted) []
        | '\n' :: t => pieces? fuel e t
        | d :: t =>
          if e.isQuoted && !(['$', '\x60', '"', '\\'].contains d) then
            next (.text ['\\', d] true) t
          else next (.text [d] true) t
      else if c = '\'' && !e.isQuoted then
        match cut? ['\''] r with
        | some (q, t) => next (.text q true) t
        | none => none
      else if c = '"' then
        match pieces? fuel .double r with
        | some (ps, '"' :: t) =>
          (pieces? fuel e t).map fun (qs, u) =>
            ((if ps.isEmpty then [.text [] true] else ps) ++ qs, u)
        | _ => none
      else if c = '\x60' then
        match insideBackQuotes? r with
        | some (q, t) => next (.output q e.isQuoted) t
        | none => none
      else if c = '$' then
        match dollar? fuel e.isQuoted r with
        | some (p, t) => next p t
        | none => none
      else next (.text [c] e.isQuoted) r

/-- Reads what follows a dollar sign. -/
def dollar? (fuel : Nat) (quoted : Bool) (s : List Char) : Option (Piece × List Char) :=
  match fuel with
  | 0 => none
  | fuel + 1 =>
    match s with
    | '(' :: '(' :: _ => none
    | '(' :: r => (insideParens? 0 none r).map fun (q, t) => (.output q quoted, t)
    | '{' :: '#' :: r =>
      match paramName? r with
      | some (n, '}' :: t) => some (.param n "length" [] quoted, t)
      | _ =>
        match r with
        | '}' :: t => some (.param "#" "" [] quoted, t)
        | _ => none
    | '{' :: r =>
      match paramName? r with
      | none => none
      | some (n, t) =>
        match t with
        | '}' :: u => some (.param n "" [] quoted, u)
        | _ =>
          match change? t with
          | none => none
          | some (change, u) =>
            match pieces? fuel (.brace quoted) u with
            | some (arg, '}' :: v) => some (.param n change arg quoted, v)
            | _ => none
    | _ =>
      match paramName? s with
      | some (n, t) => some (.param n "" [] quoted, t)
      | none => some (.text ['$'] quoted, s)

end

/-- The operators, the longer ones first. -/
def operators : List String :=
  ["<<-", "&&", "||", ";;", "<<", ">>", ">&", "<&", "<>", ">|", ";", "&", "|", "(", ")", "<", ">"]

/-- The operator at the beginning of a text. -/
def operator? (s : List Char) : Option (String × List Char) :=
  operators.findSome? fun o => (dropLead? o.toList s).map (o, ·)

/-- The number of line breaks among the first `n` characters. -/
def lineBreaks (n : Nat) (s : List Char) : Nat := (s.take n).count '\n'

/-- The tokens of a text that begins on line `line`. -/
def tokensFrom? (fuel line : Nat) (s : List Char) : Option (List Token) :=
  match fuel with
  | 0 => none
  | fuel + 1 =>
    match s with
    | [] => some []
    | '\n' :: r => (tokensFrom? fuel (line + 1) r).map (.newline :: ·)
    | ' ' :: r => tokensFrom? fuel line r
    | '\t' :: r => tokensFrom? fuel line r
    | '\\' :: '\n' :: r => tokensFrom? fuel (line + 1) r
    | '#' :: r => tokensFrom? fuel line (r.dropWhile (· != '\n'))
    | c :: _ =>
      match operator? s with
      | some (o, r) => (tokensFrom? fuel line r).map (.op o :: ·)
      | none =>
        let digits := s.takeWhile Char.isDigit
        let after := s.dropWhile Char.isDigit
        if c.isDigit && (after.head? == some '<' || after.head? == some '>') then
          match asciiNat? digits with
          | some n => (tokensFrom? fuel line after).map (.descriptor n :: ·)
          | none => none
        else
          match pieces? (2 * s.length + 2) .bare s with
          | none => none
          | some (w, r) =>
            (tokensFrom? fuel (line + lineBreaks (s.length - r.length) s) r).map (.word w line :: ·)

/-- The tokens of a script. -/
def tokens? (s : List Char) : Option (List Token) := tokensFrom? (s.length + 1) 1 s

end DeclAtlas.Script
