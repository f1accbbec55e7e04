import DeclAtlas.Text.Reading

/-!
# Dates and times

A moment is a date, a time of day, or both; only a date with a time may say how far its clock is
from the world's.  Reading takes the few spellings that differ in case, in the separator and in
what is left out, and `Moment.text` writes the one that is complete.
-/

namespace DeclAtlas.Toml

open Text

/-- A day. -/
structure Date where
  year : Nat
  month : Nat
  day : Nat
  deriving Repr, DecidableEq

/-- A time of day. -/
structure ClockTime where
  hour : Nat
  minute : Nat
  second : Nat
  /-- The digits of the fraction of a second. -/
  fraction : List Char
  deriving Repr, DecidableEq

/-- How far a clock is from the world's. -/
inductive ClockOffset where
  /-- Not at all. -/
  | universal
  /-- Ahead by some minutes, or behind. -/
  | ahead (minutes : Int)
  deriving Repr, DecidableEq

/-- A moment. -/
inductive Moment where
  | day (d : Date)
  | time (t : ClockTime)
  | dayTime (d : Date) (t : ClockTime) (offset : Option ClockOffset)
  deriving Repr, DecidableEq

/-! ### Reading -/

/-- Reads the number that exactly `n` digits write, between two bounds. -/
def field? (n lo hi : Nat) : Reader Nat := fun s =>
  let ds := s.take n
  if ds.length = n ∧ ds.all Char.isDigit then
    match asciiNat? ds with
    | some v => if lo ≤ v ∧ v ≤ hi then some (v, s.drop n) else none
    | none => none
  else none

/-- The number of days of a month. -/
def daysIn (year month : Nat) : Nat :=
  if month = 2 then
    if year % 4 = 0 ∧ (year % 100 ≠ 0 ∨ year % 400 = 0) then 29 else 28
  else if [4, 6, 9, 11].contains month then 30
  else 31

/-- Reads a date. -/
def date? : Reader Date := fun s => do
  let (year, s) ← field? 4 0 9999 s
  let (month, s) ← (dropLead? ['-'] s).bind (field? 2 1 12)
  let (day, s) ← (dropLead? ['-'] s).bind (field? 2 1 (daysIn year month))
  some (⟨year, month, day⟩, s)

/-- Reads the digits of the fraction of a second, if there is one. -/
def fraction? : Reader (List Char)
  | '.' :: s => run? Char.isDigit s
  | s => some ([], s)

/-- Reads hours and minutes. -/
def hourMinute? : Reader (Nat × Nat) := fun s => do
  let (hour, s) ← field? 2 0 23 s
  let (minute, s) ← (dropLead? [':'] s).bind (field? 2 0 59)
  some ((hour, minute), s)

/-- Reads a time of day; the seconds may be missing. -/
def time? : Reader ClockTime := fun s => do
  let ((hour, minute), s) ← hourMinute? s
  match s with
  | ':' :: r =>
    let (second, r) ← field? 2 0 60 r
    let (fraction, r) ← fraction? r
    some (⟨hour, minute, second, fraction⟩, r)
  | r => some (⟨hour, minute, 0, []⟩, r)

/-- The offset that a text is, if any is given. -/
def offset? : List Char → Option (Option ClockOffset)
  | [] => some none
  | ['Z'] => some (some .universal)
  | ['z'] => some (some .universal)
  | c :: s =>
    if c = '+' ∨ c = '-' then
      match hourMinute? s with
      | some ((hour, minute), []) =>
        let minutes : Int := hour * 60 + minute
        some (some (.ahead (if c = '-' then -minutes else minutes)))
      | _ => none
    else none

/-- The moment that a text is. -/
def Moment.ofChars? (s : List Char) : Option Moment :=
  match date? s, time? s with
  | some (d, []), _ => some (.day d)
  | some (d, c :: r), _ =>
    if c = 'T' ∨ c = 't' ∨ c = ' ' then do
      let (t, o) ← time? r
      let offset ← offset? o
      some (.dayTime d t offset)
    else none
  | none, some (t, []) => some (.time t)
  | none, _ => none

/-! ### Writing -/

/-- A number in decimal digits, with zeros in front up to a width. -/
def padded (width n : Nat) : List Char :=
  let ds := Nat.toDigits 10 n
  List.replicate (width - ds.length) '0' ++ ds

/-- The text of a date. -/
def Date.text (d : Date) : List Char :=
  padded 4 d.year ++ '-' :: padded 2 d.month ++ '-' :: padded 2 d.day

/-- The text of the fraction of a second: at most nine digits, without zeros at the end. -/
def fractionText (digits : List Char) : List Char :=
  match ((digits.take 9).reverse.dropWhile (· == '0')).reverse with
  | [] => []
  | ds => '.' :: ds

/-- The text of a time of day. -/
def ClockTime.text (t : ClockTime) : List Char :=
  padded 2 t.hour ++ ':' :: padded 2 t.minute ++ ':' :: padded 2 t.second ++
    fractionText t.fraction

/-- The text of an offset. -/
def ClockOffset.text : ClockOffset → List Char
  | .universal => ['Z']
  | .ahead minutes =>
    (if minutes < 0 then '-' else '+') ::
      (padded 2 (minutes.natAbs / 60) ++ ':' :: padded 2 (minutes.natAbs % 60))

/-- The text of a moment. -/
def Moment.text : Moment → String
  | .day d => String.ofList d.text
  | .time t => String.ofList t.text
  | .dayTime d t offset =>
    String.ofList (d.text ++ 'T' :: t.text ++ (offset.map ClockOffset.text).getD [])

end DeclAtlas.Toml
