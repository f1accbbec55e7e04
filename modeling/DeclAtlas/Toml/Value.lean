import DeclAtlas.Number.Binary64
import DeclAtlas.Toml.Moment

/-!
# Values of a TOML document

A document is a tree of tables.  A table remembers how it came about, because that decides what may
be added to it: a table implied by a longer header may still get a header of its own, a table made
by a dotted key may get more dotted keys, and an inline table is complete as written.

A document may hold numbers of any size, but only those that a reader can take are in range.
-/

namespace DeclAtlas.Toml

/-- How a table came about. -/
inductive Origin where
  /-- By a header of its own, or as the root. -/
  | headed
  /-- By the header of a table inside it. -/
  | implied
  /-- By a dotted key. -/
  | dotted
  /-- Written in braces. -/
  | inlined
  deriving Repr, DecidableEq

/-- A number with a fraction or an exponent, or one of the special numbers. -/
inductive FloatValue where
  | finite (isNegative : Bool) (magnitude : Number.Decimal)
  | infinite (isNegative : Bool)
  | notANumber
  deriving Repr

/-- Whether a number is rounded to a finite one, unless it is written as infinite. -/
def FloatValue.isInRange : FloatValue → Bool
  | .finite _ magnitude => (Number.Binary64.ofDecimal? magnitude).isSome
  | .infinite _ => true
  | .notANumber => true

/-- A value of a document. -/
inductive Value where
  | string (s : String)
  | integer (n : Int)
  | float (x : FloatValue)
  | bool (b : Bool)
  | datetime (m : Moment)
  | array (xs : List Value)
  /-- The tables of a repeated header. -/
  | tables (ts : List (List (String × Value)))
  | table (origin : Origin) (members : List (String × Value))
  deriving Repr

/-- The members of a table. -/
abbrev Members := List (String × Value)

namespace Value

/-- The least whole number in range. -/
def minInteger : Int := -170141183460469231731687303715884105728

/-- The largest whole number in range. -/
def maxInteger : Int := 340282366920938463463374607431768211455

mutual

/-- Whether the numbers of a value are in range. -/
def isInRange : Value → Bool
  | .integer n => minInteger ≤ n && n ≤ maxInteger
  | .float x => x.isInRange
  | .array xs => itemsInRange xs
  | .tables ts => tablesInRange ts
  | .table _ ms => membersInRange ms
  | _ => true

/-- Whether the numbers of an array are in range. -/
def itemsInRange : List Value → Bool
  | [] => true
  | x :: xs => isInRange x && itemsInRange xs

/-- Whether the numbers of the tables of a repeated header are in range. -/
def tablesInRange : List (List (String × Value)) → Bool
  | [] => true
  | t :: ts => membersInRange t && tablesInRange ts

/-- Whether the numbers of a table are in range. -/
def membersInRange : List (String × Value) → Bool
  | [] => true
  | m :: ms => isInRange m.2 && membersInRange ms

end

end Value

namespace Members

/-- The value of a key. -/
def get? (ms : Members) (k : String) : Option Value := (ms.find? (·.1 == k)).map Prod.snd

/-- Gives a key another value. -/
def replace (k : String) (v : Value) (ms : Members) : Members :=
  ms.map fun m => if m.1 = k then (k, v) else m

/-- Adds a value under a key that is still free. -/
def add? (k : String) (v : Value) (ms : Members) : Option Members :=
  if (get? ms k).isSome then none else some (ms ++ [(k, v)])

/-- Adds a value at the rest of a dotted key, in a table that came about in the given way.  The way
leads through tables without a header of their own, and through the last table of a repeated
header; the table that it ends in must have been made by a dotted key. -/
def assignBelow? (v : Value) (origin : Origin) : List String → Members → Option Members
  | [], _ => none
  | [k], ms => if origin = .dotted then add? k v ms else none
  | k :: ks, ms =>
    match get? ms k with
    | none => (assignBelow? v .dotted ks []).map fun sub => ms ++ [(k, .table .dotted sub)]
    | some (.table .dotted sub) =>
      (assignBelow? v .dotted ks sub).map fun sub => replace k (.table .dotted sub) ms
    | some (.table .implied sub) =>
      (assignBelow? v .implied ks sub).map fun sub => replace k (.table .implied sub) ms
    | some (.tables ts) =>
      match ts.reverse with
      | [] => none
      | t :: earlier =>
        (assignBelow? v .headed ks t).map fun t => replace k (.tables (t :: earlier).reverse) ms
    | some _ => none

/-- Adds a value at a path of keys. -/
def assign? (v : Value) : List String → Members → Option Members
  | [k], ms => add? k v ms
  | key, ms => assignBelow? v .headed key ms

/-- Changes the table at a path of headers; of a repeated header the last table is meant. -/
def within? (f : Members → Option Members) : List String → Members → Option Members
  | [], ms => f ms
  | k :: ks, ms =>
    match get? ms k with
    | none => (within? f ks []).map fun sub => ms ++ [(k, .table .implied sub)]
    | some (.table .inlined _) => none
    | some (.table origin sub) =>
      (within? f ks sub).map fun sub => replace k (.table origin sub) ms
    | some (.tables ts) =>
      match ts.reverse with
      | [] => none
      | t :: earlier =>
        (within? f ks t).map fun t => replace k (.tables (t :: earlier).reverse) ms
    | some _ => none

/-- Opens the table of a header. -/
def open? (k : String) (ms : Members) : Option Members :=
  match get? ms k with
  | none => some (ms ++ [(k, .table .headed [])])
  | some (.table .implied sub) => some (replace k (.table .headed sub) ms)
  | some _ => none

/-- Opens one more table of a repeated header. -/
def openNext? (k : String) (ms : Members) : Option Members :=
  match get? ms k with
  | none => some (ms ++ [(k, .tables [[]])])
  | some (.tables ts) => some (replace k (.tables (ts ++ [[]])) ms)
  | some _ => none

end Members

end DeclAtlas.Toml
