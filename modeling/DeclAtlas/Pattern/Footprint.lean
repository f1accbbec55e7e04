import DeclAtlas.Character.ByteSequence
import DeclAtlas.Pattern.Basic
import DeclAtlas.Text.Utf8

/-!
# The room that patterns take

A pattern is stored twice, as an automaton over bytes that reads forward and as one that reads
backward, and a pattern that takes too much room either way is not admitted (`fits`).  Each state
of an automaton takes `stateRoom`; a state that tells several byte ranges apart takes `rangeRoom` for
each of them, and a state that forks takes `branchRoom` for each way on.

Repetitions are written out, so the room grows with the bounds.  A choice between given texts is
kept as a tree that shares their beginnings.
-/

namespace DeclAtlas.Pattern

open Character

/-- The direction in which an automaton reads. -/
inductive Direction where
  | forward
  | backward
  deriving Repr, DecidableEq

/-- The room of a state. -/
def stateRoom : Nat := 32

/-- The room of a byte range in a state that tells several apart. -/
def rangeRoom : Nat := 8

/-- The room of a way on in a state that forks. -/
def branchRoom : Nat := 4

/-! ### Sets -/

/-- What follows each leading byte range of some rows. -/
def underLeads : List ByteRow → List (ByteRange × List ByteRow)
  | [] => []
  | [] :: rows => underLeads rows
  | (b :: row) :: rows =>
    match underLeads rows with
    | [] => [(b, [row])]
    | (b', under) :: rest =>
      if b = b' then (b, row :: under) :: rest else (b, [row]) :: (b', under) :: rest

/-- The groups of rows below some rows, themselves included; `depth` bounds their length. -/
def rowGroups : (depth : Nat) → List ByteRow → List (List ByteRow)
  | 0, _ => []
  | depth + 1, rows =>
    rows :: (underLeads rows).flatMap fun (_, under) =>
      if under = [[]] then [] else rowGroups depth under

/-- The distinct beginnings of some rows. -/
def beginnings (rows : List ByteRow) : List ByteRow :=
  (rows.flatMap fun r => (List.range r.length).map fun n => r.take (n + 1)).eraseDups

/-- The room of a set of characters.  Forward, equal ends of byte sequences are shared; backward,
equal beginnings. -/
def setRoom (d : Direction) (s : CharSet) : Nat :=
  if s.isAscii then 2 * stateRoom + s.ranges.length * rangeRoom
  else
    let rows := byteRows s
    match d with
    | .forward =>
      let groups := (rowGroups 4 rows).eraseDups
      stateRoom + groups.foldl (fun n g => n + stateRoom + (underLeads g).length * rangeRoom) 0
    | .backward =>
      2 * stateRoom + rows.length * branchRoom + (beginnings rows).length * stateRoom

/-! ### Texts -/

/-- The bytes of a pattern that is a given text. -/
def literal? : Pattern → Option Bytes
  | .one s =>
    match s.ranges with
    | [(a, b)] => if a = b then some (Text.encode [Char.ofNat a]) else none
    | _ => none
  | .seq p q => do some ((← p.literal?) ++ (← q.literal?))
  | _ => none

/-- What is left of the texts that begin with a byte. -/
def behindByte (words : List Bytes) (b : UInt8) : List Bytes :=
  words.filterMap fun w => if w.head? = some b then some w.tail else none

/-- A step of a tree of texts: the texts are cut into runs where one of them ends; the number of
ends is counted, an end right behind another one at the beginning left out. -/
def runsOfWords : List Bytes → List (List Bytes) × Nat
  | [] => ([[]], 0)
  | [] :: rest =>
    let (runs, ends) := runsOfWords rest
    ([] :: runs, ends + 1)
  | w :: rest =>
    match runsOfWords rest with
    | ([], ends) => ([[w]], ends)
    | (r :: runs, ends) => ((w :: r) :: runs, ends)

/-- The texts without further empty ones behind an empty one at the beginning. -/
def withoutIdleEnds (words : List Bytes) : List Bytes :=
  match words with
  | [] :: rest => [] :: rest.dropWhile List.isEmpty
  | words => words

/-- The room of the tree of some texts; `depth` bounds their length. -/
def treeRoom : (depth : Nat) → List Bytes → Nat
  | 0, _ => 0
  | depth + 1, words =>
    let (runs, ends) := runsOfWords (withoutIdleEnds words)
    let runs := runs.filter (!·.isEmpty)
    let below := runs.map fun r =>
      let leads := (r.filterMap List.head?).eraseDups
      let state := if leads.length = 1 then stateRoom else stateRoom + leads.length * rangeRoom
      leads.foldl (fun n b =>
        let under := behindByte r b
        if under.all List.isEmpty then n else n + treeRoom depth under) state
    stateRoom + (runs.length + ends) * branchRoom + below.foldl (· + ·) 0

/-- The room of a choice between some texts. -/
def wordsRoom (d : Direction) (words : List Bytes) : Nat :=
  let words := match d with
    | .forward => words
    | .backward => words.map List.reverse
  let longest := words.foldl (fun n w => max n w.length) 0
  stateRoom + treeRoom (longest + 1) words

/-! ### Patterns -/

/-- The length of the shortest text that can match, unless a part matches nothing at all. -/
def leastLength : Pattern → Option Nat
  | .never => none
  | .empty | .place _ => some 0
  | .one _ => some 1
  | .seq p q => do some ((← p.leastLength) + (← q.leastLength))
  | .alt p q => do some (min (← p.leastLength) (← q.leastLength))
  | .again least _ p => p.leastLength.map (least * ·)
  | .group p => p.leastLength

/-- Whether every text that matches has at least one character. -/
def needsText (p : Pattern) : Bool := p.leastLength.any (0 < ·)

/-- Whether the automaton of a pattern ends in a state that forks. -/
def endsInFork (d : Direction) : Pattern → Bool
  | .never | .empty | .one _ | .place _ | .alt _ _ => false
  | .seq p q =>
    match d with
    | .forward => q.endsInFork d
    | .backward => p.endsInFork d
  | .again least none p => least != 0 || p.needsText
  | .again least (some most) p => least == most && least != 0 && p.endsInFork d
  | .group p => d == .backward && p.endsInFork d

/-- The room of the way out of a state that forks, if a pattern ends in one. -/
def wayOut (d : Direction) (p : Pattern) : Nat := if p.endsInFork d then branchRoom else 0

/-- The room of a repetition of a pattern that takes `room` and whose way out takes `out`. -/
def repeatedRoom (least : Nat) (most : Option Nat) (needsText : Bool) (room out : Nat) : Nat :=
  let copies := fun n : Nat => if n = 0 then stateRoom else n * room + (n - 1) * out
  match most with
  | none =>
    if least = 0 then
      if needsText then stateRoom + branchRoom + room + out
      else 3 * stateRoom + 4 * branchRoom + room + out
    else least * (room + out) + stateRoom + branchRoom
  | some most =>
    if least = 0 ∧ most = 1 then 2 * stateRoom + 2 * branchRoom + room + out
    else if least = most then copies least
    else
      copies least + stateRoom + (most - least) * (stateRoom + 2 * branchRoom + room + out) +
        if least = 0 then 0 else out

mutual

/-- The room of a pattern. -/
def room (d : Direction) : Pattern → Nat
  | .never => 2 * stateRoom
  | .empty | .place _ => stateRoom
  | .one s =>
    match literal? (.one s) with
    | some bytes => bytes.length * stateRoom
    | none => setRoom d s
  | .seq p q =>
    p.room d + q.room d + (match d with
      | .forward => wayOut d p
      | .backward => wayOut d q)
  | .alt p q =>
    match (branches (.alt p q)).mapM literal? with
    | some words => wordsRoom d words
    | none => 2 * stateRoom + branchRoom + p.room d + wayOut d p + q.branchesRoom d
  | .again least most p => repeatedRoom least most p.needsText (p.room d) (wayOut d p)
  | .group p =>
    match d with
    | .forward => p.room d + 2 * stateRoom
    | .backward => p.room d

/-- The room of the branches of a choice. -/
def branchesRoom (d : Direction) : Pattern → Nat
  | .alt p q => branchRoom + p.room d + wayOut d p + q.branchesRoom d
  | p => branchRoom + p.room d + wayOut d p

end

/-- The room of what surrounds every pattern. -/
def frameRoom : Direction → Nat
  | .forward => 6 * stateRoom + rangeRoom + 2 * branchRoom
  | .backward => 4 * stateRoom + rangeRoom + 2 * branchRoom

/-- The most room that an automaton may take. -/
def roomLimit : Nat := 10485760

/-- Whether a pattern takes no more room than it may. -/
def fits (p : Pattern) : Bool :=
  [Direction.forward, .backward].all fun d => p.room d + wayOut d p + frameRoom d ≤ roomLimit

end DeclAtlas.Pattern
