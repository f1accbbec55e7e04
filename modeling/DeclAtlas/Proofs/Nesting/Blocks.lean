import DeclAtlas.Nesting.Block
import DeclAtlas.Proofs.Nesting.Calls
import Mathlib.Tactic.SplitIfs

/-!
# Where a block ends

A block is cut out by whole lines: it ends with the first line after which the balance of braces is
at most zero.  The braces themselves say where it ends to the character: at the brace that closes
the one that opened it.  `matchedAt?` finds that brace, and this module compares the two.

Up to the line of the closing brace the two balances differ by a constant, the closing braces that
stand before the opening one on its line, so a block ends by that line if what follows the closing
brace opens no more than these make up for (`blockAt?_eq_of_take`).  Where a brace is left
open behind the closing one, as in `} else {`, the block goes on.

* `takeBalanced_append`: lines that bring the balance back decide what is taken.
* `takeBalanced_append_of_pos`: lines that never do are all taken.
-/

namespace DeclAtlas.Nesting

open Text

/-! ### Matching braces -/

/-- What stands after the brace that closes the last of `depth` open ones, if a text holds it. -/
def afterClosing? (depth : Int) : List Char → Option (List Char)
  | [] => none
  | c :: s =>
    if c = '}' ∧ depth ≤ 1 then some s else afterClosing? (depth + charDelta '{' '}' c) s

/-- The brace that closes the last of `depth` open ones: the number of lines before its own, and
what stands after it. -/
def closing? (depth : Int) : List Line → Option (Nat × Line)
  | [] => none
  | l :: ls =>
    match afterClosing? depth l with
    | some after => some (0, after)
    | none => (closing? (depth + braceDelta l) ls).map fun c => (c.1 + 1, c.2)

/-- The braces of a block, matched character by character. -/
structure MatchedBraces where
  /-- What stands before the opening brace on its line. -/
  before : Line
  /-- The 0-based number of the line of the closing brace. -/
  last : Nat
  /-- What stands after the closing brace on its line. -/
  after : Line
  deriving Repr, DecidableEq

/-- The braces of the block of the marker on line `marker`, counted from 0: the opening one is the
first of its line. -/
def matchedAt? (ls : List Line) (marker : Nat) : Option MatchedBraces := do
  let n ← openingAt? lookahead (ls.drop marker)
  match ls.drop (marker + n) with
  | [] => none
  | l :: later =>
    let (k, after) ← closing? 1 ((l.dropWhile (· != '{')).drop 1 :: later)
    some ⟨l.takeWhile (· != '{'), marker + n + k, after⟩

/-! ### Balances of matched braces -/

/-- The balance of some lines. -/
def total (d : Line → Int) : List Line → Int
  | [] => 0
  | l :: ls => d l + total d ls

section Total

variable {d : Line → Int}

@[simp] theorem total_nil : total d [] = 0 := rfl

@[simp] theorem total_cons (l : Line) (ls : List Line) : total d (l :: ls) = d l + total d ls := rfl

end Total

section Closing

variable {depth : Int} {c : Char} {s r : List Char} {ls : List Line} {k : Nat}

theorem braceDelta_cons (c : Char) (s : Line) :
    braceDelta (c :: s) = charDelta '{' '}' c + braceDelta s := rfl

/-- A character that does not close the last open brace leaves one open. -/
theorem one_le_add_charDelta (hd : 1 ≤ depth) (hc : ¬ (c = '}' ∧ depth ≤ 1)) :
    1 ≤ depth + charDelta '{' '}' c := by
  unfold charDelta
  split_ifs with hopen hclose
  · omega
  · have hle : ¬ depth ≤ 1 := fun hle => hc ⟨hclose, hle⟩
    omega
  · omega

theorem add_braceDelta_of_afterClosing? (hd : 1 ≤ depth) (h : afterClosing? depth s = some r) :
    depth + braceDelta s = braceDelta r := by
  induction s generalizing depth with
  | nil => exact absurd h nofun
  | cons c s ih =>
    rw [afterClosing?] at h
    rw [braceDelta_cons]
    split_ifs at h with hc
    · obtain ⟨rfl, hle⟩ := hc
      have hdelta : charDelta '{' '}' '}' = -1 := rfl
      rw [← Option.some.inj h, hdelta]
      omega
    · rw [← ih (one_le_add_charDelta hd hc) h, Int.add_assoc]

theorem one_le_add_braceDelta (hd : 1 ≤ depth) (h : afterClosing? depth s = none) :
    1 ≤ depth + braceDelta s := by
  induction s generalizing depth with
  | nil =>
    have hdelta : braceDelta [] = 0 := rfl
    omega
  | cons c s ih =>
    rw [afterClosing?] at h
    split_ifs at h with hc
    have hnext := ih (one_le_add_charDelta hd hc) h
    rwa [braceDelta_cons, ← Int.add_assoc]

/-- The balance after the line of the closing brace is that of what follows the brace, and on no
line before is the balance back. -/
theorem closing?_eq_some (hd : 1 ≤ depth) (h : closing? depth ls = some (k, r)) :
    k < ls.length ∧ depth + total braceDelta (ls.take (k + 1)) = braceDelta r ∧
      ∀ i ≤ k, 1 ≤ depth + total braceDelta (ls.take i) := by
  induction ls generalizing depth k with
  | nil => exact absurd h nofun
  | cons l ls ih =>
    rw [closing?] at h
    cases hafter : afterClosing? depth l with
    | some after =>
      rw [hafter] at h
      obtain ⟨rfl, rfl⟩ := Prod.mk.inj (Option.some.inj h)
      refine ⟨Nat.zero_lt_succ _, ?_, fun i hi => ?_⟩
      · rw [List.take_succ_cons, List.take_zero, total_cons, total_nil, Int.add_zero]
        exact add_braceDelta_of_afterClosing? hd hafter
      · rw [Nat.le_zero.mp hi, List.take_zero, total_nil, Int.add_zero]
        exact hd
    | none =>
      rw [hafter] at h
      obtain ⟨⟨k', r'⟩, hk, heq⟩ := Option.map_eq_some_iff.mp h
      obtain ⟨rfl, rfl⟩ := Prod.mk.inj heq
      obtain ⟨hlt, htotal, hbefore⟩ := ih (one_le_add_braceDelta hd hafter) hk
      refine ⟨Nat.succ_lt_succ hlt, ?_, fun i hi => ?_⟩
      · rw [List.take_succ_cons, total_cons, ← Int.add_assoc]
        exact htotal
      · cases i with
        | zero => rw [List.take_zero, total_nil, Int.add_zero]; exact hd
        | succ i =>
          rw [List.take_succ_cons, total_cons, ← Int.add_assoc]
          exact hbefore i (Nat.le_of_succ_le_succ hi)

end Closing

/-! ### What is taken -/

section Taken

variable {d : Line → Int} {depth : Int} {a : List Line}

/-- **Lines that bring the balance back decide what is taken.** -/
theorem takeBalanced_append (hne : a ≠ []) (h : depth + total d a ≤ 0) (b : List Line) :
    takeBalanced d depth (a ++ b) = takeBalanced d depth a := by
  induction a generalizing depth with
  | nil => exact absurd rfl hne
  | cons l a ih =>
    rw [List.cons_append, takeBalanced, takeBalanced]
    split_ifs with hl
    · rfl
    · rw [total_cons, ← Int.add_assoc] at h
      have ha : a ≠ [] := by
        rintro rfl
        rw [total_nil, Int.add_zero] at h
        exact hl h
      rw [ih ha h]

/-- **Lines that never bring the balance back are all taken.** -/
theorem takeBalanced_append_of_pos (h : ∀ i < a.length, 0 < depth + total d (a.take (i + 1)))
    (b : List Line) :
    takeBalanced d depth (a ++ b) = a ++ takeBalanced d (depth + total d a) b := by
  induction a generalizing depth with
  | nil => rw [total_nil, Int.add_zero]; rfl
  | cons l a ih =>
    have hl : 0 < depth + d l := by
      have hfirst := h 0 (Nat.zero_lt_succ _)
      rwa [List.take_succ_cons, List.take_zero, total_cons, total_nil, Int.add_zero] at hfirst
    rw [List.cons_append, takeBalanced, if_neg (by omega), ih, total_cons, ← Int.add_assoc]
    · rfl
    · intro i hi
      have hnext := h (i + 1) (Nat.succ_lt_succ hi)
      rwa [List.take_succ_cons, total_cons, ← Int.add_assoc] at hnext

end Taken

/-! ### The opening line -/

section Opening

variable {reach n : Nat} {ls ls' : List Line}

theorem openingAt?_eq_some :
    openingAt? reach ls = some n ↔ ls.findIdx? (·.contains '{') = some n ∧ n < reach := by
  rw [openingAt?, List.findIdx?_take, Option.bind_eq_some_iff]
  simp only [Option.guard_eq_some_iff, decide_eq_true_eq]
  constructor
  · rintro ⟨_, h, rfl, hlt⟩
    exact ⟨h, hlt⟩
  · rintro ⟨h, hlt⟩
    exact ⟨n, h, rfl, hlt⟩

/-- The opening line is found on the lines up to it. -/
theorem openingAt?_of_take (h : openingAt? reach ls = some n)
    (hsame : ls'.take (n + 1) = ls.take (n + 1)) : openingAt? reach ls' = some n := by
  have hfound : ∀ {ls : List Line}, openingAt? (n + 1) ls = some n ↔
      ls.findIdx? (·.contains '{') = some n :=
    openingAt?_eq_some.trans (and_iff_left (Nat.lt_succ_self n))
  have htake : openingAt? (n + 1) ls' = openingAt? (n + 1) ls := by
    rw [openingAt?, openingAt?, hsame]
  obtain ⟨hn, hreach⟩ := openingAt?_eq_some.mp h
  exact openingAt?_eq_some.mpr ⟨hfound.mp (htake.trans (hfound.mpr hn)), hreach⟩

end Opening

/-! ### Blocks -/

section Blocks

variable {marker : Nat} {ls ls' : List Line} {b : MatchedBraces}

/-- A line comes apart at its first opening brace. -/
theorem braceDelta_eq_of_contains {l : Line} (h : l.contains '{' = true) :
    braceDelta l = braceDelta (l.takeWhile (· != '{')) +
      (1 + braceDelta ((l.dropWhile (· != '{')).drop 1)) := by
  obtain ⟨before, after, rfl, hbefore⟩ := List.eq_append_cons_of_mem (List.contains_iff_mem.mp h)
  rw [takeWhile_bne_append hbefore, dropWhile_bne_append hbefore]
  exact delta_append before ('{' :: after)

/-- What the matched braces say about the lines of a block. -/
theorem exists_of_matchedAt? (h : matchedAt? ls marker = some b) :
    ∃ n k, openingAt? lookahead (ls.drop marker) = some n ∧ b.last = marker + n + k ∧
      b.last < ls.length ∧
      total braceDelta ((ls.drop (marker + n)).take (k + 1)) =
        braceDelta b.before + braceDelta b.after ∧
      ∀ i < k, braceDelta b.before < total braceDelta ((ls.drop (marker + n)).take (i + 1)) := by
  unfold matchedAt? at h
  simp only [Option.bind_eq_bind, Option.bind_eq_some_iff] at h
  obtain ⟨n, hn, h⟩ := h
  cases hdrop : ls.drop (marker + n) with
  | nil => rw [hdrop] at h; exact absurd h nofun
  | cons l later =>
    rw [hdrop] at h
    simp only [Option.bind_eq_some_iff] at h
    obtain ⟨⟨k, after⟩, hk, hb⟩ := h
    obtain rfl := Option.some.inj hb
    dsimp only
    have hopen : l.contains '{' = true := by
      obtain ⟨hlt, hp, -⟩ := List.findIdx?_eq_some_iff_getElem.mp (openingAt?_eq_some.mp hn).1
      have hl : (ls.drop marker)[n] = l := by
        have hcons := List.drop_eq_getElem_cons hlt
        rw [List.drop_drop, hdrop] at hcons
        exact (List.cons.inj hcons).1.symm
      rwa [hl] at hp
    obtain ⟨hlt, htotal, hbefore⟩ := closing?_eq_some (Int.le_refl 1) hk
    have hline := braceDelta_eq_of_contains hopen
    refine ⟨n, k, hn, rfl, ?_, ?_, fun i hi => ?_⟩
    · have hlength := congrArg List.length hdrop
      rw [List.length_drop, List.length_cons] at hlength
      rw [List.length_cons] at hlt
      show marker + n + k < ls.length
      omega
    · rw [hdrop, List.take_succ_cons, total_cons, hline]
      rw [List.take_succ_cons, total_cons] at htotal
      omega
    · have hpos := hbefore (i + 1) hi
      rw [List.take_succ_cons, total_cons] at hpos
      rw [hdrop, List.take_succ_cons, total_cons, hline]
      omega

/-- **A block ends by the line of its closing brace** if what stands around its braces on their lines
opens no more braces than it closes: then lines after that one have no part in it. -/
theorem blockAt?_eq_of_take (h : matchedAt? ls marker = some b)
    (hclosed : braceDelta b.before + braceDelta b.after ≤ 0)
    (hsame : ls'.take (b.last + 1) = ls.take (b.last + 1)) :
    blockAt? ls' marker = blockAt? ls marker := by
  obtain ⟨n, k, hn, hlast, hlt, htotal, -⟩ := exists_of_matchedAt? h
  have htake : ∀ {ls : List Line} {i j}, i + j ≤ b.last + 1 →
      (ls.drop i).take j = ((ls.take (b.last + 1)).drop i).take j := by
    intro ls i j hij
    rw [List.drop_take, List.take_take, Nat.min_eq_left (by omega)]
  have hn' : openingAt? lookahead (ls'.drop marker) = some n :=
    openingAt?_of_take hn (by rw [htake (by omega), hsame, ← htake (by omega)])
  have hlines : (ls'.drop (marker + n)).take (k + 1) = (ls.drop (marker + n)).take (k + 1) := by
    rw [htake (by omega), hsame, ← htake (by omega)]
  have hne : (ls.drop (marker + n)).take (k + 1) ≠ [] := by
    rw [Ne, ← List.length_eq_zero_iff, List.length_take, List.length_drop]
    omega
  have hzero : 0 + total braceDelta ((ls.drop (marker + n)).take (k + 1)) ≤ 0 := by omega
  rw [blockAt?, blockAt?, hn, hn', Option.map_some, Option.map_some]
  congr 2
  rw [← List.take_append_drop (k + 1) (ls'.drop (marker + n)), hlines,
    takeBalanced_append hne hzero, ← takeBalanced_append hne hzero, List.take_append_drop]

end Blocks

end DeclAtlas.Nesting
