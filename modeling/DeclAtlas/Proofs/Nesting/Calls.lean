import DeclAtlas.Nesting.Call
import DeclAtlas.Proofs.Text.Occurrences

/-!
# Calls on one line

The balance of a line is the sum of the balances of its parts (`delta_append`), and a line that
closes what it opens is a call of its own (`gather_of_balanced`).  The argument of a written call is
read back whatever parentheses it holds, because only the first opening and the last closing one
count (`outerArgument_append`).
-/

namespace DeclAtlas.Nesting

open Text

variable {o c : Char} {a b r : List Char}

/-! ### Balance -/

theorem delta_cons (x : Char) (l : Line) : delta o c (x :: l) = charDelta o c x + delta o c l := rfl

theorem delta_append (a b : Line) : delta o c (a ++ b) = delta o c a + delta o c b := by
  induction a with
  | nil => exact (Int.zero_add _).symm
  | cons x a ih => rw [List.cons_append, delta_cons, delta_cons, ih, Int.add_assoc]

/-- A text without delimiters has none open. -/
theorem delta_eq_zero (ho : o ∉ a) (hc : c ∉ a) : delta o c a = 0 := by
  induction a with
  | nil => rfl
  | cons x a ih =>
    simp only [List.mem_cons, not_or] at ho hc
    have hx : charDelta o c x = 0 := by
      rw [charDelta, if_neg (Ne.symm ho.1), if_neg (Ne.symm hc.1)]
    rw [delta_cons, hx, ih ho.2 hc.2, Int.zero_add]

/-- **A line that closes what it opens is a call of its own.** -/
theorem gather_of_balanced {l : Line} (h : parenDelta l ≤ 0) (later : List Line) :
    gather (l :: later) = ⟨trim l, 0⟩ := by
  have htaken : takeBalanced parenDelta 0 (l :: later) = [l] := by
    rw [takeBalanced, if_pos (by omega)]
  rw [gather, htaken]
  rfl

/-! ### Arguments -/

theorem cutLast?_append (h : c ∉ b) : cutLast? c (a ++ c :: b) = some (a, b) := by
  have hrev : (a ++ c :: b).reverse = b.reverse ++ c :: a.reverse := by simp
  have hb : c ∉ b.reverse := mt List.mem_reverse.mp h
  simp only [cutLast?, hrev, dropWhile_bne_append hb, takeWhile_bne_append hb, List.reverse_reverse]

/-- **What stands between the outermost parentheses is read back trimmed.** -/
theorem outerArgument_append (ha : '(' ∉ a) (hr : ')' ∉ r) :
    outerArgument (a ++ '(' :: (b ++ ')' :: r)) = trim b := by
  rw [outerArgument, dropWhile_bne_append ha]
  simp only [cutLast?_append hr]

/-- The argument of a call that begins a text. -/
theorem argumentOf_append (w : List Char) : argumentOf w (w ++ r) = outerArgument (w ++ r) := by
  rw [argumentOf, findFrom?_of_startsWith (startsWith_append w r)]
  rfl

/-! ### Forms -/

section Forms

variable {α β : Type} {read? : Line → List Line → Option (α × Nat)} {ls : List Line}

/-- What is read of a block was read on one of its lines. -/
theorem exists_of_mem_readForms {a : α} {within taken : Nat}
    (ha : a ∈ readForms read? within taken ls) :
    ∃ l ∈ ls, ∃ later extra, read? l later = some (a, extra) := by
  induction ls generalizing within taken with
  | nil => cases within <;> exact absurd ha List.not_mem_nil
  | cons l ls ih =>
    have htail : ∀ {w n}, a ∈ readForms read? w n ls →
        ∃ m ∈ l :: ls, ∃ later extra, read? m later = some (a, extra) := by
      intro w n h
      obtain ⟨m, hm, hread⟩ := ih h
      exact ⟨m, List.mem_cons_of_mem l hm, hread⟩
    cases within with
    | zero => exact absurd ha List.not_mem_nil
    | succ w =>
      cases taken with
      | succ n => exact htail ha
      | zero =>
        cases hread : read? l ls with
        | none =>
          rw [readForms, hread] at ha
          exact htail ha
        | some x =>
          rw [readForms, hread] at ha
          rcases List.mem_cons.mp ha with rfl | ha
          · exact ⟨l, List.mem_cons_self, ls, x.2, hread⟩
          · exact htail ha

/-- A reader that tells less of each form reads a block in the same steps. -/
theorem readForms_map {g : α → β} {readLess? : Line → List Line → Option (β × Nat)}
    (h : ∀ l ∈ ls, ∀ later, readLess? l later = (read? l later).map fun x => (g x.1, x.2))
    (within taken : Nat) :
    readForms readLess? within taken ls = (readForms read? within taken ls).map g := by
  induction ls generalizing within taken with
  | nil => cases within <;> rfl
  | cons l ls ih =>
    have htail := ih fun m hm => h m (List.mem_cons_of_mem l hm)
    cases within with
    | zero => rfl
    | succ w =>
      cases taken with
      | succ n => exact htail w n
      | zero =>
        rw [readForms, readForms, h l List.mem_cons_self]
        cases read? l ls with
        | none => exact htail w 0
        | some x => exact congrArg (g x.1 :: ·) (htail w x.2)

/-- Readers that agree on the lines of a block read it alike. -/
theorem readForms_congr {readAlike? : Line → List Line → Option (α × Nat)}
    (h : ∀ l ∈ ls, ∀ later, readAlike? l later = read? l later) (within taken : Nat) :
    readForms readAlike? within taken ls = readForms read? within taken ls := by
  have hmap : readForms readAlike? within taken ls =
      (readForms read? within taken ls).map id := by
    refine readForms_map (fun l hl later => ?_) within taken
    rw [h l hl later]
    exact Option.map_id'.symm
  rw [hmap, List.map_id]

end Forms

end DeclAtlas.Nesting
