import DeclAtlas.Proofs.Nesting.Blocks

/-!
# Segments of lines

A block and a call are cut out alike: lines are taken from a first one on until the balance of the
delimiters is at most zero.  This file says of a line number that it is where the taking ends
(`EndsAt`), which is a fact about running balances alone, and that `takeBalanced` takes the lines up
to that one (`exists_endsAt`).  There is only one such line (`EndsAt.unique`), so whatever is known
to be taken ends there.

Lines that were taken are taken again from themselves (`takeBalanced_takeBalanced`).
-/

namespace DeclAtlas.Nesting

variable {d : Line → Int} {depth : Int} {ls : List Line} {first last i j : Nat}

/-! ### Segments -/

/-- The lines of a text from number `i` up to and including number `j`. -/
def segment (ls : List Line) (i j : Nat) : List Line := (ls.drop i).take (j + 1 - i)

theorem length_segment (hj : j < ls.length) : (segment ls i j).length = j + 1 - i := by
  rw [segment, List.length_take, List.length_drop]
  omega

theorem segment_append_drop (h : i ≤ j + 1) :
    segment ls i j ++ ls.drop (j + 1) = ls.drop i := by
  have hdrop : ls.drop (j + 1) = (ls.drop i).drop (j + 1 - i) := by
    rw [List.drop_drop, Nat.add_sub_cancel' h]
  rw [segment, hdrop, List.take_append_drop]

/-- A segment from a later line on is the end of the segment. -/
theorem drop_segment (n : Nat) : (segment ls i j).drop n = segment ls (i + n) j := by
  rw [segment, segment, List.drop_take, List.drop_drop, Nat.sub_sub]

/-! ### Where the taking ends -/

/-- The running balance from line `first` on is positive before line `last`, and at most zero with
it or else line `last` is the final one. -/
structure EndsAt (d : Line → Int) (ls : List Line) (first last : Nat) : Prop where
  first_le : first ≤ last
  lt_length : last < ls.length
  open_before : ∀ i, first ≤ i → i < last → 0 < total d (segment ls first i)
  closed_or_final : total d (segment ls first last) ≤ 0 ∨ last + 1 = ls.length

/-- The taking ends on one line only. -/
theorem EndsAt.unique (h : EndsAt d ls first last) (h' : EndsAt d ls first j) : last = j := by
  have hle : ∀ {a b}, EndsAt d ls first a → EndsAt d ls first b → b ≤ a := by
    intro a b ha hb
    by_contra hlt
    have hopen := hb.open_before a ha.first_le (Nat.not_le.mp hlt)
    have hlength := hb.lt_length
    rcases ha.closed_or_final with hclosed | hfinal
    · exact absurd hclosed (Int.not_le.mpr hopen)
    · omega
  exact Nat.le_antisymm (hle h' h) (hle h h')

/-- What is taken is a beginning of the lines: something is left open before its last line, and
nothing with it unless there are no more lines. -/
theorem exists_takeBalanced_eq_take (depth : Int) (hne : ls ≠ []) :
    ∃ n < ls.length, takeBalanced d depth ls = ls.take (n + 1) ∧
      (∀ i < n, 0 < depth + total d (ls.take (i + 1))) ∧
      (depth + total d (ls.take (n + 1)) ≤ 0 ∨ n + 1 = ls.length) := by
  induction ls generalizing depth with
  | nil => exact absurd rfl hne
  | cons l ls ih =>
    have hfirst : depth + total d ((l :: ls).take 1) = depth + d l := by
      rw [List.take_succ_cons, List.take_zero, total_cons, total_nil, Int.add_zero]
    have hnone : ∀ i < 0, 0 < depth + total d ((l :: ls).take (i + 1)) := by
      intro i hi
      exact absurd hi (Nat.not_lt_zero i)
    by_cases hclosed : depth + d l ≤ 0
    · refine ⟨0, Nat.zero_lt_succ _, ?_, hnone, .inl (by rwa [hfirst])⟩
      rw [takeBalanced, if_pos hclosed]
      rfl
    · rw [takeBalanced, if_neg hclosed]
      by_cases hls : ls = []
      · subst hls
        exact ⟨0, Nat.zero_lt_succ _, rfl, hnone, .inr rfl⟩
      · obtain ⟨n, hn, htake, hbefore, hend⟩ := ih (depth + d l) hls
        refine ⟨n + 1, Nat.succ_lt_succ hn, ?_, fun i hi => ?_, ?_⟩
        · rw [htake, List.take_succ_cons]
        · cases i with
          | zero => rw [hfirst]; omega
          | succ i =>
            rw [List.take_succ_cons, total_cons, ← Int.add_assoc]
            exact hbefore i (Nat.lt_of_succ_lt_succ hi)
        · rw [List.take_succ_cons, total_cons, ← Int.add_assoc, List.length_cons]
          exact hend.imp_right (congrArg (· + 1))

/-- **Lines are taken up to the one where the balance ends.** -/
theorem exists_endsAt (h : first < ls.length) :
    ∃ last, EndsAt d ls first last ∧ takeBalanced d 0 (ls.drop first) = segment ls first last := by
  have hlength : (ls.drop first).length = ls.length - first := List.length_drop
  have hne : ls.drop first ≠ [] := by
    rw [Ne, ← List.length_eq_zero_iff]
    omega
  obtain ⟨n, hn, htake, hbefore, hend⟩ := exists_takeBalanced_eq_take (d := d) 0 hne
  have hsegment : ∀ i, segment ls first (first + i) = (ls.drop first).take (i + 1) := by
    intro i
    rw [segment, Nat.add_assoc, Nat.add_sub_cancel_left]
  refine ⟨first + n, ⟨Nat.le_add_right first n, by omega, fun i hle hlt => ?_, ?_⟩, ?_⟩
  · obtain ⟨k, rfl⟩ := Nat.exists_eq_add_of_le hle
    have hopen := hbefore k (by omega)
    rwa [hsegment, ← Int.zero_add (total d _)]
  · rw [hsegment, ← Int.zero_add (total d _)]
    exact hend.imp_right fun hfinal => by omega
  · rw [htake, hsegment]

/-- **What was taken is taken again from itself.** -/
theorem takeBalanced_takeBalanced (ls : List Line) :
    takeBalanced d depth (takeBalanced d depth ls) = takeBalanced d depth ls := by
  induction ls generalizing depth with
  | nil => rfl
  | cons l ls ih =>
    by_cases hclosed : depth + d l ≤ 0
    · rw [takeBalanced, if_pos hclosed, takeBalanced, if_pos hclosed]
    · rw [takeBalanced, if_neg hclosed, takeBalanced, if_neg hclosed, ih]

end DeclAtlas.Nesting
