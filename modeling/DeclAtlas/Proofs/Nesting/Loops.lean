import DeclAtlas.Proofs.Nesting.Segments
import DeclAtlas.Proofs.Nesting.SpannedCalls

/-!
# Loops over lines

Forms are read in a loop over line numbers: at a line that begins a call the call is gathered and the
loop goes on behind its last line, and any other line is passed over.  `Loop` is that loop, turn by
turn; it has no rule for a number beyond the lines, so a loop that ends has stayed within them.

Where a turn ends depends on the data, but it is always the line where the balance of parentheses
ends (`endsAt_iff`), which is one of the lines.  So every loop comes to its end (`exists_loop`) and its
turns consume the lines one by one, each line in one turn (`Loop.orderly`).  A reader of forms that
takes further lines only for the calls it gathers reads in the turns of the loop
(`Loop.readForms_eq`).
-/

namespace DeclAtlas.Nesting

/-- The number of the last line of the call that is gathered from line `i` on. -/
def lastGathered (ls : List Line) (i : Nat) : Nat := i + (gather (ls.drop i)).extra

/-- One turn of a loop. -/
structure Turn where
  /-- The number of the line the loop stands on. -/
  first : Nat
  /-- The number of the last line consumed. -/
  last : Nat
  /-- Whether the lines are consumed by a call that is gathered. -/
  gathers : Bool
  deriving Repr, DecidableEq

/-- The loop over the lines below number `bound` that stands on line `i`: its turns from there on and
the number at which it ends.  `begins` tells the lines that begin a call. -/
inductive Loop (begins : Line → Bool) (ls : List Line) (bound : Nat) :
    Nat → List Turn → Nat → Prop
  | ended {i : Nat} (hend : bound ≤ i) : Loop begins ls bound i [] i
  | passed {i stop : Nat} {l : Line} {ts : List Turn} (hi : i < bound) (hline : ls[i]? = some l)
    (hbegins : begins l = false) :
    Loop begins ls bound (i + 1) ts stop → Loop begins ls bound i (⟨i, i, false⟩ :: ts) stop
  | gathered {i stop : Nat} {l : Line} {ts : List Turn} (hi : i < bound) (hline : ls[i]? = some l)
    (hbegins : begins l = true) :
    Loop begins ls bound (lastGathered ls i + 1) ts stop →
      Loop begins ls bound i (⟨i, lastGathered ls i, true⟩ :: ts) stop

section Turns

variable {begins : Line → Bool} {ls : List Line} {bound i last start stop : Nat} {ts : List Turn}

/-! ### The end of a call -/

theorem endsAt_lastGathered (h : i < ls.length) : EndsAt parenDelta ls i (lastGathered ls i) := by
  obtain ⟨last, hends, htaken⟩ := exists_endsAt (d := parenDelta) h
  have hle := hends.first_le
  have hlast : lastGathered ls i = last := by
    rw [lastGathered, gather]
    dsimp only
    rw [htaken, length_segment hends.lt_length]
    omega
  rwa [hlast]

/-- **A call is gathered up to the line where the balance of parentheses ends.** -/
theorem endsAt_iff (h : i < ls.length) :
    EndsAt parenDelta ls i last ↔ last = lastGathered ls i := by
  constructor
  · intro hends
    exact hends.unique (endsAt_lastGathered h)
  · rintro rfl
    exact endsAt_lastGathered h

/-! ### Ends of loops -/

/-- **A loop comes to its end**, wherever it stands. -/
theorem exists_loop (hbound : bound ≤ ls.length) (i : Nat) :
    ∃ ts stop, Loop begins ls bound i ts stop := by
  induction hn : bound - i using Nat.strong_induction_on generalizing i with
  | _ n ih =>
    by_cases hi : i < bound
    · have hline : ls[i]? = some ls[i] := List.getElem?_eq_getElem (by omega)
      cases hbegins : begins ls[i] with
      | false =>
        obtain ⟨ts, stop, hnext⟩ := ih (bound - (i + 1)) (by omega) (i + 1) rfl
        exact ⟨_, stop, .passed hi hline hbegins hnext⟩
      | true =>
        have hle : i ≤ lastGathered ls i := Nat.le_add_right i _
        obtain ⟨ts, stop, hnext⟩ :=
          ih (bound - (lastGathered ls i + 1)) (by omega) (lastGathered ls i + 1) rfl
        exact ⟨_, stop, .gathered hi hline hbegins hnext⟩
    · exact ⟨[], i, .ended (Nat.not_lt.mp hi)⟩

/-- A loop ends at its bound or behind it, within the lines, and not before it began. -/
theorem Loop.bounds (h : Loop begins ls bound i ts stop) (hi : i ≤ ls.length) :
    bound ≤ stop ∧ i ≤ stop ∧ stop ≤ ls.length := by
  induction h with
  | ended hend => exact ⟨hend, Nat.le_refl _, hi⟩
  | passed _ hline _ _ ih =>
    obtain ⟨hlt, -⟩ := List.getElem?_eq_some_iff.mp hline
    obtain ⟨hbound, hle, hlength⟩ := ih hlt
    exact ⟨hbound, by omega, hlength⟩
  | gathered _ hline _ _ ih =>
    obtain ⟨hlt, -⟩ := List.getElem?_eq_some_iff.mp hline
    have hends := endsAt_lastGathered hlt
    obtain ⟨hbound, hle, hlength⟩ := ih hends.lt_length
    have hfirst := hends.first_le
    exact ⟨hbound, by omega, hlength⟩

/-! ### Order of turns -/

/-- The turns of a loop from line `start` up to line `stop`, that one not included. -/
structure Orderly (ls : List Line) (start stop : Nat) (ts : List Turn) : Prop where
  within : ∀ t ∈ ts, start ≤ t.first ∧ t.first ≤ t.last ∧ t.last < stop
  increasing : ts.Pairwise fun s t => s.last < t.first
  passed : ∀ t ∈ ts, t.gathers = false → t.last = t.first
  gathered : ∀ t ∈ ts, t.gathers = true → EndsAt parenDelta ls t.first t.last
  consumed : ∀ i, start ≤ i → i < stop → ∃! t, t ∈ ts ∧ t.first ≤ i ∧ i ≤ t.last

theorem orderly_nil : Orderly ls stop stop [] where
  within := fun _ ht => absurd ht List.not_mem_nil
  increasing := .nil
  passed := fun _ ht => absurd ht List.not_mem_nil
  gathered := fun _ ht => absurd ht List.not_mem_nil
  consumed := fun _ hle hlt => absurd hlt (Nat.not_lt.mpr hle)

/-- A turn and those behind its last line. -/
theorem Orderly.cons {t : Turn} (h : Orderly ls (t.last + 1) stop ts) (hle : t.first ≤ t.last)
    (hstop : t.last < stop) (hpassed : t.gathers = false → t.last = t.first)
    (hgathered : t.gathers = true → EndsAt parenDelta ls t.first t.last) :
    Orderly ls t.first stop (t :: ts) where
  within := by
    refine List.forall_mem_cons.mpr ⟨⟨Nat.le_refl _, hle, hstop⟩, fun s hs => ?_⟩
    obtain ⟨hfirst, hlast, hlt⟩ := h.within s hs
    exact ⟨by omega, hlast, hlt⟩
  increasing := List.pairwise_cons.mpr ⟨fun s hs => (h.within s hs).1, h.increasing⟩
  passed := List.forall_mem_cons.mpr ⟨hpassed, h.passed⟩
  gathered := List.forall_mem_cons.mpr ⟨hgathered, h.gathered⟩
  consumed := by
    intro i hstart hi
    by_cases hhere : i ≤ t.last
    · refine ⟨t, ⟨List.mem_cons_self, hstart, hhere⟩, ?_⟩
      rintro s ⟨hs, hfirst, -⟩
      rcases List.mem_cons.mp hs with rfl | hs
      · rfl
      · have hbehind := (h.within s hs).1
        omega
    · obtain ⟨s, ⟨hs, hcovers⟩, honly⟩ := h.consumed i (by omega) hi
      refine ⟨s, ⟨List.mem_cons_of_mem t hs, hcovers⟩, ?_⟩
      rintro r ⟨hr, hfirst, hlast⟩
      rcases List.mem_cons.mp hr with rfl | hr
      · exact absurd hlast hhere
      · exact honly r ⟨hr, hfirst, hlast⟩

/-- **The turns of a loop consume the lines one by one.** -/
theorem Loop.orderly (h : Loop begins ls bound i ts stop) (hi : i ≤ ls.length) :
    Orderly ls i stop ts := by
  induction h with
  | ended => exact orderly_nil
  | @passed i stop l ts _ hline _ hnext ih =>
    obtain ⟨hlt, -⟩ := List.getElem?_eq_some_iff.mp hline
    have hstop := (hnext.bounds hlt).2.1
    exact (ih hlt).cons (t := ⟨i, i, false⟩) (Nat.le_refl i) hstop (fun _ => rfl) nofun
  | @gathered i stop l ts _ hline _ hnext ih =>
    obtain ⟨hlt, -⟩ := List.getElem?_eq_some_iff.mp hline
    have hends := endsAt_lastGathered hlt
    have hstop := (hnext.bounds hends.lt_length).2.1
    exact (ih hends.lt_length).cons (t := ⟨i, lastGathered ls i, true⟩) hends.first_le hstop nofun
      fun _ => hends

/-! ### What is read -/

variable {α : Type} {read? : Line → List Line → Option (α × Nat)}

/-- A reader that gathers a call on the lines that begin one, and takes no further lines on others. -/
structure GathersOn (begins : Line → Bool) (read? : Line → List Line → Option (α × Nat)) :
    Prop where
  extra_gathered : ∀ {l}, begins l = true → ∀ later,
    ∃ a, read? l later = some (a, (gather (l :: later)).extra)
  extra_passed : ∀ {l}, begins l = false → ∀ {later a extra},
    read? l later = some (a, extra) → extra = 0

/-- What is read on line `i`. -/
def readAt? (read? : Line → List Line → Option (α × Nat)) (ls : List Line) (i : Nat) : Option α :=
  match ls.drop i with
  | [] => none
  | l :: later => (read? l later).map Prod.fst

theorem readAt?_eq (hi : i < ls.length) :
    readAt? read? ls i = (read? ls[i] (ls.drop (i + 1))).map Prod.fst := by
  rw [readAt?, List.drop_eq_getElem_cons hi]

/-- A line that says nothing is passed over. -/
theorem readForms_drop_of_none (hi : i < ls.length) (hbound : i < bound)
    (h : read? ls[i] (ls.drop (i + 1)) = none) :
    readForms read? (bound - i) 0 (ls.drop i) =
      readForms read? (bound - (i + 1)) 0 (ls.drop (i + 1)) := by
  have hrest : bound - i = bound - (i + 1) + 1 := by omega
  rw [hrest, List.drop_eq_getElem_cons hi, readForms, h]

/-- After a form the reading goes on behind the lines that it takes. -/
theorem readForms_drop_of_some {a : α} {extra : Nat} (hi : i < ls.length) (hbound : i < bound)
    (h : read? ls[i] (ls.drop (i + 1)) = some (a, extra)) :
    readForms read? (bound - i) 0 (ls.drop i) =
      a :: readForms read? (bound - (i + extra + 1)) 0 (ls.drop (i + extra + 1)) := by
  have hrest : bound - i = bound - (i + 1) + 1 := by omega
  have hbehind : i + extra + 1 = i + 1 + extra := Nat.add_right_comm i extra 1
  rw [hrest, List.drop_eq_getElem_cons hi, readForms, h]
  dsimp only
  rw [readForms_taken, Nat.sub_sub, List.drop_drop, hbehind]

/-- **Forms are read in the turns of the loop**, and nowhere else. -/
theorem Loop.readForms_eq (hread : GathersOn begins read?) (h : Loop begins ls bound i ts stop) :
    readForms read? (bound - i) 0 (ls.drop i) = ts.filterMap fun t => readAt? read? ls t.first := by
  induction h with
  | @ended i hend => rw [Nat.sub_eq_zero_of_le hend, readForms_zero, List.filterMap_nil]
  | @passed i stop l ts hi hline hbegins _ ih =>
    obtain ⟨hlt, rfl⟩ := List.getElem?_eq_some_iff.mp hline
    have hat : readAt? read? ls i = _ := readAt?_eq hlt
    rw [List.filterMap_cons]
    cases hform : read? ls[i] (ls.drop (i + 1)) with
    | none =>
      rw [hform] at hat
      rw [readForms_drop_of_none hlt hi hform, ih, hat]
      rfl
    | some x =>
      obtain ⟨a, extra⟩ := x
      obtain rfl := hread.extra_passed hbegins hform
      rw [hform] at hat
      rw [readForms_drop_of_some hlt hi hform, Nat.add_zero, ih, hat]
      rfl
  | @gathered i stop l ts hi hline hbegins _ ih =>
    obtain ⟨hlt, rfl⟩ := List.getElem?_eq_some_iff.mp hline
    obtain ⟨a, hform⟩ := hread.extra_gathered hbegins (ls.drop (i + 1))
    have hat : readAt? read? ls i = _ := readAt?_eq hlt
    rw [hform] at hat
    rw [← List.drop_eq_getElem_cons hlt] at hform
    rw [List.filterMap_cons, readForms_drop_of_some hlt hi hform, hat]
    exact congrArg (a :: ·) ih

end Turns

end DeclAtlas.Nesting
