import DeclAtlas.Proofs.Text.Reading

/-!
# Readings one after another

`allMatches` reads a text at one place after another, and goes on behind what it has read.  So it is
an induction of its own (`Advances.induction`): a place is read, and what counts then is the text
behind the reading; or it is not, and the next place counts.

When a text is continued, its readings stay and others may join them.  These begin behind the last
reading of the text, and one may begin inside the text and end in the continuation
(`allMatches_append`).
-/

namespace DeclAtlas.Text

variable {α : Type} {p : Reader α} {c : Char} {s t r : List Char} {a : α}

/-! ### One place after another -/

theorem matchesFrom_of_free (p : Reader α) (before before' : Option Char) (n : Nat)
    (s : List Char) : matchesFrom (fun _ => p) before n s = matchesFrom (fun _ => p) before' n s := by
  cases s with
  | nil => rfl
  | cons c s => cases n <;> rfl

/-- Characters that have been used are passed over. -/
theorem matchesFrom_append (u r : List Char) (before : Option Char) :
    matchesFrom (fun _ => p) before u.length (u ++ r) = allMatches (fun _ => p) r := by
  induction u generalizing before with
  | nil => exact matchesFrom_of_free p before none 0 r
  | cons c u ih => exact ih (some c)

theorem allMatches_of_read (h : p (c :: s) = some (a, r)) (hr : r <:+ s) :
    allMatches (fun _ => p) (c :: s) = a :: allMatches (fun _ => p) r := by
  obtain ⟨u, rfl⟩ := hr
  have hused : (u ++ r).length - r.length = u.length := by
    rw [List.length_append, Nat.add_sub_cancel]
  rw [allMatches, matchesFrom, h]
  simp only [hused, matchesFrom_append]

theorem allMatches_of_none (h : p (c :: s) = none) :
    allMatches (fun _ => p) (c :: s) = allMatches (fun _ => p) s := by
  rw [allMatches, matchesFrom, h]
  exact matchesFrom_of_free p _ _ _ _

/-- What a reader finds in a text is read at some place of the text. -/
theorem exists_of_mem_matchesFrom {α : Type} {p : PlacedReader α} {a : α} {s : List Char}
    {before : Option Char} {used : Nat} (h : a ∈ matchesFrom p before used s) :
    ∃ b v r, v <:+ s ∧ p b v = some (a, r) := by
  induction s generalizing before used with
  | nil => cases used <;> exact absurd h List.not_mem_nil
  | cons c s ih =>
    have htail : ∀ {b n}, a ∈ matchesFrom p b n s → ∃ b v r, v <:+ c :: s ∧ p b v = some (a, r) := by
      intro b n hmem
      obtain ⟨b', v, r, hv, hread⟩ := ih hmem
      exact ⟨b', v, r, hv.trans (List.suffix_cons c s), hread⟩
    cases used with
    | succ n => exact htail h
    | zero =>
      rw [matchesFrom] at h
      cases hread : p before (c :: s) with
      | none =>
        rw [hread] at h
        exact htail h
      | some x =>
        rw [hread] at h
        rcases List.mem_cons.mp h with rfl | h
        · exact ⟨before, c :: s, x.2, List.suffix_rfl, hread⟩
        · exact htail h

/-- A reader that uses at least one character. -/
def Advances (p : Reader α) : Prop := ∀ c s a r, p (c :: s) = some (a, r) → r <:+ s

/-- **Induction along the readings of a text.** -/
theorem Advances.induction (hp : Advances p) {P : List Char → Prop} (nil : P [])
    (read : ∀ {c s a r}, p (c :: s) = some (a, r) → r <:+ s → P r → P (c :: s))
    (pass : ∀ {c s}, p (c :: s) = none → P s → P (c :: s)) (s : List Char) : P s := by
  induction hn : s.length using Nat.strongRecOn generalizing s with
  | ind n ih =>
    subst hn
    cases s with
    | nil => exact nil
    | cons c s =>
      cases h : p (c :: s) with
      | none => exact pass h (ih s.length (Nat.lt_succ_self _) s rfl)
      | some x =>
        have hrest : x.2 <:+ s := hp c s _ _ h
        exact read h hrest (ih x.2.length (Nat.lt_succ_of_le hrest.length_le) x.2 rfl)

/-- Nothing is read of a text exactly if nothing is read at any of its places. -/
theorem Advances.allMatches_eq_nil_iff (hp : Advances p) : allMatches (fun _ => p) s = [] ↔
    ∀ v, v <:+ s → v ≠ [] → p v = none := by
  induction s with
  | nil =>
    refine iff_of_true rfl fun v hv hne => ?_
    exact absurd (List.suffix_nil.mp hv) hne
  | cons c s ih =>
    cases h : p (c :: s) with
    | some x =>
      rw [allMatches_of_read h (hp c s _ _ h)]
      refine iff_of_false (List.cons_ne_nil _ _) fun hall => ?_
      have hnone := hall (c :: s) List.suffix_rfl (List.cons_ne_nil c s)
      exact absurd (hnone.symm.trans h) nofun
    | none =>
      rw [allMatches_of_none h, ih]
      constructor
      · intro hall v hv hne
        rcases List.suffix_cons_iff.mp hv with rfl | hv
        · exact h
        · exact hall v hv hne
      · exact fun hall v hv => hall v (hv.trans (List.suffix_cons c s))

/-! ### Behind the last reading -/

/-- A reader that also gives the text behind what it has read. -/
def withRest (p : Reader α) : Reader (α × List Char) := fun s => (p s).map fun x => (x, x.2)

/-- What stands behind the last reading of a text: all of it, if nothing is read. -/
def behindMatches (p : Reader α) (s : List Char) : List Char :=
  ((allMatches (fun _ => withRest p) s).getLast?.map Prod.snd).getD s

theorem withRest_of_read (h : p s = some (a, r)) : withRest p s = some ((a, r), r) := by
  rw [withRest, h]
  rfl

theorem withRest_of_none (h : p s = none) : withRest p s = none := by
  rw [withRest, h]
  rfl

theorem Advances.withRest_eq_nil_iff (hp : Advances p) (s : List Char) :
    allMatches (fun _ => withRest p) s = [] ↔ allMatches (fun _ => p) s = [] := by
  induction s using hp.induction with
  | nil => exact iff_of_true rfl rfl
  | read h hr _ =>
    rw [allMatches_of_read h hr, allMatches_of_read (withRest_of_read h) hr]
    exact iff_of_false (List.cons_ne_nil _ _) (List.cons_ne_nil _ _)
  | pass h ih => rw [allMatches_of_none h, allMatches_of_none (withRest_of_none h), ih]

theorem behindMatches_of_read (h : p (c :: s) = some (a, r)) (hr : r <:+ s) :
    behindMatches p (c :: s) = behindMatches p r := by
  rw [behindMatches, allMatches_of_read (withRest_of_read h) hr, List.getLast?_cons, behindMatches]
  cases (allMatches (fun _ => withRest p) r).getLast? <;> rfl

theorem Advances.behindMatches_eq_self (hp : Advances p) (h : allMatches (fun _ => p) s = []) :
    behindMatches p s = s := by
  rw [behindMatches, (hp.withRest_eq_nil_iff s).mpr h]
  rfl

theorem Advances.behindMatches_of_none (hp : Advances p) (h : p (c :: s) = none)
    (hs : allMatches (fun _ => p) s ≠ []) : behindMatches p (c :: s) = behindMatches p s := by
  have hlast : (allMatches (fun _ => withRest p) s).getLast? ≠ none := by
    rw [Ne, List.getLast?_eq_none_iff, hp.withRest_eq_nil_iff]
    exact hs
  obtain ⟨x, hx⟩ := Option.ne_none_iff_exists'.mp hlast
  rw [behindMatches, allMatches_of_none (withRest_of_none h), behindMatches, hx]
  rfl

theorem Advances.allMatches_behindMatches (hp : Advances p) (s : List Char) :
    allMatches (fun _ => p) (behindMatches p s) = [] := by
  induction s using hp.induction with
  | nil => rfl
  | read h hr ih => rw [behindMatches_of_read h hr, ih]
  | @pass c s h ih =>
    by_cases hs : allMatches (fun _ => p) s = []
    · have hnone : allMatches (fun _ => p) (c :: s) = [] := (allMatches_of_none h).trans hs
      rw [hp.behindMatches_eq_self hnone, hnone]
    · rw [hp.behindMatches_of_none h hs, ih]

/-! ### Continued texts -/

/-- A reader whose readings are not changed by the continuation `t`.  What it reads only with the
continuation leaves no reading behind its beginning. -/
structure ReadsBefore (p : Reader α) (t : List Char) : Prop where
  advances : Advances p
  keeps : ∀ {s a r}, p s = some (a, r) → p (s ++ t) = some (a, r ++ t)
  joins : ∀ {s}, p s = none → (p (s ++ t)).isSome = true → allMatches (fun _ => p) s = []

/-- **A continued text is read on behind its last reading.** -/
theorem ReadsBefore.allMatches_append (hp : ReadsBefore p t) (s : List Char) :
    allMatches (fun _ => p) (s ++ t) =
      allMatches (fun _ => p) s ++ allMatches (fun _ => p) (behindMatches p s ++ t) := by
  induction s using hp.advances.induction with
  | nil => rfl
  | @read c s a r h hr ih =>
    have hmore : p (c :: (s ++ t)) = some (a, r ++ t) := hp.keeps h
    rw [List.cons_append, allMatches_of_read hmore (List.suffix_append_self_iff.mpr hr), ih,
      allMatches_of_read h hr, behindMatches_of_read h hr, List.cons_append]
  | @pass c s h ih =>
    by_cases hs : allMatches (fun _ => p) s = []
    · have hnone : allMatches (fun _ => p) (c :: s) = [] := (allMatches_of_none h).trans hs
      rw [hp.advances.behindMatches_eq_self hnone, hnone, List.nil_append]
    · have hmore : p (c :: (s ++ t)) = none := by
        cases hx : p (c :: (s ++ t)) with
        | none => rfl
        | some x =>
          have hjoins := hp.joins h (Option.isSome_iff_exists.mpr ⟨x, hx⟩)
          exact absurd ((allMatches_of_none h).symm.trans hjoins) hs
      rw [List.cons_append, allMatches_of_none hmore, ih, allMatches_of_none h,
        hp.advances.behindMatches_of_none h hs]

end DeclAtlas.Text
