import DeclAtlas.Proofs.Compat.Snapshots

/-!
# The listing and a snapshot

A listing puts the flags that a date decides on into one list; a snapshot tells those that are on
from those that are not yet on.  Apart from this the two agree (`listing_joins_snapshot`).

Each of the two lists of the snapshot is sorted by itself, and the listing sorts them together.
Sorting goes along with a selection of flags (`sortByDate_filter`), so the lists of the snapshot are
parts of the sorted list, and the flags that are on come first in it: they are those whose date has
come.  Only a flag that is on at all dates and names a date besides can stand out of place.
-/

namespace DeclAtlas.Compat

/-! ### Sorting a selection -/

/-- **Selected flags are sorted as they stand in the sorted list.** -/
theorem sortByDate_filter (p : Flag → Bool) (fs : List Flag) :
    sortByDate (fs.filter p) = (sortByDate fs).filter p := by
  have hpart : (sortByDate (fs.filter p)).Sublist (sortByDate fs) :=
    sublist_sortByDate List.filter_sublist
  have hselected : (sortByDate (fs.filter p)).filter p = sortByDate (fs.filter p) := by
    refine List.filter_eq_self.mpr fun f hf => ?_
    exact (List.mem_filter.mp ((perm_sortByDate _).mem_iff.mp hf)).2
  have hlength : (sortByDate (fs.filter p)).length = ((sortByDate fs).filter p).length := by
    rw [(perm_sortByDate _).length_eq, ((perm_sortByDate fs).filter p).length_eq]
  refine List.Sublist.eq_of_length ?_ hlength
  rw [← hselected]
  exact hpart.filter p

/-- A list in which the selected elements stand in front is cut in two by the selection. -/
theorem filter_append_of_front {α : Type} {p : α → Bool} {l : List α}
    (h : l.Pairwise fun a b => p b = true → p a = true) :
    l.filter p ++ l.filter (fun a => !p a) = l := by
  induction l with
  | nil => rfl
  | cons a l ih =>
    obtain ⟨ha, hl⟩ := List.pairwise_cons.mp h
    cases hp : p a with
    | true => simp [hp, ih hl]
    | false =>
      have hnone : ∀ b ∈ l, p b = false := by
        intro b hb
        refine Bool.eq_false_iff.mpr fun hpb => ?_
        exact absurd ((ha b hb hpb).symm.trans hp) (by decide)
      have hfront : l.filter p = [] := List.filter_eq_nil_iff.mpr (by simpa using hnone)
      have hback : l.filter (fun b => !p b) = l := List.filter_eq_self.mpr (by simpa using hnone)
      simp [hp, hfront, hback]

/-! ### Dated flags -/

section Dated

variable {f : Flag} {fs : List Flag} {date : String}

/-- Where no other marker turns it on, a dated flag is on exactly if its date has come. -/
theorem stateAt_eq_enabled_iff (h : f.isDated = true)
    (hone : f.enableAllDates = true → f.enableDate = none) :
    f.stateAt date = .enabled ↔ f.sortDate ≤ date := by
  rw [stateAt_of_isDated h]
  by_cases hall : f.enableAllDates = true
  · have hle : f.sortDate ≤ date := by
      rw [Flag.sortDate, hone hall]
      exact empty_le date
    simp [hall, hle]
  · by_cases hle : f.sortDate ≤ date <;> simp [hall, hle]

/-- **The flags that are on stand in front of those that are not yet on.** -/
theorem dated_eq_append (hone : ∀ f ∈ fs, f.enableAllDates = true → f.enableDate = none) :
    (listFlags fs).dated =
      (flagsAtDate fs date).enabled ++ (flagsAtDate fs date).notYetEnabled := by
  have hne : FlagState.enabled ≠ .notYetEnabled := by decide
  obtain ⟨hon, hoff⟩ := flagsIn_eq_filter_filter hne (fun f => isDated_iff date) fs
  have hstate : ∀ f ∈ sortByDate ((activeFlags fs).filter Flag.isDated),
      f.stateAt date = .enabled ↔ f.sortDate ≤ date := by
    intro f hf
    obtain ⟨hactive, hdated⟩ := List.mem_filter.mp ((perm_sortByDate _).mem_iff.mp hf)
    exact stateAt_eq_enabled_iff hdated (hone f (List.mem_filter.mp hactive).1)
  have hfront : (sortByDate ((activeFlags fs).filter Flag.isDated)).Pairwise
      fun f g => (g.stateAt date == .enabled) = true → (f.stateAt date == .enabled) = true := by
    have hsorted := List.pairwise_mergeSort sortDate_trans sortDate_total
      ((activeFlags fs).filter Flag.isDated)
    refine hsorted.imp_of_mem fun {f g} hf hg hle hon => ?_
    rw [beq_iff_eq, hstate g hg] at hon
    rw [beq_iff_eq, hstate f hf]
    exact String.le_trans (of_decide_eq_true hle) hon
  have henabled : (flagsAtDate fs date).enabled =
      (sortByDate ((activeFlags fs).filter Flag.isDated)).filter fun f => f.stateAt date == .enabled :=
    (congrArg sortByDate hon).trans (sortByDate_filter _ _)
  have hlater : (flagsAtDate fs date).notYetEnabled =
      (sortByDate ((activeFlags fs).filter Flag.isDated)).filter
        fun f => !(f.stateAt date == .enabled) :=
    (congrArg sortByDate hoff).trans (sortByDate_filter _ _)
  rw [henabled, hlater, filter_append_of_front hfront]
  rfl

end Dated

/-! ### Flags without a date -/

theorem beq_stateAt_undated (f : Flag) (date : String) :
    (!f.isDated && !f.experimental) = (f.stateAt date == .optIn) ∧
      (!f.isDated && f.experimental) = (f.stateAt date == .experimental) := by
  cases hdated : f.isDated with
  | true =>
    rcases (isDated_iff date).mp hdated with h | h <;> simp [h]
  | false =>
    rw [stateAt_of_not_isDated hdated]
    cases f.experimental <;> simp

theorem optIn_eq (fs : List Flag) (date : String) :
    (listFlags fs).optIn = (flagsAtDate fs date).optIn :=
  List.filter_congr fun f _ => (beq_stateAt_undated f date).1

theorem experimental_eq (fs : List Flag) (date : String) :
    (listFlags fs).experimental = (flagsAtDate fs date).experimental :=
  List.filter_congr fun f _ => (beq_stateAt_undated f date).2

/-- **A listing joins the lists of a snapshot.**  At every date the flags without a date are the same
in both; those with one are as many, and stand in the order of the snapshot's two lists unless a flag
that is on at all dates names a date besides. -/
theorem listing_joins_snapshot (fs : List Flag) (date : String) :
    let listing := listFlags fs
    let s := flagsAtDate fs date
    listing.optIn = s.optIn ∧ listing.experimental = s.experimental ∧
    listing.dated.Perm (s.enabled ++ s.notYetEnabled) ∧
    ((∀ f ∈ fs, ¬ (f.enableAllDates = true ∧ f.enableDate.isSome = true)) →
      listing.dated = s.enabled ++ s.notYetEnabled) ∧
    listing.active = listing.dated.length + listing.optIn.length + listing.experimental.length ∧
    listing.active + listing.obsolete = fs.length := by
  intro listing s
  have hdated : listing.dated.Perm ((activeFlags fs).filter Flag.isDated) := perm_sortByDate _
  refine ⟨optIn_eq fs date, experimental_eq fs date, ?_, fun hone => ?_, ?_, ?_⟩
  · exact hdated.trans (perm_dated fs date).symm
  · refine dated_eq_append fun f hf hall => ?_
    have hnone := hone f hf
    rw [not_and, Option.isSome_iff_ne_none, not_not] at hnone
    exact hnone hall
  · have hundated := (perm_undated fs date).length_eq
    rw [List.length_append, ← optIn_eq, ← experimental_eq] at hundated
    have htotal := List.length_eq_length_filter_add (l := activeFlags fs) Flag.isDated
    rw [← hdated.length_eq, ← hundated, ← Nat.add_assoc] at htotal
    exact htotal
  · have htotal := List.length_eq_length_filter_add (l := fs) Flag.obsolete
    rw [Nat.add_comm] at htotal
    exact htotal.symm

/-- Flags of every kind, with one that is on at all dates and names none. -/
theorem listing_joins_snapshot_june :
    let june : Flag := ⟨"june", 0, none, none, some "2023-06-14", false, false, false, none, false⟩
    let early := { june with fieldName := "early", enableDate := some "2021-11-03" }
    let always := { june with fieldName := "always", enableDate := none, enableAllDates := true }
    let named := { june with fieldName := "named", enableDate := none }
    let trial := { named with fieldName := "trial", experimental := true }
    let retired := { early with fieldName := "retired", obsolete := true }
    let fs := [june, named, retired, always, early, trial]
    let listing := listFlags fs
    let s := flagsAtDate fs "2022-01-01"
    (∀ f ∈ fs, ¬ (f.enableAllDates = true ∧ f.enableDate.isSome = true)) ∧
    s.enabled = [always, early] ∧ s.notYetEnabled = [june] ∧
    listing.dated = [always, early, june] ∧ listing.optIn = s.optIn ∧
    listing.experimental = s.experimental ∧ listing.active = 5 ∧
    listing.active + listing.obsolete = 6 := by
  intro june early always named trial retired fs listing s
  obtain ⟨hnamed, htrial, -, hdated, -, htotal⟩ := listing_joins_snapshot fs "2022-01-01"
  have hone : ∀ f ∈ fs, ¬ (f.enableAllDates = true ∧ f.enableDate.isSome = true) := by decide
  have hon : flagsIn .enabled fs "2022-01-01" = [always, early] := by decide +kernel
  have hoff : flagsIn .notYetEnabled fs "2022-01-01" = [june] := by decide +kernel
  have henabled : s.enabled = [always, early] := by
    refine (congrArg sortByDate hon).trans ?_
    simp [sortByDate, List.mergeSort, Flag.sortDate, always, early, june]
  have hlater : s.notYetEnabled = [june] := by
    refine (congrArg sortByDate hoff).trans ?_
    simp [sortByDate]
  refine ⟨hone, henabled, hlater, ?_, hnamed, htrial, by decide, htotal⟩
  exact (hdated hone).trans (congrArg₂ List.append henabled hlater)

end DeclAtlas.Compat
