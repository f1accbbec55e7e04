import DeclAtlas.Proofs.Compat.Dates
import DeclAtlas.Proofs.Text.ByteOrder
import Mathlib.Data.List.Basic

/-!
# Flags as the date moves on

A date moved forward turns flags on and none off.  For a single flag this is a matter of its state
(`enabled_of_le`, `notYetEnabled_of_le`).  The lists of a snapshot are sorted, though, so the flags
that are on at the earlier date must also keep their order among those that join them.

They do because sorting by date is stable.  A flag put before a list is sorted in right before the
flags whose date is not earlier than its own (`exists_sortByDate_cons`), wherever the other flags
go, so a part of a list is sorted into a part of the sorted list (`sublist_sortByDate`).
-/

namespace DeclAtlas.Compat

open Text

/-! ### Sorting a part of a list -/

section Sorting

variable {fs gs : List Flag}

theorem sortDate_trans (a b c : Flag) (hab : decide (a.sortDate ≤ b.sortDate) = true)
    (hbc : decide (b.sortDate ≤ c.sortDate) = true) : decide (a.sortDate ≤ c.sortDate) = true :=
  decide_eq_true (String.le_trans (of_decide_eq_true hab) (of_decide_eq_true hbc))

theorem sortDate_total (a b : Flag) :
    (decide (a.sortDate ≤ b.sortDate) || decide (b.sortDate ≤ a.sortDate)) = true := by
  simpa using String.le_total a.sortDate b.sortDate

theorem empty_le (d : String) : "" ≤ d :=
  String.not_lt.mp fun h => List.not_lt_nil _ (String.lt_iff.mp h)

/-- **A flag is sorted in right before the flags whose date is not earlier.** -/
theorem exists_sortByDate_cons (f : Flag) (fs : List Flag) :
    ∃ front back, sortByDate (f :: fs) = front ++ f :: back ∧ sortByDate fs = front ++ back ∧
      (∀ g ∈ front, ¬ f.sortDate ≤ g.sortDate) ∧ ∀ g ∈ back, f.sortDate ≤ g.sortDate := by
  obtain ⟨front, back, hcons, htail, hfront⟩ :=
    List.mergeSort_cons sortDate_trans sortDate_total f fs
  have hsorted := List.pairwise_mergeSort sortDate_trans sortDate_total (f :: fs)
  rw [hcons, List.pairwise_append] at hsorted
  have hback := (List.pairwise_cons.mp hsorted.2.1).1
  refine ⟨front, back, hcons, htail, ?_, ?_⟩
  · intro g hg
    simpa using hfront g hg
  · intro g hg
    simpa using hback g hg

/-- Two lists that a property cuts in two contain each other piece by piece. -/
theorem sublists_of_append {α : Type} {p : α → Prop} [DecidablePred p] {a b a' b' : List α}
    (h : (a ++ b).Sublist (a' ++ b')) (ha : ∀ x ∈ a, ¬ p x) (hb : ∀ x ∈ b, p x)
    (ha' : ∀ x ∈ a', ¬ p x) (hb' : ∀ x ∈ b', p x) : a.Sublist a' ∧ b.Sublist b' := by
  have hleft : ∀ u v : List α, (∀ x ∈ u, ¬ p x) → (∀ x ∈ v, p x) →
      (u ++ v).filter (fun x => !decide (p x)) = u := by
    intro u v hu hv
    have hnone : v.filter (fun x => !decide (p x)) = [] := by simpa using hv
    have hall : u.filter (fun x => !decide (p x)) = u := by simpa using hu
    rw [List.filter_append, hnone, hall, List.append_nil]
  have hright : ∀ u v : List α, (∀ x ∈ u, ¬ p x) → (∀ x ∈ v, p x) →
      (u ++ v).filter (fun x => decide (p x)) = v := by
    intro u v hu hv
    have hnone : u.filter (fun x => decide (p x)) = [] := by simpa using hu
    have hall : v.filter (fun x => decide (p x)) = v := by simpa using hv
    rw [List.filter_append, hnone, hall, List.nil_append]
  constructor
  · have hfilter := h.filter fun x => !decide (p x)
    rwa [hleft a b ha hb, hleft a' b' ha' hb'] at hfilter
  · have hfilter := h.filter fun x => decide (p x)
    rwa [hright a b ha hb, hright a' b' ha' hb'] at hfilter

/-- **A part of a list is sorted into a part of the sorted list.** -/
theorem sublist_sortByDate (h : fs.Sublist gs) : (sortByDate fs).Sublist (sortByDate gs) := by
  induction h with
  | slnil => exact List.Sublist.refl _
  | @cons fs gs g _ ih =>
    obtain ⟨front, back, hcons, htail, -, -⟩ := exists_sortByDate_cons g gs
    rw [htail] at ih
    rw [hcons]
    exact ih.middle g
  | @cons_cons fs gs g _ ih =>
    obtain ⟨front, back, hcons, htail, hfront, hback⟩ := exists_sortByDate_cons g fs
    obtain ⟨front', back', hcons', htail', hfront', hback'⟩ := exists_sortByDate_cons g gs
    rw [htail, htail'] at ih
    obtain ⟨hfronts, hbacks⟩ := sublists_of_append ih hfront hback hfront' hback'
    rw [hcons, hcons']
    exact hfronts.append (hbacks.cons_cons g)

end Sorting

/-! ### States at two dates -/

section States

variable {f : Flag} {d₁ d₂ : String}

/-- A date decides on a dated flag, and on nothing else. -/
theorem stateAt_of_isDated (h : f.isDated = true) (date : String) :
    f.stateAt date =
      if f.enableAllDates = true ∨ f.sortDate ≤ date then .enabled else .notYetEnabled := by
  rw [Flag.stateAt]
  by_cases hall : f.enableAllDates = true
  · rw [if_pos hall, if_pos (Or.inl hall)]
  · cases hd : f.enableDate with
    | none => simp [Flag.isDated, hall, hd] at h
    | some d => simp [hall, Flag.sortDate, hd]

theorem stateAt_of_not_isDated (h : f.isDated = false) (date : String) :
    f.stateAt date = if f.experimental then .experimental else .optIn := by
  have hnone : f.enableAllDates = false ∧ f.enableDate = none := by
    simpa [Flag.isDated] using h
  simp [Flag.stateAt, hnone.1, hnone.2]

theorem isDated_iff (date : String) :
    f.isDated = true ↔ f.stateAt date = .enabled ∨ f.stateAt date = .notYetEnabled := by
  by_cases h : f.isDated = true
  · rw [stateAt_of_isDated h]
    by_cases hon : f.enableAllDates = true ∨ f.sortDate ≤ date
    · simp [h, hon]
    · simp [h, hon]
  · rw [Bool.not_eq_true] at h
    rw [stateAt_of_not_isDated h]
    cases f.experimental <;> simp [h]

theorem enabled_of_le (hle : d₁ ≤ d₂) (h : f.stateAt d₁ = .enabled) : f.stateAt d₂ = .enabled := by
  have hdated := (isDated_iff d₁).mpr (.inl h)
  rw [stateAt_of_isDated hdated] at h ⊢
  by_cases hon : f.enableAllDates = true ∨ f.sortDate ≤ d₁
  · have hlater : f.enableAllDates = true ∨ f.sortDate ≤ d₂ :=
      hon.imp_right fun hd => String.le_trans hd hle
    rw [if_pos hlater]
  · rw [if_neg hon] at h
    exact absurd h (by decide)

theorem notYetEnabled_of_le (hle : d₁ ≤ d₂) (h : f.stateAt d₂ = .notYetEnabled) :
    f.stateAt d₁ = .notYetEnabled := by
  rcases (isDated_iff d₁).mp ((isDated_iff d₂).mpr (.inr h)) with hon | hoff
  · rw [enabled_of_le hle hon] at h
    exact absurd h (by decide)
  · exact hoff

theorem stateAt_eq_iff_of_not_isDated {s : FlagState} (hon : s ≠ .enabled)
    (hoff : s ≠ .notYetEnabled) : f.stateAt d₁ = s ↔ f.stateAt d₂ = s := by
  by_cases h : f.isDated = true
  · have hstates : ∀ d, f.stateAt d ≠ s := by
      intro d hd
      rcases (isDated_iff d).mp h with he | he
      · exact hon (hd.symm.trans he)
      · exact hoff (hd.symm.trans he)
    exact iff_of_false (hstates d₁) (hstates d₂)
  · rw [Bool.not_eq_true] at h
    rw [stateAt_of_not_isDated h, stateAt_of_not_isDated h]

end States

/-! ### Snapshots at two dates -/

section Snapshots

variable {d₁ d₂ : String} {s : FlagState}

theorem sublist_flagsIn (fs : List Flag) (h : ∀ f : Flag, f.stateAt d₁ = s → f.stateAt d₂ = s) :
    (flagsIn s fs d₁).Sublist (flagsIn s fs d₂) := by
  apply List.monotone_filter_right
  intro f hf
  rw [beq_iff_eq] at hf ⊢
  exact h f hf

theorem flagsIn_eq_of_undated (fs : List Flag) (hon : s ≠ .enabled) (hoff : s ≠ .notYetEnabled) :
    flagsIn s fs d₁ = flagsIn s fs d₂ := by
  apply List.filter_congr
  intro f _
  rw [Bool.eq_iff_iff, beq_iff_eq, beq_iff_eq]
  exact stateAt_eq_iff_of_not_isDated hon hoff

/-- Where two states make up a property, they tell apart the flags in use that have it. -/
theorem flagsIn_eq_filter_filter {s₁ s₂ : FlagState} (hne : s₁ ≠ s₂) {date : String}
    {p : Flag → Bool} (hp : ∀ f : Flag, p f = true ↔ f.stateAt date = s₁ ∨ f.stateAt date = s₂)
    (fs : List Flag) :
    flagsIn s₁ fs date = ((activeFlags fs).filter p).filter (fun f => f.stateAt date == s₁) ∧
      flagsIn s₂ fs date =
        ((activeFlags fs).filter p).filter fun f => !(f.stateAt date == s₁) := by
  constructor
  · rw [List.filter_filter]
    refine List.filter_congr fun f _ => ?_
    have hf := hp f
    by_cases h : f.stateAt date = s₁
    · simp [hf, h]
    · simp [h]
  · rw [List.filter_filter]
    refine List.filter_congr fun f _ => ?_
    have hf := hp f
    by_cases h : f.stateAt date = s₁
    · simp [h, hne]
    · have hsame : p f = (f.stateAt date == s₂) := by
        rw [Bool.eq_iff_iff, hf, beq_iff_eq, or_iff_right h]
      simp [h, hsame]

/-- The flags of two states are those that are in one of them, as often as they are given. -/
theorem perm_flagsIn {s₁ s₂ : FlagState} (hne : s₁ ≠ s₂) {date : String} {p : Flag → Bool}
    (hp : ∀ f : Flag, p f = true ↔ f.stateAt date = s₁ ∨ f.stateAt date = s₂) (fs : List Flag) :
    (flagsIn s₁ fs date ++ flagsIn s₂ fs date).Perm ((activeFlags fs).filter p) := by
  obtain ⟨hfirst, hsecond⟩ := flagsIn_eq_filter_filter hne hp fs
  rw [hfirst, hsecond]
  exact List.filter_append_perm _ _

/-- **Every dated flag in use is either on or not yet on**, as often as it is given. -/
theorem perm_dated (fs : List Flag) (date : String) :
    ((flagsAtDate fs date).enabled ++ (flagsAtDate fs date).notYetEnabled).Perm
      ((activeFlags fs).filter Flag.isDated) := by
  have hsorted := (perm_sortByDate (flagsIn .enabled fs date)).append
    (perm_sortByDate (flagsIn .notYetEnabled fs date))
  refine hsorted.trans ?_
  exact perm_flagsIn (by decide) (fun f => isDated_iff date) fs

end Snapshots

/-- **A date moved forward turns no flag off.** -/
theorem flagsAtDate_monotone (fs : List Flag) {d₁ d₂ : String}
    (h : utf8Bytes d₁ ≤ utf8Bytes d₂) :
    let earlier := flagsAtDate fs d₁
    let later := flagsAtDate fs d₂
    earlier.enabled.Sublist later.enabled ∧
    later.notYetEnabled.Sublist earlier.notYetEnabled ∧
    earlier.optIn = later.optIn ∧ earlier.experimental = later.experimental ∧
    (earlier.enabled ++ earlier.notYetEnabled).Perm (later.enabled ++ later.notYetEnabled) ∧
    (later.enabled ++ later.notYetEnabled).Perm ((activeFlags fs).filter Flag.isDated) := by
  intro earlier later
  have hle : d₁ ≤ d₂ := utf8Bytes_le_iff.mp h
  refine ⟨?_, ?_, ?_, ?_, ?_, perm_dated fs d₂⟩
  · exact sublist_sortByDate (sublist_flagsIn fs fun f => enabled_of_le hle)
  · exact sublist_sortByDate (sublist_flagsIn fs fun f => notYetEnabled_of_le hle)
  · exact flagsIn_eq_of_undated fs (by decide) (by decide)
  · exact flagsIn_eq_of_undated fs (by decide) (by decide)
  · exact (perm_dated fs d₁).trans (perm_dated fs d₂).symm

/-- The day on which two flags are turned on, next to flags of every other kind. -/
theorem flagsAtDate_monotone_june :
    let june : Flag := ⟨"june", 0, none, none, some "2023-06-14", false, false, false, none, false⟩
    let again := { june with fieldName := "again" }
    let early := { june with fieldName := "early", enableDate := some "2021-11-03" }
    let always := { june with fieldName := "always", enableDate := none, enableAllDates := true }
    let named := { june with fieldName := "named", enableDate := none }
    let trial := { named with fieldName := "trial", experimental := true }
    let retired := { early with fieldName := "retired", obsolete := true }
    let fs := [june, named, early, retired, again, always, trial]
    let earlier := flagsAtDate fs "2023-06-13"
    let later := flagsAtDate fs "2023-06-14"
    utf8Bytes "2023-06-13" ≤ utf8Bytes "2023-06-14" ∧
    earlier.enabled = [always, early] ∧ later.enabled = [always, early, june, again] ∧
    earlier.enabled.Sublist later.enabled ∧ later.notYetEnabled.Sublist earlier.notYetEnabled ∧
    earlier.optIn = later.optIn ∧ earlier.experimental = later.experimental ∧
    (earlier.enabled ++ earlier.notYetEnabled).Perm (later.enabled ++ later.notYetEnabled) := by
  intro june again early always named trial retired fs earlier later
  have hle : utf8Bytes "2023-06-13" ≤ utf8Bytes "2023-06-14" := by decide +kernel
  obtain ⟨hon, hoff, hnamed, htrial, hdated, -⟩ := flagsAtDate_monotone fs hle
  have hearlier : flagsIn .enabled fs "2023-06-13" = [early, always] := by decide +kernel
  have hlater : flagsIn .enabled fs "2023-06-14" = [june, early, again, always] := by
    decide +kernel
  have hsorted : sortByDate [early, always] = [always, early] := by
    simp [sortByDate, List.mergeSort, Flag.sortDate, early, always, june]
  have hjoined : sortByDate [june, early, again, always] = [always, early, june, again] := by
    simp [sortByDate, List.mergeSort, Flag.sortDate, june, early, again, always]
  refine ⟨hle, ?_, ?_, hon, hoff, hnamed, htrial, hdated⟩
  · exact (congrArg sortByDate hearlier).trans hsorted
  · exact (congrArg sortByDate hlater).trans hjoined

end DeclAtlas.Compat
