import DeclAtlas.Proofs.Compat.Timeline
import DeclAtlas.Proofs.Sorting

/-!
# The lists of a snapshot

At a date every flag is in one state (`existsUnique_belongsTo`), and one in use stands in the list
of that state as often as it is given.

The flags that a date decides on are sorted by date, and those of one date keep their order
(`filter_sortByDate`).  A flag without a date comes first.  It is sorted as if its date were the
empty text, though, so an empty date counts as none: a flag without a date may stand behind one with
an empty date (`undated_behind_blank`).
-/

namespace DeclAtlas.Compat

/-! ### States -/

namespace Flag

/-- What it takes for a flag to be in a state at a date. -/
def BelongsTo (f : Flag) (date : String) : FlagState → Prop
  | .enabled => f.enableAllDates = true ∨ ∃ d, f.enableDate = some d ∧ d ≤ date
  | .notYetEnabled => f.enableAllDates = false ∧ ∃ d, f.enableDate = some d ∧ date < d
  | .optIn => f.enableAllDates = false ∧ f.enableDate = none ∧ f.experimental = false
  | .experimental => f.enableAllDates = false ∧ f.enableDate = none ∧ f.experimental = true

theorem belongsTo_iff {f : Flag} {date : String} {state : FlagState} :
    f.BelongsTo date state ↔ f.stateAt date = state := by
  rw [stateAt]
  cases hall : f.enableAllDates with
  | true => cases state <;> simp [BelongsTo, hall]
  | false =>
    cases hdate : f.enableDate with
    | none => cases hexp : f.experimental <;> cases state <;> simp [BelongsTo, hall, hdate, hexp]
    | some d =>
      have hon : f.BelongsTo date .enabled ↔ d ≤ date := by simp [BelongsTo, hall, hdate]
      have hoff : f.BelongsTo date .notYetEnabled ↔ ¬ d ≤ date := by
        rw [BelongsTo, hdate, String.not_le]
        simp only [hall, true_and, Option.some.injEq, exists_eq_left']
      have hnamed : ¬ f.BelongsTo date .optIn := by simp [BelongsTo, hdate]
      have htrial : ¬ f.BelongsTo date .experimental := by simp [BelongsTo, hdate]
      by_cases hle : d ≤ date
      · cases state <;> simp [hon, hoff, hnamed, htrial, hle]
      · cases state <;> simp [hon, hoff, hnamed, htrial, hle]

instance (f : Flag) (date : String) (state : FlagState) : Decidable (f.BelongsTo date state) :=
  decidable_of_iff (f.stateAt date = state) belongsTo_iff.symm

theorem existsUnique_belongsTo (f : Flag) (date : String) : ∃! state, f.BelongsTo date state := by
  refine ⟨f.stateAt date, belongsTo_iff.mpr rfl, ?_⟩
  intro state h
  exact (belongsTo_iff.mp h).symm

/-! ### Dates -/

/-- The date that a flag names, if it is not empty. -/
def namedDate? (f : Flag) : Option String := f.enableDate.filter (· != "")

theorem sortDate_eq (f : Flag) : f.sortDate = f.namedDate?.getD "" := by
  rw [sortDate, namedDate?]
  cases f.enableDate with
  | none => rfl
  | some d => by_cases hd : d = "" <;> simp [Option.filter, hd]

theorem ne_empty_of_namedDate? {f : Flag} {d : String} (h : f.namedDate? = some d) : d ≠ "" := by
  rw [namedDate?, Option.filter_eq_some_iff] at h
  simpa using h.2

theorem namedDate?_le {f g : Flag} (h : f.sortDate ≤ g.sortDate) :
    f.namedDate? ≤ g.namedDate? := by
  rw [sortDate_eq, sortDate_eq] at h
  cases hf : f.namedDate? with
  | none => exact Option.none_le
  | some d =>
    rw [hf] at h
    cases hg : g.namedDate? with
    | none =>
      rw [hg] at h
      exact absurd (String.le_antisymm h (empty_le d)) (ne_empty_of_namedDate? hf)
    | some e =>
      rw [hg] at h
      exact Option.some_le_some.mpr h

end Flag

/-! ### Order -/

/-- **Flags of one date keep their order.** -/
theorem filter_sortByDate {p : Flag → Bool}
    (hp : ∀ f g, p f = true → p g = true → f.sortDate = g.sortDate) (fs : List Flag) :
    (sortByDate fs).filter p = fs.filter p := by
  refine Sorting.filter_mergeSort sortDate_trans sortDate_total (fun f g hf hg => ?_) fs
  exact decide_eq_true (hp f g hf hg ▸ String.le_refl _)

/-- Some flags by a key, those without one first and those of one key in the order they had. -/
structure OrderedBy (key : Flag → Option String) (fs gs : List Flag) : Prop where
  perm : gs.Perm fs
  sorted : gs.Pairwise fun f g => key f ≤ key g
  stable : ∀ k, gs.filter (fun f => key f = k) = fs.filter fun f => key f = k

theorem orderedBy_sortByDate (fs : List Flag) : OrderedBy Flag.namedDate? fs (sortByDate fs) where
  perm := perm_sortByDate fs
  sorted := by
    have hsorted := List.pairwise_mergeSort sortDate_trans sortDate_total fs
    refine hsorted.imp fun hle => ?_
    exact Flag.namedDate?_le (of_decide_eq_true hle)
  stable := by
    intro k
    refine filter_sortByDate (fun f g hf hg => ?_) fs
    rw [Flag.sortDate_eq, Flag.sortDate_eq, of_decide_eq_true hf, of_decide_eq_true hg]

/-! ### Lists -/

/-- The flags in use that belong to a state, in the order they are given. -/
def belonging (state : FlagState) (fs : List Flag) (date : String) : List Flag :=
  fs.filter fun f => !f.obsolete && decide (f.BelongsTo date state)

theorem flagsIn_eq_belonging (state : FlagState) (fs : List Flag) (date : String) :
    flagsIn state fs date = belonging state fs date := by
  rw [flagsIn, activeFlags, List.filter_filter, belonging]
  refine List.filter_congr fun f _ => ?_
  rw [Bool.and_comm, Bool.eq_iff_iff, Bool.and_eq_true, Bool.and_eq_true, beq_iff_eq,
    decide_eq_true_iff, Flag.belongsTo_iff]

theorem perm_undated (fs : List Flag) (date : String) :
    ((flagsAtDate fs date).optIn ++ (flagsAtDate fs date).experimental).Perm
      ((activeFlags fs).filter (!·.isDated)) := by
  refine perm_flagsIn (by decide) (fun f => ?_) fs
  have hdated := isDated_iff (f := f) date
  rw [Bool.not_eq_true', ← Bool.not_eq_true, hdated]
  cases f.stateAt date <;> simp

/-- How flags are distributed over the lists of a snapshot: every flag in use is in one of them, as
often as it is given, and each list holds what belongs to it, in order. -/
structure Distributes (key : Flag → Option String) (fs : List Flag) (date : String)
    (s : Snapshot) : Prop where
  perm : (s.enabled ++ s.notYetEnabled ++ (s.optIn ++ s.experimental)).Perm
    (fs.filter (!·.obsolete))
  enabled : OrderedBy key (belonging .enabled fs date) s.enabled
  notYetEnabled : OrderedBy key (belonging .notYetEnabled fs date) s.notYetEnabled
  optIn : s.optIn = belonging .optIn fs date
  experimental : s.experimental = belonging .experimental fs date

/-- **A snapshot distributes the flags in use by their states**, in order of the dates they name. -/
theorem flagsAtDate_distributes (fs : List Flag) (date : String) :
    (∀ f : Flag, ∃! state, f.BelongsTo date state) ∧
      Distributes Flag.namedDate? fs date (flagsAtDate fs date) := by
  refine ⟨fun f => f.existsUnique_belongsTo date, ?_, ?_, ?_, ?_, ?_⟩
  · have hlists := (perm_dated fs date).append (perm_undated fs date)
    exact hlists.trans (List.filter_append_perm _ _)
  · rw [← flagsIn_eq_belonging]
    exact orderedBy_sortByDate _
  · rw [← flagsIn_eq_belonging]
    exact orderedBy_sortByDate _
  · exact flagsIn_eq_belonging .optIn fs date
  · exact flagsIn_eq_belonging .experimental fs date

/-- **A flag without a date may stand behind one with an empty date.** -/
theorem undated_behind_blank :
    let undated : Flag := ⟨"undated", 1, none, none, none, true, false, false, none, false⟩
    let blank := { undated with fieldName := "blank", ordinal := 0, enableDate := some "" }
    let s := flagsAtDate [blank, undated] "2024-01-01"
    s.enabled = [blank, undated] ∧
      ¬ Distributes Flag.enableDate [blank, undated] "2024-01-01" s := by
  intro undated blank s
  have hon : flagsIn .enabled [blank, undated] "2024-01-01" = [blank, undated] := by decide +kernel
  have hsorted : sortByDate [blank, undated] = [blank, undated] := by
    simp [sortByDate, List.mergeSort, Flag.sortDate, blank, undated]
  have henabled : s.enabled = [blank, undated] := (congrArg sortByDate hon).trans hsorted
  refine ⟨henabled, fun h => ?_⟩
  have hpairs := h.enabled.sorted
  rw [henabled] at hpairs
  exact Option.not_some_le_none ((List.pairwise_cons.mp hpairs).1 undated (by simp))

end DeclAtlas.Compat
