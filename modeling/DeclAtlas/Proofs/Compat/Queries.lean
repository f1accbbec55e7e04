import DeclAtlas.Proofs.Compat.Listings
import DeclAtlas.Proofs.Sources.Recorded

/-!
# Queries for some of the flags

A query selects flags by their names before anything is sorted or told apart by its state.  The
report is the same as if the flags had been taken out of the lists of the full report afterwards
(`query_selects_in_lists`): the state of a flag does not depend on the others, and sorting goes along
with the selection (`sortByDate_filter`).

All flags of the schema are asked for a match, retired ones as well.  So a query that only a retired
flag matches gives a report, with empty lists.
-/

namespace DeclAtlas.Compat

/-! ### Selected flags -/

section Selected

variable (p : Flag → Bool) (fs : List Flag) (date : String)

theorem activeFlags_filter : activeFlags (fs.filter p) = (activeFlags fs).filter p :=
  List.filter_comm _ _ fs

theorem flagsIn_filter (state : FlagState) :
    flagsIn state (fs.filter p) date = (flagsIn state fs date).filter p := by
  rw [flagsIn, activeFlags_filter]
  exact List.filter_comm _ _ (activeFlags fs)

/-- A snapshot of the flags that `p` selects. -/
theorem flagsAtDate_filter : flagsAtDate (fs.filter p) date =
    { date := date
      enabled := (flagsAtDate fs date).enabled.filter p
      notYetEnabled := (flagsAtDate fs date).notYetEnabled.filter p
      optIn := (flagsAtDate fs date).optIn.filter p
      experimental := (flagsAtDate fs date).experimental.filter p } := by
  simp only [flagsAtDate, flagsIn_filter, sortByDate_filter]

/-- The lists of a listing of the flags that `p` selects. -/
theorem listFlags_filter :
    (listFlags (fs.filter p)).dated = (listFlags fs).dated.filter p ∧
    (listFlags (fs.filter p)).optIn = (listFlags fs).optIn.filter p ∧
    (listFlags (fs.filter p)).experimental = (listFlags fs).experimental.filter p := by
  simp only [listFlags, activeFlags_filter]
  refine ⟨?_, List.filter_comm _ _ _, List.filter_comm _ _ _⟩
  rw [List.filter_comm, sortByDate_filter]

end Selected

/-! ### Answers -/

section Answers

variable {fs : List Flag} {query : String}

theorem select_eq_error_iff : select fs (some query) = .error (.noMatch query fs.length) ↔
    ∀ f ∈ fs, f.matchesQuery query = false := by
  have hnone : fs.filter (·.matchesQuery query) = [] ↔ ∀ f ∈ fs, f.matchesQuery query = false := by
    rw [List.filter_eq_nil_iff]
    simp only [Bool.not_eq_true]
  rw [← hnone, select]
  cases fs.filter (·.matchesQuery query) with
  | nil => simp
  | cons g gs => simp

theorem select_of_exists (h : ∃ f ∈ fs, f.matchesQuery query = true) :
    select fs (some query) = .ok (fs.filter (·.matchesQuery query)) := by
  obtain ⟨f, hf, hquery⟩ := h
  have hmem : f ∈ fs.filter (·.matchesQuery query) := List.mem_filter.mpr ⟨hf, hquery⟩
  rw [select]
  cases hfound : fs.filter (·.matchesQuery query) with
  | nil => exact absurd (hfound ▸ hmem) List.not_mem_nil
  | cons g gs => rfl

variable {σ : Type} {compile : Compiler (StateM σ)} {file text : String} {st st' : σ}
  {date flag : Option String}

/-- What a lookup gives for a schema with flags. -/
theorem fst_run_lookupFlags (hcompile : (compile file).run st = (.ok text, st'))
    (hflags : flags text ≠ []) (hdate : checkOptionalDate date = .ok ()) :
    ((lookupFlags compile file date flag).run st).1 =
      (select (flags text) flag).map (reportOn · date) := by
  have hreport : reportOf file text date flag =
      (select (flags text) flag).map (reportOn · date) := by
    rw [reportOf]
    cases h : flags text with
    | nil => exact absurd h hflags
    | cons f fs => rfl
  rw [lookupFlags, hdate]
  dsimp only
  rw [fst_run_bind, hcompile, ← hreport]
  rfl

/-- **A query takes flags out of the lists of the full report.**  It fails exactly if it matches no
flag of the schema, retired ones included, and then says how many there are. -/
theorem query_selects_in_lists (hcompile : (compile file).run st = (.ok text, st'))
    (hflags : flags text ≠ []) (query : String) :
    let answer := fun date flag => ((lookupFlags compile file date flag).run st).1
    let found := fun f : Flag => f.matchesQuery query
    (∀ date, checkOptionalDate date = .ok () →
      (answer date (some query) = .error (.noMatch query (flags text).length) ↔
        ∀ f ∈ flags text, found f = false)) ∧
    ((∃ f ∈ flags text, found f = true) →
      (∀ date, checkDate date = .ok () → ∃ whole part : Snapshot,
        answer (some date) none = .ok (.atDate whole) ∧
        answer (some date) (some query) = .ok (.atDate part) ∧
        part.enabled = whole.enabled.filter found ∧
        part.notYetEnabled = whole.notYetEnabled.filter found ∧
        part.optIn = whole.optIn.filter found ∧
        part.experimental = whole.experimental.filter found) ∧
      ∃ whole part : Listing,
        answer none none = .ok (.listing whole) ∧
        answer none (some query) = .ok (.listing part) ∧
        part.dated = whole.dated.filter found ∧
        part.optIn = whole.optIn.filter found ∧
        part.experimental = whole.experimental.filter found) := by
  intro answer found
  have hanswer : ∀ date flag, checkOptionalDate date = .ok () →
      answer date flag = (select (flags text) flag).map (reportOn · date) :=
    fun date flag hdate => fst_run_lookupFlags hcompile hflags hdate
  constructor
  · intro date hdate
    rw [hanswer date (some query) hdate, ← select_eq_error_iff]
    cases select (flags text) (some query) with
    | error e => simp [Except.map]
    | ok gs => simp [Except.map]
  · intro hsome
    have hselected : ∀ date, checkOptionalDate date = .ok () →
        answer date (some query) = .ok (reportOn ((flags text).filter found) date) := by
      intro date hdate
      rw [hanswer date (some query) hdate, select_of_exists hsome]
      rfl
    constructor
    · intro date hdate
      refine ⟨flagsAtDate (flags text) date, flagsAtDate ((flags text).filter found) date,
        hanswer (some date) none hdate, hselected (some date) hdate, ?_⟩
      rw [flagsAtDate_filter]
      exact ⟨rfl, rfl, rfl, rfl⟩
    · exact ⟨listFlags (flags text), listFlags ((flags text).filter found), hanswer none none rfl,
        hselected none rfl, listFlags_filter found (flags text)⟩

end Answers

/-- A query that matches in any letter case, one that matches nothing, and one that matches a retired
flag alone. -/
theorem query_selects_in_lists_url :
    let text := " oldUrl @0 :Bool $compatEnableDate(\"2021-11-03\");\n obsolete1 @1 :Bool;\n" ++
      " names @2 :Bool;\n"
    let compile : Compiler (StateM Unit) := fun _ => pure (.ok text)
    let answer := fun flag => ((lookupFlags compile "flags" (some "2022-01-01") flag).run ()).1
    ((compile "flags").run () = (.ok text, ()) ∧ flags text ≠ [] ∧
      checkDate "2022-01-01" = .ok ()) ∧
    answer (some "names2") = .error (.noMatch "names2" 3) ∧
    (∃ whole part : Snapshot, answer none = .ok (.atDate whole) ∧
      answer (some "URL") = .ok (.atDate part) ∧
      part.enabled = whole.enabled.filter (·.matchesQuery "URL")) ∧
    ∃ part : Snapshot, answer (some "obsolete") = .ok (.atDate part) := by
  intro text compile answer
  let oldUrl : Flag :=
    ⟨"oldUrl", 0, none, none, some "2021-11-03", false, false, false, none, false⟩
  have hcompile : (compile "flags").run () = (.ok text, ()) := rfl
  have hdate : checkDate "2022-01-01" = .ok () := by decide +kernel
  have htext : flags text = [oldUrl,
      { oldUrl with fieldName := "obsolete1", ordinal := 1, enableDate := none, obsolete := true },
      { oldUrl with fieldName := "names", ordinal := 2, enableDate := none }] := by
    decide +kernel
  have hflags : flags text ≠ [] := by
    rw [htext]
    exact List.cons_ne_nil _ _
  refine ⟨⟨hcompile, hflags, hdate⟩, ?_, ?_, ?_⟩
  · obtain ⟨hfails, -⟩ := query_selects_in_lists hcompile hflags "names2"
    rw [htext] at hfails
    exact (hfails (some "2022-01-01") hdate).mpr (by decide +kernel)
  · obtain ⟨-, hselects⟩ := query_selects_in_lists hcompile hflags "URL"
    rw [htext] at hselects
    obtain ⟨whole, part, hwhole, hpart, henabled, -⟩ :=
      (hselects (by decide +kernel)).1 "2022-01-01" hdate
    exact ⟨whole, part, hwhole, hpart, henabled⟩
  · obtain ⟨-, hselects⟩ := query_selects_in_lists hcompile hflags "obsolete"
    rw [htext] at hselects
    obtain ⟨-, part, -, hpart, -⟩ := (hselects (by decide +kernel)).1 "2022-01-01" hdate
    exact ⟨part, hpart⟩

end DeclAtlas.Compat
