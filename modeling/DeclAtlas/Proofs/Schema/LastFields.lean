import DeclAtlas.Proofs.Schema.Agreement
import DeclAtlas.Proofs.Sorting

/-!
# The fields a report ends with

Before a field is added, the report of a record shows the fields with the highest ordinals.  They
are the end of the fields once these are sorted, so what is left out is the rest of the sorted
fields, in front (`sortFields_eq_append`).  Sorting does not move fields of one ordinal past each
other (`filter_sortFields`).  Hence among fields of one ordinal those declared last are shown, in
the order in which they are declared.

The highest field is the last one shown, and its ordinal is the largest in use: the two come from
different computations, the one from the sorted fields, the other from the ordinals as declared.
-/

namespace DeclAtlas.Schema

/-- `shown` are the last fields of a record by their ordinals: as many as there is room for, in
ascending order, and among fields of one ordinal the ones declared last. -/
structure LastByOrdinal (fields shown : List Field) : Prop where
  length : shown.length = min lastFieldCount fields.length
  ascending : shown.Pairwise fun f g => f.ordinal ≤ g.ordinal
  /-- The fields that are not shown. -/
  rest : ∃ hidden, (hidden ++ shown).Perm fields ∧
    (∀ f ∈ hidden, ∀ g ∈ shown, f.ordinal ≤ g.ordinal) ∧
    ∀ n, fields.filter (·.ordinal = n) =
      hidden.filter (·.ordinal = n) ++ shown.filter (·.ordinal = n)

/-! ### Sorted fields -/

/-- **Fields of one ordinal stay in the order of their declarations.** -/
theorem filter_sortFields (fs : List Field) (n : Nat) :
    (sortFields fs).filter (·.ordinal = n) = fs.filter (·.ordinal = n) := by
  refine Sorting.filter_mergeSort ordinal_le_trans ordinal_le_total (fun f g hf hg => ?_) fs
  have hsame : f.ordinal = g.ordinal := (of_decide_eq_true hf).trans (of_decide_eq_true hg).symm
  exact decide_eq_true (Nat.le_of_eq hsame)

theorem length_sortFields (fs : List Field) : (sortFields fs).length = fs.length :=
  (List.mergeSort_perm fs _).length_eq

/-- The fields shown are the end of the sorted fields. -/
theorem sortFields_eq_append (r : Record) (schemaFile : String) :
    sortFields r.fields = (sortFields r.fields).take (r.fields.length - lastFieldCount) ++
      (r.report schemaFile).lastFields := by
  rw [Record.report, length_sortFields, List.take_append_drop]

theorem lastByOrdinal_report (r : Record) (schemaFile : String) :
    LastByOrdinal r.fields (r.report schemaFile).lastFields := by
  have hsplit := sortFields_eq_append r schemaFile
  have hsorted := sortFields_pairwise r.fields
  rw [hsplit, List.pairwise_append] at hsorted
  obtain ⟨-, hascending, hacross⟩ := hsorted
  refine ⟨?_, hascending, _, ?_, hacross, fun n => ?_⟩
  · rw [Record.report, List.length_drop, length_sortFields]
    omega
  · rw [← hsplit]
    exact List.mergeSort_perm _ _
  · rw [← List.filter_append, ← hsplit, filter_sortFields]

/-! ### The highest field -/

/-- What is shown ends as the sorted fields end. -/
theorem getLast?_lastFields (r : Record) (schemaFile : String) :
    (r.report schemaFile).lastFields.getLast? = (sortFields r.fields).getLast? := by
  rw [Record.report, List.getLast?_drop, length_sortFields]
  split_ifs with h
  · have hempty : r.fields.length = 0 := by
      rw [lastFieldCount] at h
      omega
    rw [List.length_eq_zero_iff.mp hempty, sortFields, List.mergeSort_nil, List.getLast?_nil]
  · rfl

theorem highest_eq_none_iff (r : Record) (schemaFile : String) :
    (r.report schemaFile).highest = none ↔ r.fields = [] := by
  rw [Record.report, Option.map_eq_none_iff, List.getLast?_eq_none_iff, ← List.length_eq_zero_iff,
    length_sortFields, List.length_eq_zero_iff]

theorem nextOrdinal_eq_successor (r : Record) (schemaFile : String) :
    (r.report schemaFile).nextOrdinal =
      ((r.report schemaFile).highest.map fun h =>
        min (h.ordinal + 1) Record.ordinalLimit).getD 0 := by
  have hnext : (r.report schemaFile).nextOrdinal =
      (r.maxOrdinal?.map fun m => min (m + 1) Record.ordinalLimit).getD 0 := by
    rw [Record.report, Record.nextOrdinal]
    cases r.maxOrdinal? <;> rfl
  rw [hnext, ← ordinal_highest_report r schemaFile, Option.map_map]
  rfl

/-- **A report shows the fields with the highest ordinals, the highest last**, whatever the fields
are: five of them or all there are, in ascending order, those declared last where ordinals are
equal.  The highest is the last one shown and has the largest ordinal; the next ordinal is one more,
as far as ordinals go. -/
theorem report_shows_highest_last (r : Record) (schemaFile : String) :
    let report := r.report schemaFile
    LastByOrdinal r.fields report.lastFields ∧
      report.highest = report.lastFields.getLast?.map (fun f => ⟨f.ordinal, f.name⟩) ∧
      (report.highest = none ↔ r.fields = []) ∧
      report.highest.map Highest.ordinal = r.maxOrdinal? ∧
      report.nextOrdinal =
        (report.highest.map fun h => min (h.ordinal + 1) Record.ordinalLimit).getD 0 := by
  refine ⟨lastByOrdinal_report r schemaFile, ?_, highest_eq_none_iff r schemaFile,
    ordinal_highest_report r schemaFile, nextOrdinal_eq_successor r schemaFile⟩
  rw [getLast?_lastFields]
  rfl

end DeclAtlas.Schema
