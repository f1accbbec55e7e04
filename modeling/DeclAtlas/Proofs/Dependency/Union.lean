import DeclAtlas.Proofs.Dependency.Partition
import Mathlib.Data.Finset.Card

/-!
# The union in a report on dependents

A reference may stand for several labels, and the dependents of each are asked for.  The report joins
the answers: it holds the internal labels that any of them names, each once (`Unites`).  The number
and the breadth that reports give are taken from the groups, and come out as what they should be
because no group is empty and no label stands in two of them.

So an answer counts by the labels it names only (`SameLabels`).  It may name them in another order
(`sameLabels_of_perm`) or several times, and a query that fails counts like one that finds nothing
(`sameLabels_error`).
-/

namespace DeclAtlas

open Label

/-! ### Answers with the same labels -/

/-- Two answers of the build graph name the same labels. -/
def SameLabels (a a' : Except SourceError (List String)) : Prop :=
  ∀ l, l ∈ orEmpty a ↔ l ∈ orEmpty a'

theorem sameLabels_of_perm {ls ls' : List String} (h : ls.Perm ls') :
    SameLabels (.ok ls) (.ok ls') := fun _ => h.mem_iff

/-- Labels that are named already may be named again. -/
theorem sameLabels_repeated {ls again : List String} (h : again ⊆ ls) :
    SameLabels (.ok ls) (.ok (ls ++ again)) := fun l => by
  show l ∈ ls ↔ l ∈ ls ++ again
  rw [List.mem_append]
  exact ⟨.inl, fun hl => hl.elim id fun hl => h hl⟩

theorem sameLabels_error (e : SourceError) : SameLabels (.error e) (.ok []) := fun _ => Iff.rfl

/-! ### The report -/

/-- What a report makes of the answers on the dependents of some labels. -/
structure Unites (s : GraphSettings) (answers : List (List String)) (r : DependencyReport) :
    Prop where
  nodup : r.reverseDeps.labels.Nodup
  mem_iff : ∀ l, l ∈ r.reverseDeps.labels ↔ Internal s l ∧ ∃ a ∈ answers, l ∈ a
  groups : LabelGroups.AscendingGroups (domain s) r.reverseDeps
  total : r.reverseTotal = (answers.flatten.filter fun l => Internal s l).toFinset.card
  unused_iff : r.breadth = .unused ↔ ∀ a ∈ answers, ∀ l ∈ a, ¬ Internal s l

section Report

variable {s : GraphSettings} {reference : String} {r : Resolution} {answers : List (List String)}

theorem mem_labels_reverseReport (l : String) :
    l ∈ (reverseReport s reference r answers).reverseDeps.labels ↔
      Internal s l ∧ ∃ a ∈ answers, l ∈ a := by
  rw [reverseReport, mem_labels_groupByDomain, mem_labelSet, List.mem_filter, List.mem_flatten,
    isInternal_iff, and_comm]

theorem nodup_labels_reverseReport :
    (reverseReport s reference r answers).reverseDeps.labels.Nodup :=
  LabelGroups.nodup_labels_labelSet _ _

theorem breadth_eq_unused_iff {r : DependencyReport} : r.breadth = .unused ↔ r.reverseDeps = [] := by
  rw [DependencyReport.breadth, Breadth.ofCount, ← List.length_eq_zero_iff]
  split_ifs with hnone <;> simp [hnone]

/-- **A report on dependents holds the union of the answers.** -/
theorem unites_reverseReport (s : GraphSettings) (reference : String) (r : Resolution)
    (answers : List (List String)) : Unites s answers (reverseReport s reference r answers) := by
  have hgroups : LabelGroups.AscendingGroups (domain s)
      (reverseReport s reference r answers).reverseDeps :=
    LabelGroups.ascendingGroups_labelSet _ _
  refine ⟨nodup_labels_reverseReport, mem_labels_reverseReport, hgroups, ?_, ?_⟩
  · rw [DependencyReport.reverseTotal, LabelGroups.total_eq_length_labels,
      ← List.toFinset_card_of_nodup nodup_labels_reverseReport]
    congr 1
    ext l
    rw [List.mem_toFinset, List.mem_toFinset, mem_labels_reverseReport, List.mem_filter,
      List.mem_flatten, decide_eq_true_eq, and_comm]
  · rw [breadth_eq_unused_iff, ← hgroups.labels_eq_nil_iff, List.eq_nil_iff_forall_not_mem]
    simp only [mem_labels_reverseReport, not_and, not_exists]
    exact ⟨fun h a ha l hl hint => h l hint a ha hl, fun h l hint a ha hl => h a ha l hl hint⟩

/-- **Only the labels that are named count.** -/
theorem reverseReport_of_sameLabels {as as' : List (Except SourceError (List String))}
    (h : List.Forall₂ SameLabels as as') :
    reverseReport s reference r (as'.map orEmpty) = reverseReport s reference r (as.map orEmpty) := by
  have hmem : ∀ l, l ∈ (as'.map orEmpty).flatten ↔ l ∈ (as.map orEmpty).flatten := by
    intro l
    induction h with
    | nil => rfl
    | cons hhead _ ih =>
      rw [List.map_cons, List.map_cons, List.flatten_cons, List.flatten_cons, List.mem_append,
        List.mem_append, ih, hhead l]
  have hset : labelSet ((as'.map orEmpty).flatten.filter (isInternal s)) =
      labelSet ((as.map orEmpty).flatten.filter (isInternal s)) :=
    labelSet_eq_of_mem_iff fun l => by rw [List.mem_filter, List.mem_filter, hmem l]
  rw [reverseReport, hset, reverseReport]

end Report

theorem run_reverseDependencies {g : AnsweringGraph} {t : ResolverSettings} {reference : String}
    {r : Resolution} {asked : List String} (s : GraphSettings) (depth : Nat)
    (h : (resolve g.recorded t (Reference.parse t reference)).run [] = (.ok r, asked)) :
    let queries := r.labels.map (rdepsQuery s · depth)
    (reverseDependencies g.recorded t s reference depth).run [] =
      (.ok (reverseReport s reference r ((g.answers asked queries).map orEmpty)),
        asked ++ queries) := by
  intro queries
  rw [reverseDependencies, StateT.run_bind, h]
  show ((_ >>= _ : StateM (List String) _).run asked) = _
  rw [StateT.run_bind, run_mapM_askGraph]
  rfl

/-- **The report on dependents is the union of the answers.**  Once the reference has its labels, the
report exists whatever the graph answers.  It holds the internal labels that the answers for any of
the labels name, each in one group and once; the total is their number, and the target is unused
exactly if there are none.  Other answers that name the same labels give the same report: in another
order, with repetitions, or a failure in place of an answer without labels. -/
theorem reverse_union (g : AnsweringGraph) (t : ResolverSettings) (s : GraphSettings)
    (reference : String) (depth : Nat) (resolution : Resolution) (asked : List String)
    (h : (resolve g.recorded t (Reference.parse t reference)).run [] = (.ok resolution, asked)) :
    let queries := resolution.labels.map (rdepsQuery s · depth)
    let answers := g.answers asked queries
    ∃ r, (reverseDependencies g.recorded t s reference depth).run [] =
        (.ok r, asked ++ queries) ∧
      Unites s (answers.map orEmpty) r ∧
      ∀ g' : AnsweringGraph,
        (resolve g'.recorded t (Reference.parse t reference)).run [] = (.ok resolution, asked) →
        List.Forall₂ SameLabels answers (g'.answers asked queries) →
        (reverseDependencies g'.recorded t s reference depth).run [] =
          (.ok r, asked ++ queries) := by
  intro queries answers
  refine ⟨_, run_reverseDependencies s depth h, unites_reverseReport s reference resolution _, ?_⟩
  intro g' h' hsame
  rw [run_reverseDependencies s depth h', reverseReport_of_sameLabels hsame]

/-- Three labels of one repository with a dependent in common.  The second query fails for one graph
and finds nothing for the other, which repeats itself besides. -/
theorem reverse_union_ssl :
    let labels := ["@ssl//:crypto", "@ssl//:ssl", "@ssl//:decrepit"]
    let few := ["//src/workerd/io:io", "@ssl//:crypto"]
    let more := ["//src/workerd/api:crypto", "//src/workerd/io:io"]
    let answering (second third fourth : Except SourceError (List String)) : AnsweringGraph :=
      fun asked _ => [.ok labels, second, third, fourth].getD asked.length (.ok [])
    let g := answering (.ok few) (.error (.unavailable "bazel" "")) (.ok more)
    let g' := answering (.ok few.reverse) (.ok []) (.ok (more ++ ["//src/workerd/api:crypto"]))
    let reference := Reference.parse {} " cpp: SSL"
    let queries := labels.map (rdepsQuery {} · 2)
    let asked := ["@SSL//..."]
    (resolve g.recorded {} reference).run [] = (.ok ⟨labels, none⟩, asked) ∧
    (resolve g'.recorded {} reference).run [] = (.ok ⟨labels, none⟩, asked) ∧
    List.Forall₂ SameLabels (g.answers asked queries) (g'.answers asked queries) ∧
    ∃ r, (reverseDependencies g.recorded {} {} " cpp: SSL" 2).run [] = (.ok r, asked ++ queries) ∧
      (reverseDependencies g'.recorded {} {} " cpp: SSL" 2).run [] = (.ok r, asked ++ queries) ∧
      r.reverseTotal = 2 := by
  intro labels few more answering g g' reference queries asked
  have href : reference = ⟨some .cpp, "SSL"⟩ := by decide +kernel
  have hresolve : (resolve g.recorded {} reference).run [] = (.ok ⟨labels, none⟩, asked) := by
    rw [href]
    rfl
  have hresolve' : (resolve g'.recorded {} reference).run [] = (.ok ⟨labels, none⟩, asked) := by
    rw [href]
    rfl
  have hsame : List.Forall₂ SameLabels (g.answers asked queries) (g'.answers asked queries) :=
    .cons (sameLabels_of_perm (List.reverse_perm few).symm) <| .cons (sameLabels_error _) <|
      .cons (sameLabels_repeated (by decide)) .nil
  obtain ⟨r, hr, hunites, hrun⟩ :=
    reverse_union g {} {} " cpp: SSL" 2 ⟨labels, none⟩ asked hresolve
  refine ⟨hresolve, hresolve', hsame, r, hr, hrun g' hresolve' hsame, ?_⟩
  rw [hunites.total]
  decide +kernel

end DeclAtlas
