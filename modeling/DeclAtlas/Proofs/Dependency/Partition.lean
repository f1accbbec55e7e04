import DeclAtlas.Proofs.Dependency.Dependents
import DeclAtlas.Proofs.Text.Occurrences

/-!
# The parts of a report on dependencies

The answer on what a label depends on is put into two parts, internal and external labels, and the
answer on its dependents into a third.  `Partitions` says what each part holds in terms of the two
answers: the dependencies keep every label as often as it was named, the dependents hold each label
once.  It also says that the groups of each part are in order.  All this holds of whatever the build
graph answers, and the order of the answers does not show in the report (`forward_partitions`).
-/

namespace DeclAtlas

open Text

namespace Label

/-- The label begins with the internal prefix. -/
def Internal (s : GraphSettings) (l : String) : Prop := s.internalPrefix.toList <+: l.toList

/-- The label begins with an at sign. -/
def External (l : String) : Prop := ['@'] <+: l.toList

/-- The label is a dependency of `label` to be reported: another label, and no noise. -/
def Counts (s : GraphSettings) (label l : String) : Prop :=
  l ≠ label ∧ ∀ p ∈ s.noisePrefixes, ¬ p.toList <+: l.toList

variable {s : GraphSettings} {label l : String}

instance : Decidable (Internal s l) := inferInstanceAs (Decidable (_ <+: _))

instance : Decidable (External l) := inferInstanceAs (Decidable (_ <+: _))

instance : Decidable (Counts s label l) := inferInstanceAs (Decidable (_ ∧ _))

theorem isInternal_iff : isInternal s l = true ↔ Internal s l := startsWith_iff

theorem isExternal_iff : isExternal l = true ↔ External l := startsWith_iff

theorem isNoise_iff : isNoise s l = true ↔ ∃ p ∈ s.noisePrefixes, p.toList <+: l.toList := by
  rw [isNoise, List.any_eq_true]
  exact exists_congr fun p => and_congr_right fun _ => startsWith_iff

theorem counts_iff : (l != label && !isNoise s l) = true ↔ Counts s label l := by
  rw [Bool.and_eq_true, bne_iff_ne, Bool.not_eq_true', ← Bool.not_eq_true, isNoise_iff, Counts,
    not_exists]
  exact and_congr_right fun _ => forall_congr' fun p => not_and

end Label

open Label

/-- What a report makes of the answers on the dependencies and the dependents of a label. -/
structure Partitions (s : GraphSettings) (label : String) (deps dependents : List String)
    (r : DependencyReport) : Prop where
  internal : r.internalDeps.labels.Perm (deps.filter fun l => Counts s label l ∧ Internal s l)
  external : r.externalDeps.labels.Perm
    (deps.filter fun l => Counts s label l ∧ ¬ Internal s l ∧ External l)
  dependents_nodup : r.reverseDeps.labels.Nodup
  mem_dependents : ∀ l, l ∈ r.reverseDeps.labels ↔ l ∈ dependents ∧ l ≠ label ∧ Internal s l
  internal_groups : LabelGroups.AscendingGroups (domain s) r.internalDeps
  external_groups : LabelGroups.AscendingGroups repo r.externalDeps
  dependents_groups : LabelGroups.AscendingGroups (domain s) r.reverseDeps

section Report

variable {s : GraphSettings} {target label : String} {deps dependents : List String}

theorem filter_reported (p : String → Bool) (q : String → Prop) [DecidablePred q]
    (h : ∀ l, p l = true ↔ q l) (deps : List String) :
    (reported s label deps).filter p = deps.filter fun l => Counts s label l ∧ q l := by
  rw [reported, List.filter_filter]
  refine List.filter_congr fun l _ => ?_
  rw [Bool.eq_iff_iff, Bool.and_eq_true, counts_iff, h, decide_eq_true_eq, and_comm]

theorem isExternal_not_isInternal_iff (l : String) :
    (!isInternal s l && isExternal l) = true ↔ ¬ Internal s l ∧ External l := by
  rw [Bool.and_eq_true, Bool.not_eq_true', ← Bool.not_eq_true, isInternal_iff, isExternal_iff]

/-- **A report puts every label of the answers into its part.** -/
theorem partitions_forwardReport (s : GraphSettings) (target label : String)
    (deps dependents : List String) :
    Partitions s label deps dependents (forwardReport s target label deps dependents) where
  internal := by
    rw [← filter_reported (isInternal s) (Internal s) (fun _ => isInternal_iff)]
    exact (LabelGroups.perm_labels_groupBy _ _).trans (perm_sortLabels _)
  external := by
    rw [← filter_reported _ (fun l => ¬ Internal s l ∧ External l) isExternal_not_isInternal_iff]
    exact (LabelGroups.perm_labels_groupBy _ _).trans (perm_sortLabels _)
  dependents_nodup := LabelGroups.nodup_labels_labelSet _ _
  mem_dependents := fun l => by rw [mem_dependents_forwardReport, isInternal_iff]
  internal_groups := LabelGroups.ascendingGroups_groupBy _ (pairwise_sortLabels _)
  external_groups := LabelGroups.ascendingGroups_groupBy _ (pairwise_sortLabels _)
  dependents_groups := LabelGroups.ascendingGroups_labelSet _ _

/-- **A report does not show in which order the labels were named.** -/
theorem forwardReport_of_perm {deps' dependents' : List String} (hdeps : deps'.Perm deps)
    (hdependents : dependents'.Perm dependents) :
    forwardReport s target label deps' dependents' =
      forwardReport s target label deps dependents := by
  have hreported : (reported s label deps').Perm (reported s label deps) := hdeps.filter _
  have hinternal : internalLabels s (reported s label deps') =
      internalLabels s (reported s label deps) := sortLabels_eq_of_perm (hreported.filter _)
  have hexternal : externalLabels s (reported s label deps') =
      externalLabels s (reported s label deps) := sortLabels_eq_of_perm (hreported.filter _)
  have hset : labelSet (dependents'.filter fun l => l != label && isInternal s l) =
      labelSet (dependents.filter fun l => l != label && isInternal s l) :=
    labelSet_eq_of_mem_iff fun _ => (hdependents.filter _).mem_iff
  rw [forwardReport, hinternal, hexternal, hset, forwardReport]

end Report

theorem run_forwardDependencies {g : AnsweringGraph} {t : ResolverSettings} {target label : String}
    {asked : List String} (s : GraphSettings) (depth : Nat)
    (h : (resolveTarget g.recorded t target).run [] = (.ok label, asked)) :
    (forwardDependencies g.recorded t s target depth).run [] =
      (.ok (forwardReport s target label (orEmpty (g asked (depsQuery label depth)))
          (orEmpty (g (asked ++ [depsQuery label depth]) (rdepsQuery s label 1)))),
        asked ++ [depsQuery label depth, rdepsQuery s label 1]) := by
  rw [forwardDependencies, StateT.run_bind, h]
  show _ = (_, asked ++ ([depsQuery label depth] ++ [rdepsQuery s label 1]))
  rw [← List.append_assoc]
  rfl

/-- **The report on dependencies holds the answers, each label in its part.**  Once the target has its
label, the report exists whatever the graph answers, failures included.  Its internal and external
dependencies are the labels of the first answer that count, each as often as it was named; its
dependents are the internal labels of the second, the label itself aside and each once.  Groups and
their members are in order, so answers in another order give the same report. -/
theorem forward_partitions (g : AnsweringGraph) (t : ResolverSettings) (s : GraphSettings)
    (target label : String) (depth : Nat) (asked : List String)
    (h : (resolveTarget g.recorded t target).run [] = (.ok label, asked)) :
    let first := depsQuery label depth
    let second := rdepsQuery s label 1
    let deps := orEmpty (g asked first)
    let dependents := orEmpty (g (asked ++ [first]) second)
    ∃ r, (forwardDependencies g.recorded t s target depth).run [] =
        (.ok r, asked ++ [first, second]) ∧
      Partitions s label deps dependents r ∧
      ∀ g' : AnsweringGraph, (resolveTarget g'.recorded t target).run [] = (.ok label, asked) →
        (orEmpty (g' asked first)).Perm deps →
        (orEmpty (g' (asked ++ [first]) second)).Perm dependents →
        (forwardDependencies g'.recorded t s target depth).run [] =
          (.ok r, asked ++ [first, second]) := by
  intro first second deps dependents
  refine ⟨_, run_forwardDependencies s depth h, partitions_forwardReport s target label _ _, ?_⟩
  intro g' h' hdeps hdependents
  rw [run_forwardDependencies s depth h', forwardReport_of_perm hdeps hdependents]

/-- Labels of all kinds, some of them twice, in two orders. -/
theorem forward_partitions_http :
    let label := "//src/workerd/api:http"
    let deps := ["@ssl//:crypto", "//src/workerd/jsg:jsg", label, "@bazel_tools//tools/cpp:toolchain",
      "//src/workerd/io:io", "@@+http+capnp-cpp//src/kj:kj", "//src/workerd/jsg:jsg", "external"]
    let dependents := ["//src/workerd/server:server", label, "//src/workerd/server:server"]
    let answering : (List String → List String) → AnsweringGraph := fun order _ query =>
      if query = "deps(//src/workerd/api:http, 2)" then .ok (order deps)
      else if query = "rdeps(//src/..., //src/workerd/api:http, 1)" then .ok (order dependents)
      else .error (.unavailable "bazel" "")
    let out (g : AnsweringGraph) := (forwardDependencies g.recorded {} {} label 2).run []
    (resolveTarget (answering id).recorded {} label).run [] = (.ok label, []) ∧
    (resolveTarget (answering List.reverse).recorded {} label).run [] = (.ok label, []) ∧
    ∃ r asked, out (answering id) = (.ok r, asked) ∧ out (answering List.reverse) = (.ok r, asked) ∧
      r.internalDeps.labels.count "//src/workerd/jsg:jsg" = 2 ∧
      r.reverseDeps.labels.count "//src/workerd/server:server" = 1 := by
  intro label deps dependents answering out
  have hcan : (Reference.parse {} label).isCanonical = true := by decide +kernel
  have hname : (Reference.parse {} label).name = label := by decide +kernel
  have hlabel : ∀ g : AnsweringGraph,
      (resolveTarget g.recorded {} label).run [] = (.ok label, []) := by
    intro g
    rw [resolveTarget_of_isCanonical hcan, hname]
    rfl
  obtain ⟨r, hr, hparts, hperm⟩ :=
    forward_partitions (answering id) {} {} label label 2 [] (hlabel _)
  have hreverse := hperm (answering List.reverse) (hlabel _) (List.reverse_perm deps)
    (List.reverse_perm dependents)
  refine ⟨hlabel _, hlabel _, r, _, hr, hreverse, ?_, ?_⟩
  · rw [hparts.internal.count_eq]
    decide +kernel
  · refine List.count_eq_one_of_mem hparts.dependents_nodup ((hparts.mem_dependents _).mpr ?_)
    exact ⟨by decide +kernel, by decide, by decide⟩

end DeclAtlas
