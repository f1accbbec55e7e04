import DeclAtlas.Proofs.Dependency.Groups
import DeclAtlas.Proofs.Dependency.Plan

/-!
# Dependents of a label

Who depends on a label is asked in two ways: the report on its dependencies names its direct
dependents as well, and the report on its dependents names them alone.  For one label both put the
same query (`run_forwardDependencies_of_isCanonical`, `run_reverseDependencies_of_isCanonical`) and
make the same groups of the answer, up to the label itself.  A build graph counts a label among its
own dependents.  The first report leaves the label out, the second leaves it in, so the two agree
exactly if the label is not an internal one that the answer names.
-/

namespace DeclAtlas

variable {g : AnsweringGraph} {t : ResolverSettings} {s : GraphSettings} {target : String}

/-! ### What is asked -/

theorem resolveTarget_of_isCanonical {m : Type → Type} [Monad m] {graph : GraphAsker m}
    (h : (Reference.parse t target).isCanonical = true) :
    resolveTarget graph t target = pure (.ok (Reference.parse t target).name) := by
  have hname : ¬ (Reference.parse t target).name.isEmpty = true := fun he =>
    name_ne_empty_of_isCanonical h (String.isEmpty_iff.mp he)
  rw [resolveTarget, if_neg hname, if_pos h]

theorem run_forwardDependencies_of_isCanonical (g : AnsweringGraph) (s : GraphSettings)
    (h : (Reference.parse t target).isCanonical = true) (depth : Nat) :
    let label := (Reference.parse t target).name
    let deps := depsQuery label depth
    let dependents := rdepsQuery s label 1
    (forwardDependencies g.recorded t s target depth).run [] =
      (.ok (forwardReport s target label (orEmpty (g [] deps)) (orEmpty (g [deps] dependents))),
        [deps, dependents]) := by
  intro label deps dependents
  rw [forwardDependencies, resolveTarget_of_isCanonical h]
  rfl

theorem run_reverseDependencies_of_isCanonical (g : AnsweringGraph) (s : GraphSettings)
    (h : (Reference.parse t target).isCanonical = true) (depth : Nat) :
    let label := (Reference.parse t target).name
    let dependents := rdepsQuery s label depth
    (reverseDependencies g.recorded t s target depth).run [] =
      (.ok (reverseReport s target ⟨[label], none⟩ [orEmpty (g [] dependents)]),
        [dependents]) := by
  intro label dependents
  rw [reverseDependencies, resolve_of_isCanonical h]
  simp only [pure_bind, List.mapM_cons, List.mapM_nil]
  rfl

/-! ### What is made of the answer -/

section Answer

variable {label l : String} {deps answer : List String} {r : Resolution}

theorem mem_dependents_forwardReport :
    l ∈ (forwardReport s target label deps answer).reverseDeps.labels ↔
      l ∈ answer ∧ l ≠ label ∧ Label.isInternal s l = true := by
  rw [forwardReport, Label.mem_labels_groupByDomain, mem_labelSet, List.mem_filter,
    Bool.and_eq_true, bne_iff_ne]

theorem mem_dependents_reverseReport :
    l ∈ (reverseReport s target r [answer]).reverseDeps.labels ↔
      l ∈ answer ∧ Label.isInternal s l = true := by
  rw [reverseReport, Label.mem_labels_groupByDomain, mem_labelSet, List.mem_filter,
    List.flatten_singleton]

/-- The two reports agree on an answer unless it counts the label among its own dependents. -/
theorem dependents_forwardReport_eq_iff :
    (forwardReport s target label deps answer).reverseDeps =
        (reverseReport s target r [answer]).reverseDeps ↔
      ¬ (label ∈ answer ∧ Label.isInternal s label = true) := by
  constructor
  · intro heq hself
    have hmem : label ∈ (reverseReport s target r [answer]).reverseDeps.labels :=
      mem_dependents_reverseReport.mpr hself
    rw [← heq, mem_dependents_forwardReport] at hmem
    exact hmem.2.1 rfl
  · intro hself
    have hfilter : (answer.filter fun l => l != label && Label.isInternal s l) =
        answer.filter (Label.isInternal s) := by
      refine List.filter_congr fun l hl => ?_
      by_cases hlabel : l = label
      · subst hlabel
        have hint : Label.isInternal s l = false :=
          Bool.eq_false_iff.mpr fun hint => hself ⟨hl, hint⟩
        rw [hint, Bool.and_false]
      · rw [bne_iff_ne.mpr hlabel, Bool.true_and]
    rw [forwardReport, reverseReport, hfilter, List.flatten_singleton]

end Answer

/-! ### Both together -/

/-- **The two ways of asking for dependents agree up to the label itself.**  For a label both put the
same query for its dependents and find the same dependents of it.  The report on dependencies never
counts the label among them; the report on dependents does if the answer does, and exactly then, if
the label is internal, the groups differ. -/
theorem dependents_agree_iff (answer : String → Except SourceError (List String))
    (t : ResolverSettings) (s : GraphSettings) (target : String)
    (h : (Reference.parse t target).isCanonical = true) (depth : Nat) :
    let g : AnsweringGraph := fun _ => answer
    let label := (Reference.parse t target).name
    let query := rdepsQuery s label 1
    ∃ f r, (forwardDependencies g.recorded t s target depth).run [] =
        (.ok f, [depsQuery label depth, query]) ∧
      (reverseDependencies g.recorded t s target 1).run [] = (.ok r, [query]) ∧
      label ∉ f.reverseDeps.labels ∧
      (∀ l, l ≠ label → (l ∈ f.reverseDeps.labels ↔ l ∈ r.reverseDeps.labels)) ∧
      (f.reverseDeps = r.reverseDeps ↔
        ¬ (label ∈ orEmpty (answer query) ∧ Label.isInternal s label = true)) := by
  intro g label query
  refine ⟨_, _, run_forwardDependencies_of_isCanonical g s h depth,
    run_reverseDependencies_of_isCanonical g s h 1, ?_, fun l hl => ?_,
    dependents_forwardReport_eq_iff⟩
  · rw [mem_dependents_forwardReport]
    exact fun hmem => hmem.2.1 rfl
  · rw [mem_dependents_forwardReport, mem_dependents_reverseReport]
    exact ⟨fun hmem => ⟨hmem.1, hmem.2.2⟩, fun hmem => ⟨hmem.1, hl, hmem.2⟩⟩

/-- A label outside the project, which the answer names, is left out either way. -/
theorem dependents_agree_external :
    let answer : String → Except SourceError (List String) := fun query =>
      if query = "rdeps(//src/..., @ssl//:ssl, 1)" then
        .ok ["@ssl//:ssl", "//src/workerd/api:crypto", "//src/workerd/api:crypto"]
      else .error (.unavailable "bazel" "")
    let g : AnsweringGraph := fun _ => answer
    (Reference.parse {} " @ssl//:ssl").isCanonical = true ∧
    ∃ f r, (forwardDependencies g.recorded {} {} " @ssl//:ssl" 2).run [] =
        (.ok f, ["deps(@ssl//:ssl, 2)", "rdeps(//src/..., @ssl//:ssl, 1)"]) ∧
      (reverseDependencies g.recorded {} {} " @ssl//:ssl" 1).run [] =
        (.ok r, ["rdeps(//src/..., @ssl//:ssl, 1)"]) ∧
      f.reverseDeps = r.reverseDeps := by
  intro answer g
  have hcan : (Reference.parse {} " @ssl//:ssl").isCanonical = true := by decide +kernel
  have hname : (Reference.parse {} " @ssl//:ssl").name = "@ssl//:ssl" := by decide +kernel
  obtain ⟨f, r, hf, hr, -, -, hiff⟩ := dependents_agree_iff answer {} {} " @ssl//:ssl" hcan 2
  rw [hname] at hf hr hiff
  exact ⟨hcan, f, r, hf, hr, hiff.mpr fun hself => absurd hself.2 (by decide)⟩

/-- **A label can be reported as its own dependent.** -/
theorem dependents_disagree_on_label :
    let label := "//src/workerd/api:http"
    let answer : String → Except SourceError (List String) := fun query =>
      if query = "rdeps(//src/..., //src/workerd/api:http, 1)" then
        .ok [label, "//src/workerd/server:server"]
      else .ok []
    let g : AnsweringGraph := fun _ => answer
    ∃ f r, ((forwardDependencies g.recorded {} {} label 1).run []).1 = .ok f ∧
      ((reverseDependencies g.recorded {} {} label 1).run []).1 = .ok r ∧
      f.reverseDeps.labels = ["//src/workerd/server:server"] ∧
      label ∈ r.reverseDeps.labels ∧ f.reverseDeps ≠ r.reverseDeps := by
  intro label answer g
  have hcan : (Reference.parse {} label).isCanonical = true := by decide +kernel
  have hname : (Reference.parse {} label).name = label := by decide +kernel
  have hf := run_forwardDependencies_of_isCanonical g {} hcan 1
  have hr := run_reverseDependencies_of_isCanonical g {} hcan 1
  simp only [hname] at hf hr
  have hself : label ∈ orEmpty (answer (rdepsQuery {} label 1)) ∧
      Label.isInternal {} label = true := by decide +kernel
  refine ⟨_, _, congrArg Prod.fst hf, congrArg Prod.fst hr, ?_,
    mem_dependents_reverseReport.mpr hself, fun heq =>
      dependents_forwardReport_eq_iff.mp heq hself⟩
  decide +kernel

end DeclAtlas
