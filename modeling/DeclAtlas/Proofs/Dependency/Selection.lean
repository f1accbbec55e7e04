import DeclAtlas.Proofs.Dependency.Dependents
import DeclAtlas.Proofs.Text.Occurrences

/-!
# Where the labels of a name come from

A lookup that succeeds ends with the labels that one attempt has kept of the last answer
(`exists_attempt_of_run`).  What may be kept depends on the strategy: never more than its cap, of a
repository with top-level targets these alone, and of the registry only labels that mention the crate
(`Selects`).  A lookup ends with the first attempt that keeps anything, so its labels are never none.
This is so with caps of zero as well, since what counts is what is left under the cap.

The remark on an alias goes with the first attempt alone, the one that takes the name for an alias
(`note_eq_aliasRemark_iff`).
-/

namespace DeclAtlas

open Text

variable {g : AnsweringGraph} {t : ResolverSettings} {r : Reference}

/-! ### What a strategy keeps -/

/-- A label whose package, which begins behind the first double slash, and whose target have no
slash. -/
def TopLevel (l : String) : Prop :=
  ∃ package target : List Char, after? ['/', '/'] l.toList = some (package ++ ':' :: target) ∧
    ':' ∉ package ∧ '/' ∉ package ∧ '/' ∉ target

/-- What a strategy may keep of an answer. -/
structure Selects (t : ResolverSettings) (s : Strategy) (answer labels : List String) : Prop where
  sublist : labels.Sublist answer
  external : ∀ repo, s = .externalRepo repo → labels.length ≤ t.externalCap ∧
    ((∃ l ∈ answer, TopLevel l) → ∀ l ∈ labels, TopLevel l)
  registry : ∀ registry name, s = .crateRegistry registry name → labels.length ≤ t.crateCap ∧
    ∀ l ∈ labels, ∃ mark ∈ [':', '/'], mark :: lower name.toList <:+: lower l.toList
  repository : ∀ registry name, s = .crateRepository registry name → labels.length ≤ t.crateCap

section Keep

variable {l : String} {answer : List String}

theorem isTopLevel_iff : isTopLevel l = true ↔ TopLevel l := by
  constructor
  · intro h
    rw [isTopLevel] at h
    split at h
    · exact absurd h Bool.false_ne_true
    · rename_i repo rest hrepo
      split at h
      · exact absurd h Bool.false_ne_true
      · rename_i package target hpackage
        obtain ⟨rfl, hcolon⟩ := cut?_singleton_eq_some.mp hpackage
        refine ⟨package, target, ?_, hcolon, ?_⟩
        · rw [← map_snd_cut?, hrepo, Option.map_some]
        · simpa using h
  · rintro ⟨package, target, hafter, hcolon, hp, ht⟩
    obtain ⟨repo, hrepo, -⟩ := exists_cut? hafter
    have hpackage : cut? [':'] (package ++ ':' :: target) = some (package, target) :=
      cut?_singleton_eq_some.mpr ⟨rfl, hcolon⟩
    simp only [isTopLevel, hrepo, hpackage]
    simp [hp, ht]

theorem mentionsCrate_iff {needle : List Char} : mentionsCrate needle l = true ↔
    ∃ mark ∈ [':', '/'], mark :: needle <:+: lower l.toList := by
  rw [mentionsCrate, Bool.or_eq_true, contains_iff, contains_iff]
  simp

/-- Top-level labels are kept alone. -/
theorem topLevel_of_mem_keepExternal {cap : Nat} (htop : ∃ l ∈ answer, TopLevel l)
    (hl : l ∈ keepExternal cap answer) : TopLevel l := by
  have hsome : ¬ (answer.filter isTopLevel).isEmpty = true := by
    obtain ⟨m, hm, hmtop⟩ := htop
    rw [List.isEmpty_iff, List.filter_eq_nil_iff]
    exact fun hnone => hnone m hm (isTopLevel_iff.mpr hmtop)
  rw [keepExternal, if_neg hsome] at hl
  exact isTopLevel_iff.mp (List.mem_filter.mp (List.mem_of_mem_take hl)).2

/-- **A strategy keeps a selection of an answer.** -/
theorem selects_keep (t : ResolverSettings) (s : Strategy) (answer : List String) :
    Selects t s answer (s.keep t answer) := by
  cases s with
  | externalRepo repo =>
    refine ⟨?_, ?_, by rintro _ _ ⟨⟩, by rintro _ _ ⟨⟩⟩
    · rw [Strategy.keep, keepExternal]
      split
      · exact List.take_sublist _ _
      · exact (List.take_sublist _ _).trans List.filter_sublist
    · rintro _ -
      exact ⟨List.length_take_le _ _, fun htop l hl => topLevel_of_mem_keepExternal htop hl⟩
  | crateRegistry registry name =>
    refine ⟨(List.take_sublist _ _).trans List.filter_sublist, by rintro _ ⟨⟩, ?_,
      by rintro _ _ ⟨⟩⟩
    rintro _ _ ⟨⟩
    refine ⟨List.length_take_le _ _, fun l hl => mentionsCrate_iff.mp ?_⟩
    exact (List.mem_filter.mp (List.mem_of_mem_take hl)).2
  | crateRepository registry name =>
    exact ⟨List.take_sublist _ _, by rintro _ ⟨⟩, by rintro _ _ ⟨⟩,
      fun _ _ _ => List.length_take_le _ _⟩

end Keep

/-! ### Which attempt it was -/

section Attempts

variable {out : List String}

/-- **The labels of a lookup are those that one attempt kept**, and its query was the last. -/
theorem exists_attempt_of_run {res : Resolution} (as : List Attempt) :
    ∀ {settled : Bool} {tried : List Strategy} {asked : List String},
      (attemptAll g.recorded t settled tried as).run asked = (.ok res, out) →
        ∃ before a after asked', as = before ++ a :: after ∧ out = asked' ++ [a.strategy.query] ∧
          res = ⟨kept g t asked' a.strategy, a.note⟩ ∧ res.labels ≠ [] := by
  induction as with
  | nil =>
    intro _ _ _ h
    cases (Prod.mk.inj h).1
  | cons a rest ih =>
    intro settled tried asked h
    have hlater : ∀ {settled' tried' asked'},
        (attemptAll g.recorded t settled' tried' rest).run asked' = (.ok res, out) →
        ∃ before b after asked', a :: rest = before ++ b :: after ∧
          out = asked' ++ [b.strategy.query] ∧
          res = ⟨kept g t asked' b.strategy, b.note⟩ ∧ res.labels ≠ [] := by
      intro _ _ _ h
      obtain ⟨before, b, after, asked', rfl, hout⟩ := ih h
      exact ⟨a :: before, b, after, asked', rfl, hout⟩
    rw [attemptAll] at h
    split at h
    · exact hlater h
    · rw [run_askGraph_bind] at h
      cases hkeep : kept g t asked a.strategy with
      | nil =>
        rw [kept] at hkeep
        rw [hkeep] at h
        exact hlater h
      | cons l ls =>
        rw [kept] at hkeep
        rw [hkeep] at h
        obtain ⟨hres, rfl⟩ := Prod.mk.inj h
        obtain rfl := Except.ok.inj hres
        exact ⟨[], a, rest, asked, rfl, rfl, by rw [kept, hkeep], List.cons_ne_nil l ls⟩

/-- Strategies that have been tried stay on the list. -/
theorem prefix_of_run {tried' : List Strategy} (as : List Attempt) :
    ∀ {settled : Bool} {tried : List Strategy} {asked : List String},
      (attemptAll g.recorded t settled tried as).run asked = (.error tried', out) →
        tried <+: tried' := by
  induction as with
  | nil =>
    intro _ _ _ h
    exact Except.error.inj (Prod.mk.inj h).1 ▸ List.prefix_rfl
  | cons a rest ih =>
    intro settled tried asked h
    rw [attemptAll] at h
    split at h
    · exact ih h
    · rw [run_askGraph_bind] at h
      cases hkeep : a.strategy.keep t (orEmpty (g asked a.strategy.query)) with
      | nil =>
        rw [hkeep] at h
        exact (List.prefix_append tried [a.strategy]).trans (ih h)
      | cons l ls =>
        rw [hkeep] at h
        cases (Prod.mk.inj h).1

/-- A lookup that fails has tried something. -/
theorem ne_nil_of_run {tried' : List Strategy}
    (h : (attemptAll g.recorded t false [] (plan t r)).run [] = (.error tried', out)) :
    tried' ≠ [] := by
  have hplan : plan t r ≠ [] := by
    obtain ⟨_ | _ | _, name⟩ := r <;> exact List.cons_ne_nil _ _
  obtain ⟨a, rest, ha⟩ := List.exists_cons_of_ne_nil hplan
  rw [ha, attemptAll, Bool.false_and, if_neg Bool.false_ne_true, run_askGraph_bind] at h
  cases hkeep : a.strategy.keep t (orEmpty (g [] a.strategy.query)) with
  | nil =>
    rw [hkeep] at h
    exact (prefix_of_run rest h).ne_nil (List.cons_ne_nil a.strategy [])
  | cons l ls =>
    rw [hkeep] at h
    cases (Prod.mk.inj h).1

end Attempts

/-! ### The remark on an alias -/

/-- The remark that a name was taken for an alias. -/
def aliasRemark (t : ResolverSettings) (name : String) : String :=
  "Resolved alias \"" ++ name ++ "\" to \"" ++ aliasTarget t name ++ "\""

theorem toList_isPrefix_append (a b : String) : a.toList <+: (a ++ b).toList := by
  rw [String.toList_append]
  exact List.prefix_append _ _

theorem aliasRemark_ne (t : ResolverSettings) (name : String) :
    aliasRemark t name ≠ "Resolved as Rust crate" := by
  intro h
  have hlead : "Resolved alias \"".toList <+: (aliasRemark t name).toList :=
    (((toList_isPrefix_append _ _).trans (toList_isPrefix_append _ _)).trans
      (toList_isPrefix_append _ _)).trans (toList_isPrefix_append _ _)
  rw [h] at hlead
  exact absurd hlead (by decide)

theorem aliasNote_eq_iff {name : String} :
    aliasNote t name = some (aliasRemark t name) ↔ aliasTarget t name ≠ name := by
  rw [aliasNote]
  split_ifs with h
  · exact ⟨nofun, fun hne => absurd h hne⟩
  · exact ⟨fun _ => h, fun _ => rfl⟩

theorem note_ne_of_mem_crateAttempts {name : String} {a : Attempt}
    (h : a ∈ crateAttempts t name) : a.note ≠ some (aliasRemark t name) := by
  intro hnote
  obtain ⟨s, -, rfl⟩ := List.mem_map.mp h
  exact aliasRemark_ne t name (Option.some.inj hnote).symm

section Note

variable {before after : List Attempt} {a : Attempt}

/-- Of attempts that begin with the one at an alias, and go on without the remark on it, that one alone
has the remark. -/
theorem note_eq_aliasRemark_iff_of_cons {name : String} {rest : List Attempt}
    (hsplit : externalAttempt t name :: rest = before ++ a :: after)
    (hrest : ∀ b ∈ rest, b.note ≠ some (aliasRemark t name)) :
    a.note = some (aliasRemark t name) ↔
      before = [] ∧ a.strategy = .externalRepo (repoName (aliasTarget t name)) ∧
        aliasTarget t name ≠ name := by
  cases before with
  | nil =>
    obtain ⟨rfl, -⟩ := List.cons.inj hsplit
    exact aliasNote_eq_iff.trans ⟨fun hne => ⟨rfl, rfl, hne⟩, fun h => h.2.2⟩
  | cons b before =>
    obtain ⟨rfl, rfl⟩ := List.cons.inj hsplit
    have ha := hrest a (List.mem_append_right before List.mem_cons_self)
    exact ⟨fun hnote => absurd hnote ha, fun h => absurd h.1 (List.cons_ne_nil _ _)⟩

/-- **The remark on an alias goes with the first attempt.** -/
theorem note_eq_aliasRemark_iff (h : plan t r = before ++ a :: after) :
    a.note = some (aliasRemark t r.name) ↔
      before = [] ∧ a.strategy = .externalRepo (repoName (aliasTarget t r.name)) ∧
        aliasTarget t r.name ≠ r.name := by
  obtain ⟨ecosystem, name⟩ := r
  cases ecosystem with
  | some e =>
    cases e with
    | cpp => exact note_eq_aliasRemark_iff_of_cons h fun _ hb => absurd hb List.not_mem_nil
    | rust =>
      have ha : a ∈ crateAttempts t name := by
        rw [show crateAttempts t name = before ++ a :: after from h]
        exact List.mem_append_right before List.mem_cons_self
      have hstrategy : a.strategy ≠ .externalRepo (repoName (aliasTarget t name)) := by
        obtain ⟨s, hs, rfl⟩ := List.mem_map.mp ha
        rintro rfl
        simp at hs
      exact ⟨fun hnote => absurd hnote (note_ne_of_mem_crateAttempts ha),
        fun hfirst => absurd hfirst.2.1 hstrategy⟩
  | none =>
    -- behind the first attempt stand those at a crate, and the name's own, which has no remark
    refine note_eq_aliasRemark_iff_of_cons h fun b hb => ?_
    rcases List.mem_append.mp hb with hb | hb
    · exact note_ne_of_mem_crateAttempts hb
    · split at hb
      · exact absurd hb List.not_mem_nil
      · obtain rfl := List.mem_singleton.mp hb
        exact (Option.some_ne_none _).symm

end Note

/-! ### Labels of a name -/

/-- The labels are selected from the answer to the last query, which one strategy on the name's list
has made, and the remark on an alias tells whether it was the first and looked up another name. -/
def FromLastAnswer (g : AnsweringGraph) (t : ResolverSettings) (r : Reference) (res : Resolution)
    (asked : List String) : Prop :=
  ∃ before step after asked', strategies t r = before ++ step :: after ∧
    asked = asked' ++ [step.query] ∧
    Selects t step (orEmpty (g asked' step.query)) res.labels ∧
    (res.note = some (aliasRemark t r.name) ↔
      before = [] ∧ step = .externalRepo (repoName (aliasTarget t r.name)) ∧
        aliasTarget t r.name ≠ r.name)

theorem fromLastAnswer_of_run {res : Resolution} {asked : List String} (hname : r.name ≠ "")
    (hcan : r.isCanonical = false) (h : (resolve g.recorded t r).run [] = (.ok res, asked)) :
    res.labels ≠ [] ∧ FromLastAnswer g t r res asked := by
  rw [run_resolve hname hcan] at h
  generalize hmade : (attemptAll g.recorded t false [] (plan t r)).run [] = made at h
  obtain ⟨tried | found, out⟩ := made
  · cases (Prod.mk.inj h).1
  obtain ⟨hfound, rfl⟩ := Prod.mk.inj h
  obtain rfl := Except.ok.inj hfound
  obtain ⟨before, a, after, asked', hplan, hasked, rfl, hne⟩ := exists_attempt_of_run _ hmade
  refine ⟨hne, before.map Attempt.strategy, a.strategy, after.map Attempt.strategy, asked', ?_,
    hasked, selects_keep t a.strategy _, ?_⟩
  · rw [← map_strategy_plan, hplan, List.map_append, List.map_cons]
  · rw [List.map_eq_nil_iff]
    exact note_eq_aliasRemark_iff hplan

/-- A lookup that fails names what it has tried. -/
theorem run_resolve_ne_untried (g : AnsweringGraph) (t : ResolverSettings) (r : Reference)
    (name : String) (ecosystem : Option Ecosystem) :
    ((resolve g.recorded t r).run []).1 ≠ .error (.unresolved ⟨name, ecosystem, []⟩) := by
  intro h
  by_cases hname : r.name = ""
  · rw [run_resolve_of_empty hname] at h
    cases Except.error.inj h
  cases hcan : r.isCanonical with
  | true =>
    rw [resolve_of_isCanonical hcan] at h
    cases h
  | false =>
    rw [run_resolve hname hcan] at h
    generalize hmade : (attemptAll g.recorded t false [] (plan t r)).run [] = made at h
    obtain ⟨tried | found, out⟩ := made
    · exact ne_nil_of_run hmade
        (congrArg Unresolved.tried (ResolveError.unresolved.inj (Except.error.inj h)))
    · cases h

theorem selected_of_run {res : Resolution} {asked : List String}
    (h : (resolve g.recorded t r).run [] = (.ok res, asked)) :
    res.labels ≠ [] ∧ (r.isCanonical = false → FromLastAnswer g t r res asked) := by
  have hname : r.name ≠ "" := fun hname => by
    rw [run_resolve_of_empty hname] at h
    cases (Prod.mk.inj h).1
  cases hcan : r.isCanonical with
  | true =>
    rw [resolve_of_isCanonical hcan] at h
    obtain rfl := Except.ok.inj (Prod.mk.inj h).1
    exact ⟨List.cons_ne_nil _ _, nofun⟩
  | false =>
    obtain ⟨hne, hlast⟩ := fromLastAnswer_of_run hname hcan h
    exact ⟨hne, fun _ => hlast⟩

/-- A target never ends for want of a first label. -/
theorem run_resolveTarget_ne_untried (g : AnsweringGraph) (t : ResolverSettings)
    (target name : String) (ecosystem : Option Ecosystem) :
    ((resolveTarget g.recorded t target).run []).1 ≠
      .error (.unresolved ⟨name, ecosystem, []⟩) := by
  intro h
  rw [resolveTarget] at h
  dsimp only at h
  generalize Reference.parse t target = r at h
  split_ifs at h
  · cases Except.error.inj h
  · cases h
  cases heco : r.ecosystem with
  | none =>
    rw [heco] at h
    cases h
  | some e =>
    rw [heco] at h
    dsimp only at h
    rw [fst_run_bind] at h
    generalize hmade : (resolve g.recorded t r).run [] = made at h
    obtain ⟨failure | ⟨labels, note⟩, asked⟩ := made
    · obtain rfl := Except.error.inj h
      exact run_resolve_ne_untried g t r name ecosystem (congrArg Prod.fst hmade)
    · obtain ⟨l, ls, rfl⟩ := List.exists_cons_of_ne_nil (selected_of_run hmade).1
      cases h

/-- **The labels of a name are selected from one answer.**  For every build graph, all settings and
every reference: a lookup that succeeds has labels.  Those of a name that is no label come from the
answer to the last query made, that of one strategy on the name's list: they stand in the order of
the answer, no more of them than the strategy's cap; they are all top-level labels if the answer of
an external repository has any; and those from the listing of the crate registry mention the crate.
The remark on an alias is made exactly if that strategy is the first and asks for the repository
that the alias stands for, under a name other than the one given.  So a target with a qualifier
never ends for want of a first label. -/
theorem resolve_selects (g : AnsweringGraph) (t : ResolverSettings) :
    (∀ r res asked, (resolve g.recorded t r).run [] = (.ok res, asked) →
      res.labels ≠ [] ∧ (r.isCanonical = false → FromLastAnswer g t r res asked)) ∧
    ∀ target name ecosystem, ((resolveTarget g.recorded t target).run []).1 ≠
      .error (.unresolved ⟨name, ecosystem, []⟩) :=
  ⟨fun _ _ _ => selected_of_run, run_resolveTarget_ne_untried g t⟩

/-- An alias whose repository has both a top-level label and a nested one. -/
theorem resolve_selects_boringssl :
    let g : AnsweringGraph := fun _ query =>
      if query = "@ssl//..." then .ok ["@ssl//src/x:y", "@ssl//:crypto", "@ssl//:ssl"] else .ok []
    let t : ResolverSettings := { externalCap := 1 }
    let res : Resolution := ⟨["@ssl//:crypto"], some "Resolved alias \"boringssl\" to \"ssl\""⟩
    (resolve g.recorded t ⟨none, "boringssl"⟩).run [] = (.ok res, ["@ssl//..."]) ∧
    FromLastAnswer g t ⟨none, "boringssl"⟩ res ["@ssl//..."] ∧
    ((resolveTarget g.recorded { externalCap := 0, crateCap := 0 } "cpp:boringssl").run []).1 ≠
      .error (.unresolved ⟨"boringssl", some .cpp, []⟩) := by
  intro g t res
  have hfirst : externalAttempt t "boringssl" = ⟨.externalRepo "@ssl", res.note⟩ := by
    decide +kernel
  have hkept : kept g t [] (.externalRepo "@ssl") = res.labels := by decide +kernel
  have hquery : (Strategy.externalRepo "@ssl").query = "@ssl//..." := by decide
  have hrun : (resolve g.recorded t ⟨none, "boringssl"⟩).run [] = (.ok res, ["@ssl//..."]) := by
    rw [run_resolve (by decide) (by decide), plan, hfirst, List.cons_append,
      run_attemptAll_of_kept (by rw [hkept]; exact List.cons_ne_nil _ _), hkept, hquery]
    rfl
  exact ⟨hrun, ((resolve_selects g t).1 _ res _ hrun).2 (by decide),
    (resolve_selects g _).2 "cpp:boringssl" "boringssl" (some .cpp)⟩

end DeclAtlas
