import DeclAtlas.Proofs.Sources.Recorded
import Mathlib.Data.List.Nodup

/-!
# The order of queries for a name

A name that is no label is looked up by a fixed list of strategies, and what happens is decided by
the first of them that yields labels.  `strategies` is that list, said without the attempts and
their remarks; `keptAt` is what a strategy of the list yields once those before it have been tried.
A lookup follows the list (`Follows`): it stops at the first strategy that yields labels, or else
it tries them all and says so.

The crate registry is special: if it lists the crate, the repositories named after the crate are
left out.  A cap of at least one label keeps this from showing, because the lookup has then stopped
already (`settlesCrate_eq_false`).
-/

namespace DeclAtlas

variable {g : AnsweringGraph} {t : ResolverSettings} {p : List Strategy}

/-! ### The list of strategies -/

/-- The strategies for a reference, in the order in which they are tried. -/
def strategies (t : ResolverSettings) (r : Reference) : List Strategy :=
  let target := Strategy.externalRepo (repoName (aliasTarget t r.name))
  let raw := Strategy.externalRepo (repoName r.name)
  (if r.ecosystem = some .rust then [] else [target]) ++
    (if r.ecosystem = some .cpp then []
      else [.crateRegistry t.crateRegistry r.name, .crateRepository t.crateRegistry r.name]) ++
    (if r.ecosystem = none ∧ raw ≠ target then [raw] else [])

theorem map_strategy_plan (t : ResolverSettings) (r : Reference) :
    (plan t r).map Attempt.strategy = strategies t r := by
  obtain ⟨ecosystem, name⟩ := r
  cases ecosystem with
  | some e => cases e <;> rfl
  | none =>
    by_cases h : (externalAttempt t name).strategy = .externalRepo (repoName name)
    · have hraw : ¬ Strategy.externalRepo (repoName name) ≠
          .externalRepo (repoName (aliasTarget t name)) := not_not.mpr h.symm
      simp only [plan, strategies, h, hraw, if_true, and_false, if_false, reduceCtorEq]
      rfl
    · have hraw : Strategy.externalRepo (repoName name) ≠
          .externalRepo (repoName (aliasTarget t name)) := Ne.symm h
      simp only [plan, strategies, h, hraw, if_false, if_true, ne_eq, not_false_eq_true, and_self,
        reduceCtorEq]
      rfl

theorem nodup_strategies (t : ResolverSettings) (r : Reference) : (strategies t r).Nodup := by
  obtain ⟨ecosystem, name⟩ := r
  rcases ecosystem with _ | _ | _
  · by_cases h : repoName name = repoName (aliasTarget t name)
    · simp [strategies, h]
    · simp [strategies, h, Ne.symm h]
  · simp [strategies]
  · simp [strategies]

/-! ### What a strategy yields -/

/-- The labels that a strategy yields once the graph has been asked some queries. -/
def kept (g : AnsweringGraph) (t : ResolverSettings) (asked : List String) (s : Strategy) :
    List String :=
  s.keep t (orEmpty (g asked s.query))

/-- The labels that strategy number `k` of a list yields once those before it have been tried. -/
def keptAt (g : AnsweringGraph) (t : ResolverSettings) (p : List Strategy) (k : Nat) :
    List String :=
  match p[k]? with
  | some s => kept g t ((p.take k).map Strategy.query) s
  | none => []

theorem keptAt_append (g : AnsweringGraph) (t : ResolverSettings) (s : Strategy)
    (before after : List Strategy) :
    keptAt g t (before ++ s :: after) before.length = kept g t (before.map Strategy.query) s := by
  simp [keptAt]

theorem keptAt_of_length_le {k : Nat} (h : p.length ≤ k) : keptAt g t p k = [] := by
  rw [keptAt, List.getElem?_eq_none h]

/-- A crate whose labels the cap would keep is not settled while none are kept. -/
theorem settlesCrate_eq_false {s : Strategy} {labels : List String} (hcap : 1 ≤ t.crateCap)
    (h : s.keep t labels = []) : s.settlesCrate labels = false := by
  cases s with
  | externalRepo repo => rfl
  | crateRepository registry name => rfl
  | crateRegistry registry name =>
    rw [Strategy.keep, List.take_eq_nil_iff] at h
    have hnone := List.filter_eq_nil_iff.mp (h.resolve_left (by omega))
    rw [Strategy.settlesCrate, List.any_eq_false]
    exact hnone

/-! ### One attempt -/

section Attempt

variable {asked : List String} {tried : List Strategy} {a : Attempt} {rest : List Attempt}

theorem run_attemptAll_of_kept (h : kept g t asked a.strategy ≠ []) :
    (attemptAll g.recorded t false tried (a :: rest)).run asked =
      (.ok ⟨kept g t asked a.strategy, a.note⟩, asked ++ [a.strategy.query]) := by
  obtain ⟨l, ls, hl⟩ := List.exists_cons_of_ne_nil h
  rw [attemptAll, Bool.false_and, if_neg Bool.false_ne_true, run_askGraph_bind, hl]
  rw [kept] at hl
  rw [hl]
  rfl

theorem run_attemptAll_of_not_kept (hcap : 1 ≤ t.crateCap) (h : kept g t asked a.strategy = []) :
    (attemptAll g.recorded t false tried (a :: rest)).run asked =
      (attemptAll g.recorded t false (tried ++ [a.strategy]) rest).run
        (asked ++ [a.strategy.query]) := by
  rw [attemptAll, Bool.false_and, if_neg Bool.false_ne_true, run_askGraph_bind]
  rw [kept] at h
  rw [h, settlesCrate_eq_false hcap h]
  rfl

end Attempt

/-! ### The whole list -/

/-- What becomes of a lookup that follows a list of strategies, and what it asks: either the first
strategy that yields labels ends it, or all of them are tried in vain. -/
inductive Follows (g : AnsweringGraph) (t : ResolverSettings) (p : List Strategy) :
    Except (List Strategy) Resolution × List String → Prop
  | found (k : Nat) (note : Option String) (before : ∀ i < k, keptAt g t p i = [])
      (yields : keptAt g t p k ≠ []) :
      Follows g t p (.ok ⟨keptAt g t p k, note⟩, (p.take (k + 1)).map Strategy.query)
  | exhausted (nothing : ∀ k, keptAt g t p k = []) : Follows g t p (.error p, p.map Strategy.query)

/-- **Attempts are made in order until one yields labels.**  The induction is on the attempts still
to be made; those in `done` have been made already and have yielded nothing. -/
theorem follows_attemptAll (hcap : 1 ≤ t.crateCap) (as : List Attempt) :
    ∀ done : List Strategy, p = done ++ as.map Attempt.strategy →
      (∀ i < done.length, keptAt g t p i = []) →
      Follows g t p
        ((attemptAll g.recorded t false done as).run (done.map Strategy.query)) := by
  induction as with
  | nil =>
    intro done hp hdone
    obtain rfl : p = done := by rw [hp, List.map_nil, List.append_nil]
    refine .exhausted fun k => ?_
    by_cases hk : k < p.length
    · exact hdone k hk
    · exact keptAt_of_length_le (Nat.not_lt.mp hk)
  | cons a rest ih =>
    intro done hp hdone
    have hat : keptAt g t p done.length = kept g t (done.map Strategy.query) a.strategy := by
      rw [hp]
      exact keptAt_append g t a.strategy done _
    have hasked : (p.take (done.length + 1)).map Strategy.query =
        done.map Strategy.query ++ [a.strategy.query] := by
      rw [hp, List.take_length_add_append]
      simp
    by_cases hkept : kept g t (done.map Strategy.query) a.strategy = []
    · rw [run_attemptAll_of_not_kept hcap hkept]
      have hnext := ih (done ++ [a.strategy]) (by rw [hp]; simp) fun i hi => by
        rw [List.length_append, List.length_singleton] at hi
        rcases Nat.lt_succ_iff_lt_or_eq.mp hi with hi | rfl
        · exact hdone i hi
        · rw [hat, hkept]
      rwa [List.map_append, List.map_singleton] at hnext
    · rw [run_attemptAll_of_kept hkept, ← hasked, ← hat]
      exact .found done.length a.note hdone (by rwa [hat])

theorem follows_plan (hcap : 1 ≤ t.crateCap) (r : Reference) :
    Follows g t (strategies t r) ((attemptAll g.recorded t false [] (plan t r)).run []) :=
  follows_attemptAll hcap (plan t r) [] (map_strategy_plan t r).symm fun _ hi => absurd hi (by simp)

namespace Follows

variable {out : Except (List Strategy) Resolution × List String}

theorem queries_isPrefix (h : Follows g t p out) : out.2 <+: p.map Strategy.query := by
  cases h with
  | found k => exact (List.take_prefix (k + 1) p).map Strategy.query
  | exhausted => exact List.prefix_rfl

theorem eq_of_yields (h : Follows g t p out) {k : Nat} (before : ∀ i < k, keptAt g t p i = [])
    (yields : keptAt g t p k ≠ []) :
    ∃ note, out = (.ok ⟨keptAt g t p k, note⟩, (p.take (k + 1)).map Strategy.query) := by
  cases h with
  | found j note hbefore hyields =>
    obtain rfl : j = k := by
      rcases Nat.lt_trichotomy j k with hlt | heq | hgt
      · exact absurd (before j hlt) hyields
      · exact heq
      · exact absurd (hbefore k hgt) yields
    exact ⟨note, rfl⟩
  | exhausted hnone => exact absurd (hnone k) yields

theorem eq_of_none (h : Follows g t p out) (hnone : ∀ k, keptAt g t p k = []) :
    out = (.error p, p.map Strategy.query) := by
  cases h with
  | found k note before yields => exact absurd (hnone k) yields
  | exhausted => rfl

theorem none_of_error (h : Follows g t p out) {tried : List Strategy} (he : out.1 = .error tried) :
    ∀ k, keptAt g t p k = [] := by
  cases h with
  | found => exact absurd he nofun
  | exhausted nothing => exact nothing

end Follows

/-! ### References -/

variable {r : Reference}

theorem run_resolve_of_empty (h : r.name = "") :
    (resolve g.recorded t r).run [] = (.error (.input .emptyReference), []) := by
  rw [resolve, if_pos (by rw [h]; rfl)]
  rfl

theorem name_ne_empty_of_isCanonical (h : r.isCanonical = true) : r.name ≠ "" := by
  intro hname
  rw [Reference.isCanonical, hname] at h
  exact absurd h (by decide)

theorem resolve_of_isCanonical {m : Type → Type} [Monad m] {graph : GraphAsker m}
    (h : r.isCanonical = true) : resolve graph t r = pure (.ok ⟨[r.name], none⟩) := by
  have hname : ¬ r.name.isEmpty = true := fun he =>
    name_ne_empty_of_isCanonical h (String.isEmpty_iff.mp he)
  rw [resolve, if_neg hname, if_pos h]

/-- A name that is no label comes to what the attempts come to. -/
theorem run_resolve (hname : r.name ≠ "") (hcan : r.isCanonical = false) :
    let out := (attemptAll g.recorded t false [] (plan t r)).run []
    (resolve g.recorded t r).run [] =
      (out.1.mapError fun tried => .unresolved ⟨r.name, r.ecosystem, tried⟩, out.2) := by
  have hempty : ¬ r.name.isEmpty = true := fun he => hname (String.isEmpty_iff.mp he)
  dsimp only
  rw [resolve, if_neg hempty, if_neg (by rw [hcan]; exact Bool.false_ne_true), StateT.run_bind]
  rcases (attemptAll g.recorded t false [] (plan t r)).run [] with ⟨result | result, asked⟩ <;> rfl

theorem exists_follows (hcap : 1 ≤ t.crateCap) (hname : r.name ≠ "") (hcan : r.isCanonical = false) :
    ∃ out, Follows g t (strategies t r) out ∧ (resolve g.recorded t r).run [] =
      (out.1.mapError fun tried => .unresolved ⟨r.name, r.ecosystem, tried⟩, out.2) :=
  ⟨_, follows_plan hcap r, run_resolve hname hcan⟩

/-- **A name is looked up by its list of strategies.**  Whatever the build graph answers, the list
names no strategy twice, and the queries made are those of a beginning of the list, in order.  The
first strategy that yields labels ends the lookup with these labels; the lookup fails exactly if
there is none, and then says that the whole list was tried.  A reference that a qualifier binds to
Rust has no external repository on its list, and one bound to C++ not the crate registry.  No name
at all and a label in place of a name are settled without a query. -/
theorem resolve_follows_strategies (g : AnsweringGraph) (t : ResolverSettings) (r : Reference) :
    let p := strategies t r
    let out := (resolve g.recorded t r).run []
    p.Nodup ∧
    (r.ecosystem = some .rust → ∀ repo, Strategy.externalRepo repo ∉ p) ∧
    (r.ecosystem = some .cpp → ∀ registry name, Strategy.crateRegistry registry name ∉ p) ∧
    (r.name = "" → out = (.error (.input .emptyReference), [])) ∧
    (r.isCanonical = true → out = (.ok ⟨[r.name], none⟩, [])) ∧
    (1 ≤ t.crateCap → r.name ≠ "" → r.isCanonical = false →
      out.2 <+: p.map Strategy.query ∧
      (∀ k, (∀ i < k, keptAt g t p i = []) → keptAt g t p k ≠ [] →
        ∃ note, out = (.ok ⟨keptAt g t p k, note⟩, (p.take (k + 1)).map Strategy.query)) ∧
      ((∃ e, out.1 = .error e) ↔ ∀ k, keptAt g t p k = []) ∧
      ((∀ k, keptAt g t p k = []) →
        out = (.error (.unresolved ⟨r.name, r.ecosystem, p⟩), p.map Strategy.query))) := by
  intro p out
  refine ⟨nodup_strategies t r, ?_, ?_, run_resolve_of_empty, ?_, ?_⟩
  · intro h repo
    simp [p, strategies, h]
  · intro h registry name
    simp [p, strategies, h]
  · intro h
    simp only [out, resolve_of_isCanonical h]
    rfl
  · intro hcap hname hcan
    obtain ⟨made, hfollows, hout⟩ := exists_follows (g := g) hcap hname hcan
    rw [show out = _ from hout]
    refine ⟨hfollows.queries_isPrefix, fun k before yields => ?_, ⟨?_, fun hnone => ?_⟩,
      fun hnone => ?_⟩
    · obtain ⟨note, rfl⟩ := hfollows.eq_of_yields before yields
      exact ⟨note, rfl⟩
    · rintro ⟨e, he⟩
      obtain ⟨result, asked⟩ := made
      cases result with
      | ok resolution => exact absurd he nofun
      | error tried => exact hfollows.none_of_error rfl
    · rw [hfollows.eq_of_none hnone]
      exact ⟨_, rfl⟩
    · rw [hfollows.eq_of_none hnone]
      rfl

/-- An alias whose repository is not there, a crate that is not there, and the name itself. -/
theorem resolve_follows_strategies_kj :
    let g : AnsweringGraph := fun asked query =>
      if query = "@capnp-cpp//..." then .error (.unavailable "bazel" "")
      else if query = "@crates_vendor//..." then .ok ["@crates_vendor//:serde"]
      else if asked.length = 3 then .ok ["@kj//:kj", "@kj//src/kj:kj"] else .ok []
    let t : ResolverSettings := {}
    let r : Reference := ⟨none, "kj"⟩
    1 ≤ t.crateCap ∧ r.name ≠ "" ∧ r.isCanonical = false ∧
    ∃ note, (resolve g.recorded t r).run [] = (.ok ⟨["@kj//:kj"], note⟩,
      ["@capnp-cpp//...", "@crates_vendor//...",
        "filter(\"crates_vendor__kj\", //external:all-targets)", "@kj//..."]) := by
  intro g t r
  have hname : r.name ≠ "" := by decide
  have hcan : r.isCanonical = false := by decide
  have h := (resolve_follows_strategies g t r).2.2.2.2.2 (by decide) hname hcan
  have hbefore : ∀ i < 3, keptAt g t (strategies t r) i = [] := by decide +kernel
  have hat : keptAt g t (strategies t r) 3 = ["@kj//:kj"] := by decide +kernel
  obtain ⟨note, hout⟩ := h.2.1 3 hbefore (by rw [hat]; exact List.cons_ne_nil _ _)
  have hqueries : ((strategies t r).take 4).map Strategy.query =
      ["@capnp-cpp//...", "@crates_vendor//...",
        "filter(\"crates_vendor__kj\", //external:all-targets)", "@kj//..."] := by decide +kernel
  rw [hat, hqueries] at hout
  exact ⟨by decide, hname, hcan, note, hout⟩

end DeclAtlas
