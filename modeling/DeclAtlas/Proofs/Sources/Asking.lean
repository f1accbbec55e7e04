import DeclAtlas.Proofs.Sources.Refusals
import DeclAtlas.Query

/-!
# Queries that ask a source

A query either fails at once, on its argument alone, or asks some source before it ends, whatever the
sources answer (`Project.asks_or_fails`).

Of a computation with watched sources two things are said: it takes nothing away from the record of what
is asked (`Records`), and it adds something to it (`Asks`).  Steps one after another record
(`Records.bind`), and they ask if the first one does (`Asks.bind`), so a query is followed no further
than to the first source it comes to.
-/

namespace DeclAtlas

open Text

variable {α β : Type}

/-- A computation that keeps the record of what has been asked, and may add to it. -/
def Records (x : StateM (List Question) α) : Prop := ∀ asked, asked <+: (x.run asked).2

/-- A computation that asks something. -/
def Asks (x : StateM (List Question) α) : Prop := ∀ asked, ∃ q, asked ++ [q] <+: (x.run asked).2

/-! ### Steps one after another -/

section Steps

variable {x : StateM (List Question) α} {k : α → StateM (List Question) β}

theorem Asks.records (h : Asks x) : Records x := fun asked => by
  obtain ⟨q, hq⟩ := h asked
  exact (List.prefix_append asked [q]).trans hq

theorem Asks.run_ne (h : Asks x) (asked : List Question) : (x.run asked).2 ≠ asked := by
  obtain ⟨q, hq⟩ := h asked
  intro heq
  have hlength := hq.length_le
  rw [heq, List.length_append, List.length_singleton] at hlength
  omega

theorem records_pure (a : α) : Records (pure a : StateM (List Question) α) := List.prefix_refl

theorem Records.bind (hx : Records x) (hk : ∀ a, Records (k a)) : Records (x >>= k) := fun asked =>
  (hx asked).trans (hk (x.run asked).1 (x.run asked).2)

theorem Asks.bind (hx : Asks x) (hk : ∀ a, Records (k a)) : Asks (x >>= k) := fun asked => by
  obtain ⟨q, hq⟩ := hx asked
  exact ⟨q, hq.trans (hk (x.run asked).1 (x.run asked).2)⟩

theorem Asks.map (hx : Asks x) (f : α → β) : Asks (f <$> x) := hx

theorem asks_recordedAs {γ δ : Type} (kind : γ → Question) (g : List Question → γ → δ) (c : γ) :
    Asks (recordedAs kind g c) := fun _ => ⟨kind c, List.prefix_refl _⟩

end Steps

/-- Sources each of which records what it is asked. -/
structure Sources.Asking (s : Sources (StateM (List Question))) : Prop where
  search : ∀ r, Asks (s.search r)
  graph : ∀ query, Asks (s.graph query)
  compile : ∀ file, Asks (s.compile file)
  read : ∀ path, Asks (s.read path)

theorem AnsweringSources.asking (g : AnsweringSources) : g.recorded.Asking where
  search := asks_recordedAs .search g.search
  graph := asks_recordedAs .graph g.graph
  compile := asks_recordedAs .compile g.compile
  read := asks_recordedAs .read g.read

/-! ### Some files one after another -/

theorem records_firstInFiles? {read : FileReader (StateM (List Question))}
    (hread : ∀ path, Asks (read path)) (root : String) (find? : String → String → Option α)
    (files : List Hit) : Records (firstInFiles? read root find? files) := by
  induction files with
  | nil => exact records_pure _
  | cons f files ih =>
    refine (hread _).records.bind fun content => ?_
    cases content with
    | error cause => exact ih
    | ok t =>
      dsimp only
      cases find? f.path t with
      | none => exact ih
      | some a => exact records_pure _

/-! ### The interface of a type -/

section Interface

variable {search : Searcher (StateM (List Question))} {read : FileReader (StateM (List Question))}
  (hread : ∀ path, Asks (read path)) (root typeName : String)

include hread

theorem records_candidates (hits : List Hit) : Records (candidates read root hits) := by
  induction hits with
  | nil => exact records_pure []
  | cons h hs ih =>
    exact (hread _).records.bind fun _ => ih.bind fun _ => records_pure _

theorem records_chosenInterface (chosen : Candidate) (rest : List Candidate) :
    Records (chosenInterface read root typeName chosen rest) := by
  rw [chosenInterface]
  cases chosen.content with
  | some t => exact records_pure _
  | none =>
    refine (hread _).records.bind fun content => ?_
    cases content <;> exact records_pure _

theorem records_resourceInterface (first : Hit) (others : List Hit) :
    Records (resourceInterface read root typeName first others) := by
  rw [resourceInterface]
  split
  · refine (records_candidates hread root _).bind fun cs => ?_
    cases cs with
    | nil => exact records_pure _
    | cons c cs => exact records_chosenInterface hread root typeName _ _
  · exact records_pure _

theorem records_structInterface (files : List Hit) :
    Records (structInterface read root typeName files) := by
  refine (records_firstInFiles? hread root _ files).bind fun found => ?_
  cases found <;> exact records_pure _

theorem asks_lookupInterface (hsearch : ∀ r, Asks (search r)) {s : SearchSettings}
    (hcheck : checkIdentifier .typeName typeName = .ok ()) :
    Asks (lookupInterface search read root s typeName) := by
  rw [lookupInterface, hcheck]
  refine (hsearch _).bind fun hits => ?_
  cases orEmpty hits with
  | cons h hs => exact records_resourceInterface hread root typeName h hs
  | nil => exact (hsearch _).records.bind fun files => records_structInterface hread root typeName _

end Interface

/-! ### The cross-reference of a symbol -/

section CrossReference

open CrossReference

variable {search : Searcher (StateM (List Question))} {read : FileReader (StateM (List Question))}
  (hread : ∀ path, Asks (read path)) (root symbol : String)

theorem asks_hitsOf (hsearch : ∀ r, Asks (search r)) (r : SearchRequest) : Asks (hitsOf search r) :=
  (hsearch r).bind fun _ => records_pure _

include hread

theorem records_registeredMembersAt (hit : Hit) : Records (registeredMembersAt read root hit) :=
  (hread _).records.bind fun content => by cases content <;> exact records_pure _

theorem asks_findTypeGroup? (hsearch : ∀ r, Asks (search r)) (s : SearchSettings) :
    Asks (findTypeGroup? search read root s symbol) := by
  refine (asks_hitsOf hsearch _).bind fun files => ?_
  split
  · exact records_firstInFiles? hread root _ files
  · exact records_pure _

theorem asks_gather (hsearch : ∀ r, Asks (search r)) (s : SearchSettings) :
    Asks (gather search read root s symbol) := by
  have hits := fun r => (asks_hitsOf hsearch r).records
  refine (asks_hitsOf hsearch _).bind fun declarations => (hits _).bind fun implementations =>
    (hits _).bind fun registrations => (hits _).bind fun tests => (hits _).bind fun gating =>
    (asks_findTypeGroup? hread root symbol hsearch s).records.bind fun group => ?_
  cases registrations.head? with
  | none => exact (records_pure _).bind fun _ => records_pure _
  | some h => exact (records_registeredMembersAt hread root h).bind fun _ => records_pure _

end CrossReference

/-! ### The dependencies of a target -/

section Dependencies

variable {graph : GraphAsker (StateM (List Question))} (hgraph : ∀ query, Asks (graph query))
  {t : ResolverSettings}

include hgraph

theorem asks_askGraph (query : String) : Asks (askGraph graph query) :=
  (hgraph query).bind fun _ => records_pure _

theorem records_attemptAll (settled : Bool) (tried : List Strategy) (as : List Attempt) :
    Records (attemptAll graph t settled tried as) := by
  induction as generalizing settled tried with
  | nil => exact records_pure _
  | cons a as ih =>
    rw [attemptAll]
    split
    · exact ih _ _
    · refine (asks_askGraph hgraph _).records.bind fun labels => ?_
      cases a.strategy.keep t labels with
      | nil => exact ih _ _
      | cons l ls => exact records_pure _

/-- The first attempt is made in any case. -/
theorem asks_attemptAll (tried : List Strategy) (a : Attempt) (as : List Attempt) :
    Asks (attemptAll graph t false tried (a :: as)) := by
  rw [attemptAll, Bool.false_and, if_neg Bool.false_ne_true]
  refine (asks_askGraph hgraph _).bind fun labels => ?_
  cases a.strategy.keep t labels with
  | nil => exact records_attemptAll hgraph _ _ as
  | cons l ls => exact records_pure _

theorem asks_attemptAll_plan (r : Reference) : Asks (attemptAll graph t false [] (plan t r)) := by
  rw [plan]
  cases r.ecosystem with
  | none => exact asks_attemptAll hgraph _ _ _
  | some e => cases e <;> exact asks_attemptAll hgraph _ _ _

/-- A reference with a name is a label as it stands, or is asked for. -/
theorem asks_resolve {r : Reference} (hname : r.name.isEmpty = false)
    (hlabel : r.isCanonical = false) : Asks (resolve graph t r) := by
  rw [resolve, hname, hlabel, if_neg Bool.false_ne_true, if_neg Bool.false_ne_true]
  refine (asks_attemptAll_plan hgraph r).bind fun found => ?_
  cases found <;> exact records_pure _

theorem records_mapM_askGraph (query : String → String) (labels : List String) :
    Records (labels.mapM fun l => askGraph graph (query l)) := by
  induction labels with
  | nil =>
    rw [List.mapM_nil]
    exact records_pure _
  | cons l labels ih =>
    rw [List.mapM_cons]
    exact (asks_askGraph hgraph _).records.bind fun _ => ih.bind fun _ => records_pure _

theorem asks_reverseDependencies {s : GraphSettings} {reference : String} (depth : Nat)
    (hname : (Reference.parse t reference).name.isEmpty = false) :
    Asks (reverseDependencies graph t s reference depth) := by
  rw [reverseDependencies]
  cases hlabel : (Reference.parse t reference).isCanonical with
  | true =>
    rw [resolve, hname, hlabel, if_neg Bool.false_ne_true, if_pos rfl, pure_bind]
    dsimp only
    rw [List.mapM_cons]
    exact ((asks_askGraph hgraph _).bind fun _ =>
      (records_mapM_askGraph hgraph _ []).bind fun _ => records_pure _).bind fun _ => records_pure _
  | false =>
    refine (asks_resolve hgraph hname hlabel).bind fun found => ?_
    cases found with
    | error e => exact records_pure _
    | ok r =>
      exact (records_mapM_askGraph hgraph (rdepsQuery s · depth) r.labels).bind fun _ =>
        records_pure _

/-- A target is known by its label, or it is asked for. -/
theorem resolveTarget_cases (target : String)
    (hname : (Reference.parse t target).name.isEmpty = false) :
    (∃ label, resolveTarget graph t target = pure (.ok label)) ∨
      Asks (resolveTarget graph t target) := by
  rw [resolveTarget]
  dsimp only
  rw [hname, if_neg Bool.false_ne_true]
  cases hlabel : (Reference.parse t target).isCanonical with
  | true => exact .inl ⟨_, rfl⟩
  | false =>
    right
    rw [if_neg Bool.false_ne_true]
    cases (Reference.parse t target).ecosystem with
    | none => exact (asks_askGraph hgraph _).bind fun _ => records_pure _
    | some _ =>
      refine (asks_resolve hgraph hname hlabel).bind fun found => ?_
      cases found with
      | error e => exact records_pure _
      | ok r =>
        dsimp only
        cases r.labels <;> exact records_pure _

theorem asks_forwardDependencies {s : GraphSettings} {target : String} (depth : Nat)
    (hname : (Reference.parse t target).name.isEmpty = false) :
    Asks (forwardDependencies graph t s target depth) := by
  have hok : ∀ label, Asks (do
      let deps ← askGraph graph (depsQuery label depth)
      let dependents ← askGraph graph (rdepsQuery s label 1)
      pure (.ok (forwardReport s target label deps dependents)) :
        StateM (List Question) (Except ResolveError DependencyReport)) := fun label =>
    (asks_askGraph hgraph _).bind fun _ => (asks_askGraph hgraph _).records.bind fun _ =>
      records_pure _
  rw [forwardDependencies]
  rcases resolveTarget_cases hgraph target hname with ⟨label, hlabel⟩ | hasks
  · rw [hlabel, pure_bind]
    exact hok label
  · refine hasks.bind fun label? => ?_
    cases label? with
    | error e => exact records_pure _
    | ok label => exact (hok label).records

theorem asks_dependencies {s : GraphSettings} {target : String} (direction : Direction)
    (depth : Nat) (hcheck : checkReference (Reference.parse t (trimString target)) = .ok ()) :
    Asks (dependencies graph t s target direction depth) := by
  have hname : (Reference.parse t (trimString target)).name.isEmpty = false := by
    by_contra h
    rw [checkReference, if_pos (by simpa using h)] at hcheck
    cases hcheck
  cases direction with
  | forward => exact asks_forwardDependencies hgraph depth hname
  | reverse => exact asks_reverseDependencies hgraph depth hname

end Dependencies

/-! ### The five queries -/

/-- **A query fails on its argument or asks a source**, whatever the sources answer. -/
theorem Project.asks_or_fails {p : Project (StateM (List Question))} (hp : p.sources.Asking)
    (q : Query) : Asks (p.answer q) ∨ ∃ e, p.answer q = pure (.error e) := by
  cases q with
  | interface typeName =>
    rw [Project.answer, Project.interface]
    cases hcheck : checkIdentifier .typeName (trimString typeName) with
    | ok _ =>
      exact .inl ((asks_lookupInterface hp.read _ _ hp.search hcheck).bind fun _ => records_pure _)
    | error e =>
      rw [lookupInterface, hcheck]
      exact .inr ⟨_, rfl⟩
  | ordinal file record =>
    rw [Project.answer, Project.ordinal, Schema.lookupOrdinal]
    cases Schema.checkRecord record with
    | error e => exact .inr ⟨_, rfl⟩
    | ok _ =>
      refine .inl (((hp.compile file).bind fun text => ?_).bind fun _ => records_pure _)
      cases text <;> exact records_pure _
  | dependencies target direction depth =>
    rw [Project.answer, Project.dependencies]
    cases hcheck : checkReference (Reference.parse p.settings.resolver (trimString target)) with
    | ok _ =>
      exact .inl ((asks_dependencies hp.graph direction depth hcheck).bind fun _ => records_pure _)
    | error e =>
      have hrefused : DeclAtlas.dependencies p.sources.graph p.settings.resolver p.settings.graph
          target direction depth = pure (.error (.input e)) :=
        funext ((refusedBy_dependencies direction depth).refuses e hcheck)
      rw [hrefused, pure_bind]
      exact .inr ⟨_, rfl⟩
  | compat date flag =>
    rw [Project.answer, Project.compat, Compat.lookupFlags]
    cases Compat.checkOptionalDate date with
    | error e => exact .inr ⟨_, rfl⟩
    | ok _ =>
      refine .inl (((hp.compile _).bind fun text => ?_).bind fun _ => records_pure _)
      cases text <;> exact records_pure _
  | crossReference symbol =>
    rw [Project.answer, Project.crossReference, lookupCrossReference]
    cases checkIdentifier .symbol (trimString symbol) with
    | error e => exact .inr ⟨_, rfl⟩
    | ok _ =>
      exact .inl (((asks_gather hp.read _ _ hp.search _).map _).bind fun _ => records_pure _)

end DeclAtlas
