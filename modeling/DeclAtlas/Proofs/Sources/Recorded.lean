import DeclAtlas.Dependency.Resolver

/-!
# Sources that are watched

What a query asks of its sources is part of what it does, and the answers it gets may be anything.
Both are said by running it against a source of the kind `Answering`: a function that answers in
view of everything asked before, so that no two answers need agree, wrapped by
`Answering.recorded`, which keeps the record of what was asked.  `AnsweringSources` does the same for all
the sources of a project, with one record for all of them.
-/

namespace DeclAtlas

/-- What a source answers, given all that it was asked before and what it is asked now. -/
abbrev Answering (α β : Type) := List α → α → β

/-- The source that answers so and keeps a record of what it is asked. -/
def Answering.recorded {α β : Type} (g : Answering α β) (a : α) : StateM (List α) β := do
  let asked ← get
  set (asked ++ [a])
  pure (g asked a)

/-- What a source answers to some questions, one after another. -/
def Answering.answers {α β : Type} (g : Answering α β) (asked : List α) : List α → List β
  | [] => []
  | a :: as => g asked a :: answers g (asked ++ [a]) as

/-- A build graph with any answers and any failures. -/
abbrev AnsweringGraph := Answering String (Except SourceError (List String))

theorem run_askGraph_bind {α : Type} (g : AnsweringGraph) (query : String) (asked : List String)
    (k : List String → StateM (List String) α) :
    (askGraph g.recorded query >>= k).run asked =
      (k (orEmpty (g asked query))).run (asked ++ [query]) := rfl

theorem run_mapM_askGraph {α : Type} (g : AnsweringGraph) (query : α → String) (xs : List α)
    (asked : List String) :
    (xs.mapM fun x => askGraph g.recorded (query x)).run asked =
      ((g.answers asked (xs.map query)).map orEmpty, asked ++ xs.map query) := by
  induction xs generalizing asked with
  | nil =>
    rw [List.mapM_nil, List.map_nil, List.append_nil]
    rfl
  | cons x xs ih =>
    rw [List.mapM_cons, run_askGraph_bind, StateT.run_bind, ih, List.append_assoc]
    rfl

theorem fst_run_bind {σ α β : Type} (x : StateM σ α) (k : α → StateM σ β) (st : σ) :
    ((x >>= k).run st).1 = ((k (x.run st).1).run (x.run st).2).1 := rfl

/-- What is found in files is found in one of them. -/
theorem exists_of_firstInFiles? {σ α : Type} {read : FileReader (StateM σ)} {root : String}
    {find? : String → String → Option α} {a : α} (files : List Hit) (st : σ)
    (h : ((firstInFiles? read root find? files).run st).1 = some a) :
    ∃ path content, find? path content = some a := by
  induction files generalizing st with
  | nil => cases h
  | cons f files ih =>
    rw [firstInFiles?, fst_run_bind] at h
    cases hread : ((read (Path.join root f.path)).run st).1 with
    | error cause =>
      rw [hread] at h
      exact ih _ h
    | ok content =>
      rw [hread] at h
      dsimp only at h
      cases hfind : find? f.path content with
      | none =>
        rw [hfind] at h
        exact ih _ h
      | some b =>
        rw [hfind] at h
        exact ⟨f.path, content, hfind.trans h⟩

/-- What a source of a project is asked. -/
inductive Question where
  | search (r : SearchRequest)
  | graph (query : String)
  | compile (file : String)
  | read (path : String)
  deriving Repr, DecidableEq

/-- The sources of a project with any answers and any failures, each in view of everything that any of
them was asked before. -/
structure AnsweringSources where
  search : List Question → SearchRequest → Except SourceError (List Hit)
  graph : List Question → String → Except SourceError (List String)
  compile : List Question → String → Except SourceError String
  read : List Question → String → Except String String

/-- The source that answers so and records its questions as some of the project's. -/
def recordedAs {α β : Type} (kind : α → Question) (g : List Question → α → β) (a : α) :
    StateM (List Question) β := do
  let asked ← get
  set (asked ++ [kind a])
  pure (g asked a)

/-- The sources that answer so and keep one record of what they are asked. -/
def AnsweringSources.recorded (g : AnsweringSources) : Sources (StateM (List Question)) where
  search := recordedAs .search g.search
  graph := recordedAs .graph g.graph
  compile := recordedAs .compile g.compile
  read := recordedAs .read g.read

end DeclAtlas
