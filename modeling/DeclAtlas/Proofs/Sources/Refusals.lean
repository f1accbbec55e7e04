import DeclAtlas.Project
import DeclAtlas.Proofs.Interface.Candidates
import DeclAtlas.Proofs.Sources.Recorded

/-!
# Arguments that are refused

An argument is checked before anything is searched, compiled or read.  A query of which this is true
(`RefusedBy`) reports an input error exactly if the check fails, and then none of its sources has been
asked for anything.

It is true of four of the five queries without reservation, and of the interface of a type whose name is
not too long for a pattern.  For a name that is, an input error comes after a search
(`interface_refuses_late`).
-/

namespace DeclAtlas

open Text

/-- A query that refuses its argument exactly if a check does, and without asking any source. -/
structure RefusedBy {ε α : Type} (input : InputError → ε) (check : Except InputError Unit)
    (query : StateM (List Question) (Except ε α)) : Prop where
  refuses : ∀ e, check = .error e → ∀ asked, query.run asked = (.error (input e), asked)
  input_error_iff : ∀ asked,
    (∃ e, (query.run asked).1 = .error (input e)) ↔ ∃ e, check = .error e

theorem RefusedBy.of_cases {ε α : Type} {input : InputError → ε} {check : Except InputError Unit}
    {query : StateM (List Question) (Except ε α)}
    (hrefuses : ∀ e, check = .error e → query = pure (.error (input e)))
    (haccepts : check = .ok () → ∀ asked e, (query.run asked).1 ≠ .error (input e)) :
    RefusedBy input check query := by
  constructor
  · intro e he asked
    rw [hrefuses e he]
    rfl
  · intro asked
    constructor
    · rintro ⟨e, he⟩
      cases hcheck : check with
      | error e' => exact ⟨e', rfl⟩
      | ok _ => exact absurd he (haccepts hcheck asked e)
    · rintro ⟨e, he⟩
      exact ⟨e, by rw [hrefuses e he]; rfl⟩

/-! ### Queries that have passed their check -/

section

variable {σ : Type}

theorem map_readResource_ne_input {typeName file content : String} (f : Interface → Interface)
    (hcondition : Pattern.isAdmitted (conditionPattern typeName) = true) (e : InputError) :
    (readResource typeName file content).map f ≠ .error (.input e) := by
  rw [readResource, if_pos hcondition]
  cases Interface.ofResource typeName file content <;> simp [Except.map, Except.mapError]

theorem chosenInterface_ne_input {read : FileReader (StateM σ)} {root typeName : String}
    (hcondition : Pattern.isAdmitted (conditionPattern typeName) = true) (chosen : Candidate)
    (rest : List Candidate) (st : σ) (e : InputError) :
    ((chosenInterface read root typeName chosen rest).run st).1 ≠ .error (.input e) := by
  rw [chosenInterface]
  cases chosen.content with
  | some t => exact map_readResource_ne_input _ hcondition e
  | none =>
    dsimp only
    rw [fst_run_bind]
    cases ((read (Path.join root chosen.hit.path)).run st).1 with
    | error cause => exact fun h => by cases h
    | ok t => exact map_readResource_ne_input _ hcondition e

theorem lookupInterface_ne_input {search : Searcher (StateM σ)} {read : FileReader (StateM σ)}
    {root typeName : String} {s : SearchSettings}
    (hmargin : Pattern.isAdmitted (marginPattern typeName) = true)
    (hcondition : Pattern.isAdmitted (conditionPattern typeName) = true)
    (hcheck : checkIdentifier .typeName typeName = .ok ()) (st : σ) (e : InputError) :
    ((lookupInterface search read root s typeName).run st).1 ≠ .error (.input e) := by
  rw [lookupInterface, hcheck]
  dsimp only
  rw [fst_run_bind]
  cases orEmpty ((search (markerRequest s typeName)).run st).1 with
  | nil =>
    dsimp only
    rw [fst_run_bind]
    rcases structInterface_run read root typeName _ _ with h | ⟨i, h, -⟩
    · rw [h]
      simp
    · rw [h]
      simp
  | cons first others =>
    dsimp only
    rw [resourceInterface, if_pos hmargin, fst_run_bind]
    cases ((candidates read root (first :: others)).run _).1 with
    | nil => exact fun h => by cases h
    | cons c cs => exact chosenInterface_ne_input hcondition _ _ _ e

theorem lookupOrdinal_ne_input {compile : Compiler (StateM σ)} {file : String}
    {record : Option String} (hcheck : Schema.checkRecord record = .ok ()) (st : σ)
    (e : InputError) :
    ((Schema.lookupOrdinal compile file record).run st).1 ≠ .error (.input e) := by
  rw [Schema.lookupOrdinal, hcheck]
  dsimp only
  rw [fst_run_bind]
  cases ((compile file).run st).1 with
  | error cause => exact nofun
  | ok text =>
    dsimp only
    change Schema.outcome _ _ record ≠ _
    cases record with
    | none => exact nofun
    | some name =>
      rw [Schema.outcome]
      cases Schema.find? (Schema.parse text) name <;> exact nofun

theorem reportOf_ne_input {file text : String} {date flag : Option String} (e : InputError) :
    Compat.reportOf file text date flag ≠ .error (.input e) := by
  rw [Compat.reportOf]
  cases Compat.flags text with
  | nil => exact nofun
  | cons f fs =>
    cases flag with
    | none => exact nofun
    | some query =>
      dsimp only
      rw [Compat.select]
      cases (f :: fs).filter (·.matchesQuery query) <;> exact nofun

theorem lookupFlags_ne_input {compile : Compiler (StateM σ)} {file : String}
    {date flag : Option String} (hcheck : Compat.checkOptionalDate date = .ok ()) (st : σ)
    (e : InputError) :
    ((Compat.lookupFlags compile file date flag).run st).1 ≠ .error (.input e) := by
  rw [Compat.lookupFlags, hcheck]
  dsimp only
  rw [fst_run_bind]
  cases ((compile file).run st).1 with
  | error cause => exact nofun
  | ok text => exact reportOf_ne_input e

/-- Refuses a reference that names nothing. -/
def checkReference (r : Reference) : Except InputError Unit :=
  if r.name.isEmpty then .error .emptyReference else .ok ()

theorem fst_run_bind_ne_input {α β : Type} {x : StateM σ (Except ResolveError α)}
    {k : Except ResolveError α → StateM σ (Except ResolveError β)}
    (hx : ∀ st e, (x.run st).1 ≠ .error (.input e))
    (herror : ∀ e, k (.error e) = pure (.error e))
    (hok : ∀ a st e, ((k (.ok a)).run st).1 ≠ .error (.input e)) (st : σ) (e : InputError) :
    ((x >>= k).run st).1 ≠ .error (.input e) := by
  rw [fst_run_bind]
  cases h : (x.run st).1 with
  | error e' =>
    rw [herror]
    intro he
    obtain rfl : e' = .input e := Except.error.inj he
    exact hx st e h
  | ok a => exact hok a _ e

section

variable {graph : GraphAsker (StateM σ)} {t : ResolverSettings}

theorem resolve_ne_input {r : Reference} (hname : r.name.isEmpty = false) (st : σ)
    (e : InputError) : ((resolve graph t r).run st).1 ≠ .error (.input e) := by
  rw [resolve, hname, if_neg Bool.false_ne_true]
  cases r.isCanonical with
  | true => exact nofun
  | false =>
    rw [if_neg Bool.false_ne_true, fst_run_bind]
    cases ((attemptAll graph t false [] (plan t r)).run st).1 <;> exact nofun

theorem resolveTarget_ne_input {target : String}
    (hname : (Reference.parse t target).name.isEmpty = false) (st : σ) (e : InputError) :
    ((resolveTarget graph t target).run st).1 ≠ .error (.input e) := by
  rw [resolveTarget]
  dsimp only
  rw [hname, if_neg Bool.false_ne_true]
  cases (Reference.parse t target).isCanonical with
  | true => exact nofun
  | false =>
    rw [if_neg Bool.false_ne_true]
    cases (Reference.parse t target).ecosystem with
    | none => exact nofun
    | some _ =>
      refine fst_run_bind_ne_input (resolve_ne_input hname) ?_ ?_ st e
      · exact fun _ => rfl
      · intro r st e
        dsimp only
        cases r.labels <;> exact nofun

theorem dependencies_ne_input {s : GraphSettings} {target : String} {depth : Nat}
    (hcheck : checkReference (Reference.parse t (trimString target)) = .ok ())
    (direction : Direction) (st : σ) (e : InputError) :
    ((dependencies graph t s target direction depth).run st).1 ≠ .error (.input e) := by
  have hname : (Reference.parse t (trimString target)).name.isEmpty = false := by
    cases h : (Reference.parse t (trimString target)).name.isEmpty with
    | false => rfl
    | true =>
      rw [checkReference, h] at hcheck
      exact nomatch hcheck
  cases direction with
  | forward =>
    rw [dependencies, forwardDependencies]
    refine fst_run_bind_ne_input (resolveTarget_ne_input hname) ?_ ?_ st e
    · exact fun _ => rfl
    · exact fun _ _ _ => nofun
  | reverse =>
    rw [dependencies, reverseDependencies]
    refine fst_run_bind_ne_input (resolve_ne_input hname) ?_ ?_ st e
    · exact fun _ => rfl
    · exact fun _ _ _ => nofun

end

end

/-! ### The five queries -/

/-- A type name that is not too long for the patterns of a lookup. -/
def FitsPatterns (typeName : String) : Prop :=
  Pattern.isAdmitted (marginPattern typeName) = true ∧
    Pattern.isAdmitted (conditionPattern typeName) = true

theorem fitsPatterns_of_length_le {typeName : String} (hname : isIdentifier typeName.toList = true)
    (hlength : typeName.length ≤ safeLength) : FitsPatterns typeName :=
  ⟨isAdmitted_marginPattern hname hlength, isAdmitted_conditionPattern hname hlength⟩

theorem refusedBy_dependencies {graph : GraphAsker (StateM (List Question))} {t : ResolverSettings}
    {s : GraphSettings} {target : String} (direction : Direction) (depth : Nat) :
    RefusedBy .input (checkReference (Reference.parse t (trimString target)))
      (dependencies graph t s target direction depth) := by
  refine .of_cases (fun e he => ?_) fun hcheck => dependencies_ne_input hcheck direction
  cases hname : (Reference.parse t (trimString target)).name.isEmpty with
  | false =>
    rw [checkReference, hname] at he
    exact nomatch he
  | true =>
    rw [checkReference, hname, if_pos rfl] at he
    obtain rfl := Except.error.inj he
    cases direction with
    | forward =>
      have htarget : resolveTarget graph t (trimString target) =
          pure (.error (.input .emptyReference)) := by
        rw [resolveTarget]
        dsimp only
        rw [hname, if_pos rfl]
      rw [dependencies, forwardDependencies, htarget]
      rfl
    | reverse =>
      have hresolve : resolve graph t (Reference.parse t (trimString target)) =
          pure (.error (.input .emptyReference)) := by
        rw [resolve, hname, if_pos rfl]
      rw [dependencies, reverseDependencies, hresolve]
      rfl

theorem refusedBy_interface {search : Searcher (StateM (List Question))}
    {read : FileReader (StateM (List Question))} {root typeName : String} {s : SearchSettings}
    (hfits : isIdentifier typeName.toList = true → FitsPatterns typeName) :
    RefusedBy .input (checkIdentifier .typeName typeName)
      (lookupInterface search read root s typeName) := by
  refine .of_cases (fun e he => ?_) fun hcheck => ?_
  · rw [lookupInterface, he]
  · have hname : isIdentifier typeName.toList = true := by
      by_contra h
      rw [checkIdentifier, if_neg h] at hcheck
      exact absurd hcheck (by simp)
    obtain ⟨hmargin, hcondition⟩ := hfits hname
    exact lookupInterface_ne_input hmargin hcondition hcheck

theorem refusedBy_crossReference {search : Searcher (StateM (List Question))}
    {read : FileReader (StateM (List Question))} {root symbol : String} {s : SearchSettings} :
    RefusedBy id (checkIdentifier .symbol symbol) (lookupCrossReference search read root s symbol) := by
  refine .of_cases (fun e he => ?_) fun hcheck => ?_
  · rw [lookupCrossReference, he]
    rfl
  · rw [lookupCrossReference, hcheck]
    exact fun _ _ => nofun

theorem refusedBy_ordinal {compile : Compiler (StateM (List Question))} {file : String}
    {record : Option String} :
    RefusedBy .input (Schema.checkRecord record) (Schema.lookupOrdinal compile file record) := by
  refine .of_cases (fun e he => ?_) lookupOrdinal_ne_input
  rw [Schema.lookupOrdinal, he]

theorem refusedBy_compat {compile : Compiler (StateM (List Question))} {file : String}
    {date flag : Option String} :
    RefusedBy .input (Compat.checkOptionalDate date)
      (Compat.lookupFlags compile file date flag) := by
  refine .of_cases (fun e he => ?_) lookupFlags_ne_input
  rw [Compat.lookupFlags, he]

/-- **Input errors are reported exactly for arguments that fail their check, and before any source is
asked.**  The sources may answer anything, in view of everything asked before.  Only of a type name
that is an identifier it has to be said that it fits the patterns it is looked for with. -/
theorem refused_by_checks (root : String) (settings : Settings) (g : AnsweringSources) :
    let p : Project (StateM (List Question)) := ⟨root, settings, g.recorded⟩
    (∀ typeName, (isIdentifier typeName.toList = true → FitsPatterns typeName) →
      RefusedBy .input (checkIdentifier .typeName typeName) (p.interface typeName)) ∧
    (∀ symbol, RefusedBy id (checkIdentifier .symbol symbol) (p.crossReference symbol) ∧
      (isIdentifier symbol.toList = true →
        ∀ asked, ∃ c, ((p.crossReference symbol).run asked).1 = .ok c)) ∧
    (∀ file record, RefusedBy .input (Schema.checkRecord record) (p.ordinal file record)) ∧
    (∀ date flag, RefusedBy .input (Compat.checkOptionalDate date) (p.compat date flag)) ∧
    ∀ target direction depth,
      RefusedBy .input (checkReference (Reference.parse settings.resolver (trimString target)))
        (p.dependencies target direction depth) := by
  refine ⟨fun _ hfits => refusedBy_interface hfits, fun symbol => ⟨refusedBy_crossReference, ?_⟩,
    fun _ _ => refusedBy_ordinal, fun _ _ => refusedBy_compat,
    fun _ direction depth => refusedBy_dependencies direction depth⟩
  intro hname asked
  rw [Project.crossReference, lookupCrossReference, checkIdentifier, if_pos hname]
  exact ⟨_, rfl⟩

/-- Sources in which every search finds the first line of one file, and nothing else is found. -/
def oneHeader : AnsweringSources where
  search _ _ := .ok [⟨"src/a.h", 1, ""⟩]
  graph _ _ := .ok []
  compile _ _ := .ok ""
  read _ _ := .error "no such file"

/-- The project with these sources. -/
def oneHeaderProject : Project (StateM (List Question)) := ⟨"/repo", {}, oneHeader.recorded⟩

theorem refused_by_checks_oneHeader : (isIdentifier "Ink".toList = true → FitsPatterns "Ink") ∧
    isIdentifier "Ink".toList = true ∧
    RefusedBy .input (checkIdentifier .typeName "Ink") (oneHeaderProject.interface "Ink") ∧
    ∃ c, ((oneHeaderProject.crossReference "Ink").run []).1 = .ok c := by
  have hname : isIdentifier "Ink".toList = true := by decide +kernel
  have hfits : FitsPatterns "Ink" := fitsPatterns_of_length_le hname (by decide +kernel)
  obtain ⟨hinterface, hcross, -⟩ := refused_by_checks "/repo" {} oneHeader
  exact ⟨fun _ => hfits, hname, hinterface "Ink" fun _ => hfits, (hcross "Ink").2 hname []⟩

theorem interface_of_longName {n : Nat} (hn : Pattern.roomLimit < (n + 1) * Pattern.stateRoom) :
    (oneHeaderProject.interface (longName n)).run [] =
      (.error (.input (.invalidIdentifier .typeName (longName n))),
        [.search (markerRequest {} (longName n))]) := by
  rw [← length_longName n] at hn
  have hname := isIdentifier_longName n
  have hmargin : ¬ Pattern.isAdmitted (marginPattern (longName n)) = true := by
    rw [not_isAdmitted_marginPattern hname hn]
    exact Bool.false_ne_true
  rw [Project.interface, lookupInterface, checkIdentifier, if_pos hname]
  have hrun : ∀ h hs asked, (resourceInterface oneHeaderProject.sources.read oneHeaderProject.root
      (longName n) h hs).run asked = (.error (tooLong (longName n)), asked) := by
    intro h hs asked
    rw [resourceInterface, if_neg hmargin]
    rfl
  exact hrun _ _ _

/-- **A name that is too long is refused late**: its check accepts it, and it is refused after a
search. -/
theorem interface_refuses_late :
    ¬ RefusedBy .input (checkIdentifier .typeName (longName 339999))
        (oneHeaderProject.interface (longName 339999)) ∧
      (oneHeaderProject.interface (longName 339999)).run [] =
        (.error (.input (.invalidIdentifier .typeName (longName 339999))),
          [.search (markerRequest {} (longName 339999))]) := by
  have hrun := interface_of_longName (n := 339999) (by decide)
  refine ⟨fun hrefused => ?_, hrun⟩
  obtain ⟨e, he⟩ := (hrefused.input_error_iff []).mp ⟨_, congrArg Prod.fst hrun⟩
  rw [checkIdentifier, if_pos (isIdentifier_longName 339999)] at he
  exact absurd he (by simp)

end DeclAtlas
