import DeclAtlas.Proofs.Interface.Growth
import DeclAtlas.Proofs.Interface.Markers
import DeclAtlas.Proofs.Sources.Recorded
import DeclAtlas.Proofs.Text.Occurrences
import Mathlib.Data.Prod.Lex

/-!
# The file a registration is taken from

Several headers may hold a marker of a type, and one header may hold several.  The search reports every
one of them; the file of one hit is read again, and the first marker found there is the registration.

The two steps know nothing of each other, so it is not plain that the registration is the hit that was
chosen.  It is: all hits in one file are equally good, so the first of the best hits is the first in
its file (`head?_linesIn_of_first`), and the search and the reader mean the same lines
(`isMatch_markerRequest`).

* `pickBest_spec`: the choice takes the first of the best and leaves the others in their order.
* `location_of_ofResource`: a registration has the place of its marker.
* `registration_is_best_hit`: what this says of a whole lookup.
-/

namespace DeclAtlas

open Text

/-! ### The first of the best -/

theorem pickBest_spec {α : Type} (score : α → Nat) (a : α) (bs : List α) :
    ∃ before after, a :: bs = before ++ (pickBest score a bs).1 :: after ∧
      (pickBest score a bs).2 = before ++ after ∧
      (∀ x ∈ before, score x < score (pickBest score a bs).1) ∧
      ∀ x ∈ after, score x ≤ score (pickBest score a bs).1 := by
  induction bs generalizing a with
  | nil => exact ⟨[], [], rfl, rfl, by simp, by simp⟩
  | cons b bs ih =>
    obtain ⟨before, after, hsplit, hrest, hbefore, hafter⟩ := ih b
    by_cases hlt : score a < score (pickBest score b bs).1
    · rw [pickBest, if_pos hlt]
      refine ⟨a :: before, after, ?_, ?_, List.forall_mem_cons.mpr ⟨hlt, hbefore⟩, hafter⟩
      · rw [hsplit, List.cons_append]
      · rw [hrest, List.cons_append]
    · rw [pickBest, if_neg hlt]
      refine ⟨[], b :: bs, rfl, rfl, by simp, fun x hx => ?_⟩
      rw [hsplit] at hx
      refine Nat.le_trans ?_ (Nat.not_lt.mp hlt)
      rcases List.mem_append.mp hx with hx | hx
      · exact Nat.le_of_lt (hbefore x hx)
      · rcases List.mem_cons.mp hx with rfl | hx
        · exact Nat.le_refl _
        · exact hafter x hx

/-! ### How well files suit a type -/

theorem declaresAtMargin_iff (w : Word) {content : List Char} :
    declaresAtMargin w.text content = true ↔ ∃ r,
      "class ".toList ++ (w.text ++ r) ∈ pieces '\n' content ∧ StartsIn (isWord · = false) r := by
  simp only [declaresAtMargin, List.any_eq_true, Option.isSome_filter, Option.any_eq_true,
    dropLead?_eq_some, boundaryAfter_iff, List.append_assoc]
  constructor
  · rintro ⟨l, hl, r, rfl, hr⟩
    exact ⟨r, hl, hr⟩
  · rintro ⟨r, hl, hr⟩
    exact ⟨_, hl, r, rfl, hr⟩

theorem namesType_iff {typeName path : String} : namesType typeName path = true ↔
    lower typeName.toList <:+: lower ((Path.fileName? path).getD "").toList :=
  contains_iff

/-- How well a file suits a type: whether it declares the class at its margin counts first, then
whether its name mentions the type. -/
def suitability (typeName : String) (text : String → String) (path : String) : Bool ×ₗ Bool :=
  toLex (declaresAtMargin typeName.toList (text path).toList, namesType typeName path)

/-- A hit as a candidate whose file could be read. -/
def candidateOf (text : String → String) (h : Hit) : Candidate := ⟨h, some (text h.path)⟩

theorem score_lt_iff {typeName : String} {text : String → String} {g h : Hit} :
    (candidateOf text g).score typeName < (candidateOf text h).score typeName ↔
      suitability typeName text g.path < suitability typeName text h.path := by
  have hlex : ∀ d e m n : Bool,
      ((if m = true then 10 else 0) + (if d = true then 20 else 0) <
        (if n = true then 10 else 0) + if e = true then 20 else 0) ↔
        d < e ∨ d = e ∧ m < n := by
    decide
  simp only [Candidate.score, candidateOf, Option.any_some, suitability, Prod.Lex.toLex_lt_toLex]
  exact hlex _ _ _ _

/-! ### Places of markers -/

/-- The place of a hit. -/
def Hit.location (h : Hit) : Location := ⟨h.path, h.line⟩

/-- The numbers of the lines of a text in `p`, counted from 1. -/
def linesIn (p : Line → Bool) (text : String) : List Nat :=
  (((linesOf text).zipIdx 1).filter fun l => p l.1).map Prod.snd

/-- The places at which the lines of some files are in `p`, file by file. -/
def placesIn (p : Line → Bool) (text : String → String) (paths : List String) : List Location :=
  paths.flatMap fun path => (linesIn p (text path)).map (Location.mk path)

/-- A place before which its file is not mentioned is the first one in its file. -/
theorem head?_linesIn_of_first {p : Line → Bool} {text : String → String} {paths : List String}
    {before after : List Location} {x : Location}
    (h : placesIn p text paths = before ++ x :: after) (hfirst : ∀ y ∈ before, y.file ≠ x.file) :
    (linesIn p (text x.file)).head? = some x.line := by
  induction paths generalizing before with
  | nil => simp [placesIn] at h
  | cons path paths ih =>
    have hown : ∀ y ∈ (linesIn p (text path)).map (Location.mk path), y.file = path := by
      intro y hy
      obtain ⟨n, -, rfl⟩ := List.mem_map.mp hy
      rfl
    rw [placesIn, List.flatMap_cons, List.append_eq_append_iff] at h
    rcases h with ⟨later, rfl, hlater⟩ | ⟨own, hsplit, hx⟩
    · -- the place lies in a later file
      exact ih hlater fun y hy => hfirst y (List.mem_append_right _ hy)
    · cases own with
      | nil =>
        have hlater : placesIn p text paths = [] ++ x :: after := hx.symm
        exact ih hlater fun y hy => absurd hy List.not_mem_nil
      | cons y own =>
        obtain ⟨rfl, -⟩ := List.cons.inj hx
        have hfile : x.file = path := hown x (hsplit ▸ List.mem_append_right _ List.mem_cons_self)
        have hbefore : before = [] := by
          cases before with
          | nil => rfl
          | cons y before =>
            have hy : y.file = path := hown y (hsplit ▸ List.mem_cons_self)
            exact absurd (hy.trans hfile.symm) (hfirst y List.mem_cons_self)
        rw [hbefore, List.nil_append] at hsplit
        have hhead := congrArg List.head? hsplit
        rw [List.head?_map, List.head?_cons] at hhead
        obtain ⟨n, hn, rfl⟩ := Option.map_eq_some_iff.mp hhead
        exact hn

theorem file_mem_of_mem_placesIn {p : Line → Bool} {text : String → String} {paths : List String}
    {x : Location} (h : x ∈ placesIn p text paths) : x.file ∈ paths := by
  obtain ⟨path, hpath, hx⟩ := List.mem_flatMap.mp h
  obtain ⟨n, -, rfl⟩ := List.mem_map.mp hx
  exact hpath

theorem zipIdx_filter_head? {α β : Type} (g : α → Option β) (ls : List α) (n : Nat) :
    (((ls.zipIdx (n + 1)).filter fun l => (g l.1).isSome).map Prod.snd).head? =
      ((ls.zipIdx n).findSome? fun l => (g l.1).map fun b => (l.2, b)).map fun r => r.1 + 1 := by
  induction ls generalizing n with
  | nil => rfl
  | cons l ls ih =>
    rw [List.zipIdx_cons, List.zipIdx_cons, List.findSome?_cons]
    cases hg : g l with
    | none => rw [List.filter_cons_of_neg (by simp [hg])]; exact ih (n + 1)
    | some b => rw [List.filter_cons_of_pos (by simp [hg])]; rfl

/-- The first line that the pattern of the markers is found on is the one that is read. -/
theorem exists_findMarker? {s : SearchSettings} {typeName text : String} {n : Nat}
    (hname : isIdentifier typeName.toList = true)
    (h : (linesIn (fun l => (Pattern.ofString? (markerRequest s typeName).pattern).any
      (·.isMatch l)) text).head? = some n) :
    ∃ k condition, findMarker? typeName.toList (linesOf text) = some (k, condition) ∧ k + 1 = n := by
  cases hp : Pattern.ofString? (markerRequest s typeName).pattern with
  | none => simp [hp, linesIn] at h
  | some p =>
    simp only [hp, Option.any_some, isMatch_markerRequest hname hp] at h
    rw [linesIn, zipIdx_filter_head? (fun l => findMatch? (marker? typeName.toList) l)] at h
    obtain ⟨⟨k, condition⟩, hk, rfl⟩ := Option.map_eq_some_iff.mp h
    exact ⟨k, condition, hk, rfl⟩

/-! ### The registration in a file -/

/-- **A registration has the place of its marker**, and where there is a marker, it is not missing. -/
theorem location_of_ofResource {typeName content : String} {k : Nat} {condition : Option String}
    (file : String)
    (h : findMarker? typeName.toList (linesOf content) = some (k, condition)) :
    (∃ i, Interface.ofResource typeName file content = .ok i ∧ i.location = ⟨file, k + 1⟩) ∨
      Interface.ofResource typeName file content =
        .error (.blockMissing typeName ⟨file, k + 1⟩) := by
  unfold Interface.ofResource
  simp only [h]
  cases Nesting.blockAt? (linesOf content) k with
  | none => exact .inr rfl
  | some b => exact .inl ⟨_, rfl, (Interface.growsTo_addAll _ _).location⟩

/-- What is read of a file whose first marker is known. -/
theorem readResource_of_findMarker? {typeName content : String} {k : Nat}
    {condition : Option String} (file : String)
    (h : findMarker? typeName.toList (linesOf content) = some (k, condition)) :
    (∃ i, readResource typeName file content = .ok i ∧ i.location = ⟨file, k + 1⟩) ∨
      readResource typeName file content =
        .error (.resource (.blockMissing typeName ⟨file, k + 1⟩)) ∨
      readResource typeName file content = .error (tooLong typeName) := by
  rw [readResource]
  by_cases hp : Pattern.isAdmitted (conditionPattern typeName) = true
  · rw [if_pos hp]
    rcases location_of_ofResource file h with ⟨i, hi, hloc⟩ | hb
    · exact .inl ⟨i, by rw [hi]; rfl, hloc⟩
    · exact .inr (.inl (by rw [hb]; rfl))
  · rw [if_neg hp]
    exact .inr (.inr rfl)

theorem registration_ofStruct? {typeName file content : String} {i : Interface}
    (h : Interface.ofStruct? typeName file content = some i) : i.registration = .valueStruct := by
  obtain ⟨_, -, rfl⟩ := Option.map_eq_some_iff.mp h
  rfl

/-! ### A lookup in files that stay as they are -/

section

variable {σ : Type} {search : Searcher (StateM σ)} {read : FileReader (StateM σ)}
  {root typeName : String} {text : String → String}

theorem candidates_run {hits : List Hit}
    (hread : ∀ h ∈ hits, ∀ st, ((read (Path.join root h.path)).run st).1 = .ok (text h.path))
    (st : σ) : ((candidates read root hits).run st).1 = hits.map (candidateOf text) := by
  induction hits generalizing st with
  | nil => rfl
  | cons h hits ih =>
    obtain ⟨hfirst, hlater⟩ := List.forall_mem_cons.mp hread
    rw [candidates, fst_run_bind, fst_run_bind, hfirst, ih hlater]
    rfl

/-- What is read of a type with markers. -/
theorem resourceInterface_run {first : Hit} {others : List Hit}
    (hread : ∀ h ∈ first :: others, ∀ st,
      ((read (Path.join root h.path)).run st).1 = .ok (text h.path)) (st : σ) :
    ((resourceInterface read root typeName first others).run st).1 = .error (tooLong typeName) ∨
      ∃ before chosen after, first :: others = before ++ chosen :: after ∧
        (∀ h ∈ before, suitability typeName text h.path < suitability typeName text chosen.path) ∧
        (∀ h ∈ after, suitability typeName text h.path ≤ suitability typeName text chosen.path) ∧
        ((resourceInterface read root typeName first others).run st).1 =
          (readResource typeName chosen.path (text chosen.path)).map fun i =>
            { i with alsoRegisteredIn := (before ++ after).map Hit.location } := by
  rw [resourceInterface]
  by_cases hmargin : Pattern.isAdmitted (marginPattern typeName) = true
  swap
  · rw [if_neg hmargin]
    exact .inl rfl
  rw [if_pos hmargin, fst_run_bind, candidates_run hread, List.map_cons]
  obtain ⟨before', after', hsplit, hrest, hbefore, hafter⟩ :=
    pickBest_spec (Candidate.score typeName) (candidateOf text first) (others.map (candidateOf text))
  rw [← List.map_cons, List.map_eq_append_iff] at hsplit
  obtain ⟨before, later, hhits, rfl, hlater⟩ := hsplit
  obtain ⟨chosen, after, rfl, hchosen, rfl⟩ := List.map_eq_cons_iff.mp hlater
  rw [← hchosen] at hbefore hafter
  refine .inr ⟨before, chosen, after, hhits, fun h hh => ?_, fun h hh => ?_, ?_⟩
  · exact score_lt_iff.mp (hbefore _ (List.mem_map_of_mem hh))
  · exact not_lt.mp fun hlt =>
      Nat.not_lt.mpr (hafter _ (List.mem_map_of_mem hh)) (score_lt_iff.mpr hlt)
  · dsimp only
    rw [← hchosen, hrest, ← List.map_append]
    change (readResource typeName chosen.path (text chosen.path)).map _ = _
    simp only [List.map_map]
    rfl

/-- What is read of a type whose marker lines a search has reported. -/
theorem resourceInterface_of_places {s : SearchSettings} {paths : List String} {first : Hit}
    {others : List Hit} (hname : isIdentifier typeName.toList = true)
    (hplaces : (first :: others).map Hit.location = placesIn (fun l =>
      (Pattern.ofString? (markerRequest s typeName).pattern).any (·.isMatch l)) text paths)
    (hread : ∀ path ∈ paths, ∀ st, ((read (Path.join root path)).run st).1 = .ok (text path))
    (st : σ) :
    let result := ((resourceInterface read root typeName first others).run st).1
    result = .error (tooLong typeName) ∨
      ∃ before chosen after, first :: others = before ++ chosen :: after ∧
        (∀ h ∈ before, suitability typeName text h.path < suitability typeName text chosen.path) ∧
        (∀ h ∈ after, suitability typeName text h.path ≤ suitability typeName text chosen.path) ∧
        (result = .error (.resource (.blockMissing typeName chosen.location)) ∨
          ∃ i, result = .ok i ∧ i.location = chosen.location ∧
            i.alsoRegisteredIn = (before ++ after).map Hit.location) := by
  have hfiles : ∀ h ∈ first :: others, h.path ∈ paths := fun h hh =>
    file_mem_of_mem_placesIn (x := h.location) (hplaces ▸ List.mem_map_of_mem hh)
  rcases resourceInterface_run (fun h hh => hread _ (hfiles h hh)) st with
    hlong | ⟨before, chosen, after, hhits, hbefore, hafter, hresult⟩
  · exact .inl hlong
  -- all hits in one file are equally suitable, so those before the chosen one lie in other files
  have hfirst : ∀ y ∈ before.map Hit.location, y.file ≠ chosen.location.file := by
    intro y hy hsame
    obtain ⟨h, hh, rfl⟩ := List.mem_map.mp hy
    have hlt := hbefore h hh
    rw [show h.path = chosen.path from hsame] at hlt
    exact absurd hlt (lt_irrefl _)
  rw [hhits, List.map_append, List.map_cons] at hplaces
  obtain ⟨k, condition, hmarker, hline⟩ : ∃ k condition,
      findMarker? typeName.toList (linesOf (text chosen.path)) = some (k, condition) ∧
        k + 1 = chosen.line :=
    exists_findMarker? hname (head?_linesIn_of_first hplaces.symm hfirst)
  have hlocation : Location.mk chosen.path (k + 1) = chosen.location :=
    congrArg (Location.mk chosen.path) hline
  dsimp only
  rw [hresult]
  rcases readResource_of_findMarker? chosen.path hmarker with
    ⟨i, hi, hloc⟩ | hblock | hlong
  · let taken := { i with alsoRegisteredIn := (before ++ after).map Hit.location }
    refine .inr ⟨before, chosen, after, hhits, hbefore, hafter, .inr ⟨taken, ?_, ?_, rfl⟩⟩
    · rw [hi]
      rfl
    · exact hloc.trans hlocation
  · refine .inr ⟨before, chosen, after, hhits, hbefore, hafter, .inl ?_⟩
    rw [← hlocation]
    exact congrArg _ hblock
  · exact .inl (congrArg _ hlong)

variable (read root typeName) in
theorem structInterface_run (files : List Hit) (st : σ) :
    ((structInterface read root typeName files).run st).1 = .error (.notRegistered typeName) ∨
      ∃ i, ((structInterface read root typeName files).run st).1 = .ok i ∧
        i.registration = .valueStruct := by
  rw [structInterface, fst_run_bind]
  cases hfound : ((firstInFiles? read root (readStruct? typeName) files).run st).1 with
  | none => exact .inl rfl
  | some i =>
    obtain ⟨path, content, hi⟩ := exists_of_firstInFiles? files st hfound
    rw [readStruct?, Option.ite_none_right_eq_some] at hi
    exact .inr ⟨i, rfl, registration_ofStruct? hi.2⟩

end

/-- **The registration is the best hit.**  Where a search reports the marker lines of the readable
files, file by file and line by line, the marker that it reports is always there when the file is
read.  The registration that is read is at the place of one hit, the other hits are in their order
where it is registered, too, and of the most suitable files it is in the first. -/
theorem registration_is_best_hit {σ : Type} (search : Searcher (StateM σ))
    (read : FileReader (StateM σ)) (root : String) (s : SearchSettings) (typeName : String)
    (paths : List String) (text : String → String) (hits : List Hit)
    (hplaces : hits.map Hit.location = placesIn (fun l =>
      (Pattern.ofString? (markerRequest s typeName).pattern).any (·.isMatch l)) text paths)
    (hsearch : ∀ st, ((search (markerRequest s typeName)).run st).1 = .ok hits)
    (hread : ∀ path ∈ paths, ∀ st, ((read (Path.join root path)).run st).1 = .ok (text path))
    (st : σ) :
    let result := ((lookupInterface search read root s typeName).run st).1
    (∀ missing file, result ≠ .error (.resource (.markerMissing missing file))) ∧
      ∀ i condition, result = .ok i → i.registration = .resource condition →
        ∃ before chosen after, hits = before ++ chosen :: after ∧
          i.location = chosen.location ∧
          i.alsoRegisteredIn = (before ++ after).map Hit.location ∧
          (∀ h ∈ before, suitability typeName text h.path < suitability typeName text chosen.path) ∧
          ∀ h ∈ after, suitability typeName text h.path ≤ suitability typeName text chosen.path := by
  rw [lookupInterface, checkIdentifier]
  by_cases hname : isIdentifier typeName.toList = true
  swap
  · rw [if_neg hname]
    exact ⟨nofun, fun _ _ h => nomatch h⟩
  rw [if_pos hname]
  dsimp only
  rw [fst_run_bind, hsearch]
  cases hits with
  | nil =>
    rcases structInterface_run read root typeName _ _ with
      hmissing | ⟨i, hi, hstruct⟩
    · rw [orEmpty, fst_run_bind, hmissing]
      exact ⟨nofun, fun _ _ h => nomatch h⟩
    · rw [orEmpty, fst_run_bind, hi]
      refine ⟨nofun, fun j condition hj hcondition => ?_⟩
      obtain rfl := Except.ok.inj hj
      exact nomatch hstruct.symm.trans hcondition
  | cons first others =>
    dsimp only [orEmpty]
    rcases resourceInterface_of_places hname hplaces hread _ with
      hlong | ⟨before, chosen, after, hhits, hbefore, hafter, hblock | ⟨i, hi, hloc, halso⟩⟩
    · rw [hlong]
      exact ⟨nofun, fun _ _ h => nomatch h⟩
    · rw [hblock]
      exact ⟨nofun, fun _ _ h => nomatch h⟩
    · rw [hi]
      refine ⟨nofun, fun j condition hj _ => ?_⟩
      obtain rfl := Except.ok.inj hj
      exact ⟨before, chosen, after, hhits, hloc, halso, hbefore, hafter⟩

/-- The headers of a run, by their paths. -/
def inkHeader (path : String) : String :=
  if path = "pen.h" then "JSG_RESOURCE_TYPE(Ink) \x7b\x7d"
  else
    "class Ink \x7b\n  JSG_RESOURCE_TYPE( Ink, f) \x7b\x7d\n  JSG_RESOURCE_TYPE(Ink) \x7b\x7d\n\x7d;"

/-- The hits in them: two files are as good as each other, and one of them stands first with its first
line. -/
def inkHits : List Hit :=
  [⟨"pen.h", 1, ""⟩, ⟨"ink.h", 2, ""⟩, ⟨"ink.h", 3, ""⟩, ⟨"ink2.h", 2, ""⟩, ⟨"ink2.h", 3, ""⟩]

/-- The search that answers with them. -/
def inkSearch : Searcher (StateM Unit) := fun _ => pure (.ok inkHits)

/-- The reader of the headers in a directory. -/
def inkReader : FileReader (StateM Unit) := fun path =>
  pure (.ok (inkHeader ((Path.fileName? path).getD "")))

theorem registration_is_best_hit_ink : ∃ i before chosen after,
    ((lookupInterface inkSearch inkReader "/repo" {} "Ink").run ()).1 = .ok i ∧
      i.registration = .resource (some "f") ∧ inkHits = before ++ chosen :: after ∧
      i.location = chosen.location ∧
      i.alsoRegisteredIn = (before ++ after).map Hit.location := by
  let paths := ["pen.h", "ink.h", "ink2.h"]
  have hname : isIdentifier "Ink".toList = true := by decide +kernel
  have hshort : "Ink".length ≤ safeLength := by decide +kernel
  have hplaces : inkHits.map Hit.location = placesIn (fun l =>
      (Pattern.ofString? (markerRequest {} "Ink").pattern).any (·.isMatch l)) inkHeader paths := by
    obtain ⟨p, hp⟩ := Option.isSome_iff_exists.mp (isAdmitted_markerRequest {} hname hshort)
    simp only [hp, Option.any_some, isMatch_markerRequest hname hp]
    decide +kernel
  have hfiles : ∀ path ∈ paths,
      inkHeader ((Path.fileName? (Path.join "/repo" path)).getD "") = inkHeader path := by
    decide +kernel
  have hread : ∀ path ∈ paths, ∀ st,
      ((inkReader (Path.join "/repo" path)).run st).1 = .ok (inkHeader path) :=
    fun path hpath _ => congrArg Except.ok (hfiles path hpath)
  have hresult : ((lookupInterface inkSearch inkReader "/repo" {} "Ink").run ()).1.toOption.map
      (·.registration) = some (.resource (some "f")) := by
    have hcheck : checkIdentifier .typeName "Ink" = .ok () := by decide +kernel
    rw [lookupInterface, hcheck]
    simp only [resourceInterface, isAdmitted_marginPattern hname hshort, chosenInterface,
      readResource, isAdmitted_conditionPattern hname hshort, if_true]
    decide +kernel
  obtain ⟨i, hi, hregistration⟩ := Option.map_eq_some_iff.mp hresult
  have hok : ((lookupInterface inkSearch inkReader "/repo" {} "Ink").run ()).1 = .ok i := by
    cases hlookup : ((lookupInterface inkSearch inkReader "/repo" {} "Ink").run ()).1 with
    | error e =>
      rw [hlookup] at hi
      exact nomatch hi
    | ok j =>
      rw [hlookup] at hi
      exact congrArg Except.ok (Option.some.inj hi)
  obtain ⟨before, chosen, after, hhits, hchosen, halso, -⟩ :=
    (registration_is_best_hit inkSearch inkReader "/repo" {} "Ink" paths inkHeader inkHits hplaces
      (fun _ => rfl) hread ()).2 i _ hok hregistration
  exact ⟨i, before, chosen, after, hok, hregistration, hhits, hchosen, halso⟩

end DeclAtlas
