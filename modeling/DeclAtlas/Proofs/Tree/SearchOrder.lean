import DeclAtlas.Proofs.Path.Below
import DeclAtlas.Proofs.Path.Order
import DeclAtlas.Proofs.Pattern.Literal
import DeclAtlas.Proofs.Sorting
import DeclAtlas.Tree.Search
import Mathlib.Data.List.Flatten
import Mathlib.Data.List.Nodup

/-!
# A search gives the beginning of one list

A walk yields its files in no particular order, and they are scanned side by side.  This file takes
both as given from outside: a walk that yields some files, readable or not, and a schedule that
says in which order their scans end (`searchWith`).  Each scan stores its hits in the slot of its
file, so the slots hold the same in the end whatever the schedule is (`slotsAfter_eq_map`); and the
files are sorted before, by an order that tells apart all of them (`FilesBelow.sort_eq`).

So a search takes its hits from one list, which the files alone determine; the limit says how many.
Reporting files instead of lines takes them from the list of the files in it, and this holds because
different files are reported under different paths (`FilesBelow.reported_ne`).
-/

namespace DeclAtlas

open DeclAtlas.Path (components shownPath)

/-- A file that a walk yields: its path, and its bytes unless it cannot be read. -/
structure WalkedFile where
  path : String
  content : Option Bytes
  deriving Repr, DecidableEq

/-- A file that was found and can be read. -/
def FoundFile.walked (f : FoundFile) : WalkedFile := ⟨f.path, some f.content⟩

namespace WalkedFile

/-- The lines of the file: none if it cannot be read or is no text. -/
def lines (c : WalkedFile) : List Line := ((c.content.bind Text.decode?).map Text.linesOf).getD []

/-- What a scan of the file finds. -/
def scan (p : Line → Bool) (filesOnly : Bool) (root : String) (c : WalkedFile) : List Hit :=
  match c.content with
  | none => []
  | some bytes => FoundFile.hits p filesOnly root ⟨c.path, bytes⟩

/-- The lines in `p` with their numbers, counted from 1. -/
def matchingLines (p : Line → Bool) (root : String) (c : WalkedFile) : List Hit :=
  ((c.lines.zipIdx 1).filter fun l => p l.1).map fun l =>
    ⟨shownPath root c.path, l.2, String.ofList l.1⟩

/-- Whether a file stands before another one in the order of paths. -/
def le (c d : WalkedFile) : Bool := Path.le c.path d.path

theorem le_trans (a b c : WalkedFile) (hab : a.le b = true) (hbc : b.le c = true) : a.le c = true :=
  Path.le_trans hab hbc

theorem le_total (a b : WalkedFile) : (a.le b || b.le a) = true := Path.le_total a.path b.path

end WalkedFile

/-! ### Scans side by side -/

section Scans

variable (scan : WalkedFile → List Hit) (files : List WalkedFile)

/-- The scan of the file of number `i` ends: its hits are stored in its slot. -/
def endScan (slots : List (List Hit)) (i : Nat) : List (List Hit) :=
  match files[i]? with
  | none => slots
  | some c => slots.set i (scan c)

/-- The slots after the scans have ended in some order. -/
def slotsAfter (schedule : List Nat) : List (List Hit) :=
  schedule.foldl (endScan scan files) (files.map fun _ => [])

/-- The slots hold the hits of the files that are done. -/
def SlotsHold (done : List Nat) (slots : List (List Hit)) : Prop :=
  ∀ j, slots[j]? = files[j]?.map fun c => if j ∈ done then scan c else []

variable {scan files}

theorem SlotsHold.step {done : List Nat} {slots : List (List Hit)}
    (h : SlotsHold scan files done slots) (i : Nat) :
    SlotsHold scan files (i :: done) (endScan scan files slots i) := by
  intro j
  rw [endScan]
  cases hi : files[i]? with
  | none =>
    rw [h j]
    by_cases hj : j = i
    · rw [hj, hi]
      rfl
    · simp [hj]
  | some c =>
    rw [List.getElem?_set]
    by_cases hj : j = i
    · subst hj
      have hlength : j < slots.length := by
        have hslot := h j
        rw [hi] at hslot
        exact (List.getElem?_eq_some_iff.mp hslot).1
      simp [hi, hlength]
    · rw [if_neg (Ne.symm hj), h j]
      simp [hj]

theorem SlotsHold.foldl {done : List Nat} {slots : List (List Hit)}
    (h : SlotsHold scan files done slots) (schedule : List Nat) :
    SlotsHold scan files (schedule.reverse ++ done)
      (schedule.foldl (endScan scan files) slots) := by
  induction schedule generalizing done slots with
  | nil => exact h
  | cons i schedule ih =>
    rw [List.reverse_cons, List.append_assoc, List.foldl_cons]
    exact ih (h.step i)

/-- **The slots do not depend on the order in which the scans end**, as long as every file is
scanned. -/
theorem slotsAfter_eq_map {schedule : List Nat} (h : ∀ i < files.length, i ∈ schedule) :
    slotsAfter scan files schedule = files.map scan := by
  have hstart : SlotsHold scan files [] (files.map fun _ => []) := by
    intro j
    simp only [List.getElem?_map, List.not_mem_nil, if_false]
  refine List.ext_getElem? fun j => ?_
  rw [slotsAfter, hstart.foldl schedule j, List.getElem?_map]
  cases hj : files[j]? with
  | none => rfl
  | some c =>
    have hmem : j ∈ schedule := h j (List.getElem?_eq_some_iff.mp hj).1
    simp [hmem]

end Scans

/-! ### The search -/

/-- A search over the files that a walk yields, with their scans ending in some order. -/
def searchWith (walk : RuleSet → List WalkedFile) (schedule : List Nat) (root dir : String)
    (limit : Nat) (r : SearchRequest) : Except SourceError (List Hit) :=
  match Pattern.ofString? r.pattern with
  | none => .error (.invalidPattern r.pattern)
  | some p =>
    match RuleSet.ofGlobs dir r.globs with
    | .error g => .error (.invalidGlob g)
    | .ok wanted =>
      let files := (walk wanted).mergeSort WalkedFile.le
      let slots := slotsAfter (WalkedFile.scan p.isMatch r.filesOnly root) files schedule
      .ok (slots.flatten.take (r.maxResults.getD limit))

/-- A search in a tree is one over the files of the tree. -/
theorem Tree.search_eq_searchWith (t : Tree) (root dir : String) (limit : Nat) (r : SearchRequest)
    {schedule : List Nat} (h : ∀ wanted, RuleSet.ofGlobs dir r.globs = .ok wanted →
      ∀ i < (t.walk dir wanted).length, i ∈ schedule) :
    t.search root dir limit r =
      searchWith (fun wanted => (t.walk dir wanted).map FoundFile.walked) schedule root dir limit
        r := by
  rw [Tree.search, searchWith]
  cases Pattern.ofString? r.pattern with
  | none => rfl
  | some p =>
    cases hglobs : RuleSet.ofGlobs dir r.globs with
    | error g => rfl
    | ok wanted =>
      have hsort : ((t.walk dir wanted).map FoundFile.walked).mergeSort WalkedFile.le =
          (sortFiles (t.walk dir wanted)).map FoundFile.walked :=
        (List.map_mergeSort (f := FoundFile.walked) (s := WalkedFile.le) fun _ _ _ _ => rfl).symm
      have hcover : ∀ i < ((sortFiles (t.walk dir wanted)).map FoundFile.walked).length,
          i ∈ schedule := by
        intro i hi
        rw [List.length_map, sortFiles, List.length_mergeSort] at hi
        exact h wanted hglobs i hi
      dsimp only
      rw [hsort, slotsAfter_eq_map hcover, List.map_map, ← List.flatMap_def]
      rfl

/-! ### What scans find -/

theorem FoundFile.lineHits_eq (p : Line → Bool) (path : String) (n : Nat) (ls : List Line) :
    lineHits p path n ls =
      ((ls.zipIdx n).filter fun l => p l.1).map fun l => ⟨path, l.2, String.ofList l.1⟩ := by
  induction ls generalizing n with
  | nil => rfl
  | cons l ls ih =>
    rw [lineHits, List.zipIdx_cons, List.filter_cons, ih]
    cases p l <;> rfl

namespace WalkedFile

variable (p : Line → Bool) (root : String) (c : WalkedFile)

/-- The path of the file if it has a line in `p`. -/
def matchingPath : List String := if c.lines.any p then [shownPath root c.path] else []

theorem lines_of_content {c : WalkedFile} {bytes : Bytes} (h : c.content = some bytes) :
    FoundFile.lines ⟨c.path, bytes⟩ = c.lines := by
  rw [FoundFile.lines, lines, h, Option.bind_some]
  cases Text.decode? bytes <;> rfl

theorem lines_of_unreadable {c : WalkedFile} (h : c.content = none) : c.lines = [] := by
  rw [lines, h]
  rfl

theorem scan_lines : c.scan p false root = c.matchingLines p root := by
  rw [scan, matchingLines]
  cases hc : c.content with
  | none =>
    rw [lines_of_unreadable hc]
    rfl
  | some bytes =>
    rw [← lines_of_content hc]
    exact FoundFile.lineHits_eq p (shownPath root c.path) 1 _

theorem scan_files : c.scan p true root = (c.matchingPath p root).map fun q => ⟨q, 0, ""⟩ := by
  rw [scan, matchingPath]
  cases hc : c.content with
  | none =>
    rw [lines_of_unreadable hc]
    rfl
  | some bytes =>
    have hfound : FoundFile.hits p true root ⟨c.path, bytes⟩ =
        if (FoundFile.lines ⟨c.path, bytes⟩).any p then
          [⟨shownPath root c.path, 0, ""⟩] else [] := rfl
    dsimp only
    rw [hfound, lines_of_content hc]
    split_ifs <;> rfl

theorem map_path_matchingLines :
    (c.matchingLines p root).map Hit.path =
      List.replicate (c.lines.countP p) (shownPath root c.path) := by
  have hcount : ((c.lines.zipIdx 1).filter fun l => p l.1).length = c.lines.countP p := by
    conv => rhs; rw [← List.zipIdx_map_fst 1 c.lines, List.countP_map]
    exact List.countP_eq_length_filter.symm
  rw [matchingLines, List.map_map, ← hcount]
  exact List.map_const'

theorem countP_lines_ne_zero : c.lines.countP p ≠ 0 ↔ c.lines.any p = true := by
  rw [← Nat.pos_iff_ne_zero, List.countP_pos_iff, List.any_eq_true]

theorem sublist_matchingPath :
    (c.matchingPath p root).Sublist ((c.matchingLines p root).map Hit.path) := by
  rw [map_path_matchingLines, matchingPath]
  split_ifs with hany
  · rw [List.singleton_sublist, List.mem_replicate]
    exact ⟨(countP_lines_ne_zero p c).mpr hany, rfl⟩
  · exact List.nil_sublist _

theorem mem_matchingPath {q : String} :
    q ∈ c.matchingPath p root ↔ q ∈ (c.matchingLines p root).map Hit.path := by
  rw [map_path_matchingLines, List.mem_replicate, countP_lines_ne_zero, matchingPath]
  split_ifs with hany <;> simp [hany]

end WalkedFile

/-! ### Files below a directory -/

/-- Candidates with different paths below a directory. -/
structure FilesBelow (dir : String) (files : List WalkedFile) : Prop where
  below : ∀ c ∈ files, components dir <+: components c.path
  distinct : (files.map fun c => components c.path).Nodup

/-- The same files in the order of their paths. -/
structure InPathOrder (files ordered : List WalkedFile) : Prop where
  perm : ordered.Perm files
  sorted : ordered.Pairwise fun c d => c.le d = true

namespace FilesBelow

variable {dir : String} {files ordered : List WalkedFile}

theorem of_perm (h : FilesBelow dir files) (hperm : ordered.Perm files) :
    FilesBelow dir ordered where
  below := fun c hc => h.below c (hperm.mem_iff.mp hc)
  distinct := (hperm.map _).nodup_iff.mpr h.distinct

/-- **The files have one order by their paths**, whatever the order in which they are yielded. -/
theorem sort_eq (h : FilesBelow dir files) (hordered : InPathOrder files ordered) :
    files.mergeSort WalkedFile.le = ordered := by
  have hanti : ∀ c ∈ files, ∀ d ∈ files, c.le d = true → d.le c = true → c = d :=
    fun c hc d hd hcd hdc =>
      List.inj_on_of_nodup_map h.distinct hc hd (Path.components_eq_of_le_of_le hcd hdc)
  exact (Sorting.mergeSort_eq_of_perm WalkedFile.le_trans WalkedFile.le_total hordered.perm.symm
    hanti).trans (List.mergeSort_of_pairwise hordered.sorted)

/-- **Different files are reported under different paths.** -/
theorem reported_ne {root source : String} (h : FilesBelow (Path.join root source) files) :
    files.Pairwise fun c d => components (shownPath root c.path) ≠
      components (shownPath root d.path) := by
  refine (List.pairwise_map.mp h.distinct).imp_of_mem fun {c d} hc hd hne heq => ?_
  exact hne (Path.components_eq_of_reported_eq (h.below c hc) (h.below d hd) heq)

theorem nodup_matchingPaths {root source : String}
    (h : FilesBelow (Path.join root source) files) (p : Line → Bool) :
    ((files.flatMap (WalkedFile.matchingPath p root)).map components).Nodup := by
  rw [List.map_flatMap, List.nodup_flatMap]
  constructor
  · intro c _
    rw [WalkedFile.matchingPath]
    split_ifs <;> simp
  · refine h.reported_ne.imp fun {c d} hne => ?_
    show List.Disjoint ((c.matchingPath p root).map components)
      ((d.matchingPath p root).map components)
    rw [WalkedFile.matchingPath, WalkedFile.matchingPath]
    split_ifs <;> simp [hne.symm]

end FilesBelow

/-! ### The one list -/

theorem searchWith_of_ok {walk : RuleSet → List WalkedFile} {schedule : List Nat}
    {root dir : String} {limit : Nat} {r : SearchRequest} {p : Pattern} {wanted : RuleSet}
    {files ordered : List WalkedFile} (hpattern : Pattern.ofString? r.pattern = some p)
    (hglobs : RuleSet.ofGlobs dir r.globs = .ok wanted) (hfiles : FilesBelow dir files)
    (hordered : InPathOrder files ordered) (hwalk : (walk wanted).Perm files)
    (hschedule : ∀ i < files.length, i ∈ schedule) :
    searchWith walk schedule root dir limit r =
      .ok ((ordered.flatMap (WalkedFile.scan p.isMatch r.filesOnly root)).take
        (r.maxResults.getD limit)) := by
  have hsort : (walk wanted).mergeSort WalkedFile.le = ordered :=
    (hfiles.of_perm hwalk).sort_eq ⟨hordered.perm.trans hwalk.symm, hordered.sorted⟩
  have hcover : ∀ i < ordered.length, i ∈ schedule := by
    intro i hi
    exact hschedule i (hordered.perm.length_eq ▸ hi)
  simp only [searchWith, hpattern, hglobs]
  rw [hsort, slotsAfter_eq_map hcover, ← List.flatMap_def]

/-- **A search gives the beginning of one list.**  For any place, pattern and globs: if the pattern
or a glob is malformed, the search is refused before any file is looked at.  Otherwise any files
below the place, readable or not, have one list of matching lines, by the order of their paths and
by line numbers from 1.  In whatever order the files are yielded and their scans end, the search
gives as many of these lines as the limit says, so a higher limit only adds to them; and if files
are asked for, it gives the paths in that list, each once and in the same order.  A search in a tree
is one of these. -/
theorem search_takes_from_one_list (root source pattern : String) (globs : List String) :
    let dir := Path.join root source
    ((Pattern.ofString? pattern = none ∨ ∃ g, RuleSet.ofGlobs dir globs = .error g) →
      ∃ e, ∀ walk schedule limit filesOnly max,
        searchWith walk schedule root dir limit ⟨pattern, globs, filesOnly, max⟩ = .error e) ∧
    ∀ (p : Pattern) (wanted : RuleSet) (files ordered : List WalkedFile),
      Pattern.ofString? pattern = some p → RuleSet.ofGlobs dir globs = .ok wanted →
      FilesBelow dir files → InPathOrder files ordered →
      let all := ordered.flatMap (WalkedFile.matchingLines p.isMatch root)
      ∃ paths : List String, (paths.map components).Nodup ∧
        (∀ q, q ∈ paths ↔ q ∈ all.map Hit.path) ∧ paths.Sublist (all.map Hit.path) ∧
        ∀ walk schedule, (walk wanted).Perm files → (∀ i < files.length, i ∈ schedule) →
          ∀ limit max,
            searchWith walk schedule root dir limit ⟨pattern, globs, false, max⟩ =
              .ok (all.take (max.getD limit)) ∧
            searchWith walk schedule root dir limit ⟨pattern, globs, true, max⟩ =
              .ok ((paths.map fun q => ⟨q, 0, ""⟩).take (max.getD limit)) ∧
            ∀ t : Tree, walk wanted = (t.walk dir wanted).map FoundFile.walked → ∀ filesOnly,
              t.search root dir limit ⟨pattern, globs, filesOnly, max⟩ =
                searchWith walk schedule root dir limit ⟨pattern, globs, filesOnly, max⟩ := by
  intro dir
  constructor
  · rintro (hpattern | ⟨g, hg⟩)
    · refine ⟨.invalidPattern pattern, fun walk schedule limit filesOnly max => ?_⟩
      simp only [searchWith, hpattern]
    · cases hpattern : Pattern.ofString? pattern with
      | none =>
        refine ⟨.invalidPattern pattern, fun walk schedule limit filesOnly max => ?_⟩
        simp only [searchWith, hpattern]
      | some p =>
        refine ⟨.invalidGlob g, fun walk schedule limit filesOnly max => ?_⟩
        simp only [searchWith, hpattern, hg]
  · intro p wanted files ordered hpattern hglobs hfiles hordered all
    have hall : all.map Hit.path = ordered.flatMap fun c =>
        (c.matchingLines p.isMatch root).map Hit.path := List.map_flatMap
    refine ⟨ordered.flatMap (WalkedFile.matchingPath p.isMatch root),
      (hfiles.of_perm hordered.perm).nodup_matchingPaths p.isMatch, fun q => ?_, ?_, ?_⟩
    · simp only [hall, List.mem_flatMap, WalkedFile.mem_matchingPath]
    · rw [hall]
      exact List.Sublist.flatMap_right ordered fun c _ => c.sublist_matchingPath p.isMatch root
    · intro walk schedule hwalk hschedule limit max
      have hrun : ∀ filesOnly,
        searchWith walk schedule root dir limit ⟨pattern, globs, filesOnly, max⟩ =
          .ok ((ordered.flatMap (WalkedFile.scan p.isMatch filesOnly root)).take (max.getD limit)) :=
        fun _ => searchWith_of_ok hpattern hglobs hfiles hordered hwalk hschedule
      refine ⟨(hrun false).trans ?_, (hrun true).trans ?_, fun t ht filesOnly => ?_⟩
      · rw [List.flatMap_congr fun c _ => c.scan_lines p.isMatch root]
      · rw [List.flatMap_congr fun c _ => c.scan_files p.isMatch root, List.map_flatMap]
      · have hlength : (t.walk dir wanted).length = files.length := by
          rw [← hwalk.length_eq, ht, List.length_map]
        have hcover : ∀ rules, RuleSet.ofGlobs dir globs = .ok rules →
            ∀ i < (t.walk dir rules).length, i ∈ schedule := by
          intro rules hrules i hi
          obtain rfl := Except.ok.inj (hglobs.symm.trans hrules)
          exact hschedule i (hlength ▸ hi)
        rw [t.search_eq_searchWith root dir limit _ hcover, hrun filesOnly]
        exact searchWith_of_ok hpattern hglobs hfiles hordered (ht ▸ hwalk) hschedule

/-- Two files with hits, yielded in the wrong order, and one that cannot be read; the scans end in
different orders for two searches of the lines and one of the files. -/
theorem search_takes_from_list_of_three :
    let a : WalkedFile := ⟨"/r/src/a", some [120]⟩
    let b : WalkedFile := ⟨"/r/src/b", some [10, 97, 120, 10, 120]⟩
    let locked : WalkedFile := ⟨"/r/src/locked", none⟩
    let search := fun files schedule limit filesOnly =>
      searchWith (fun _ => files) schedule "/r" "/r/src" limit ⟨"x", [], filesOnly, none⟩
    search [b, locked, a] [2, 0, 1] 2 false = .ok [⟨"src/a", 1, "x"⟩, ⟨"src/b", 2, "ax"⟩] ∧
      search [locked, a, b] [0, 1, 2] 9 false =
        .ok [⟨"src/a", 1, "x"⟩, ⟨"src/b", 2, "ax"⟩, ⟨"src/b", 3, "x"⟩] ∧
      ∃ paths : List String, (∀ q, q ∈ paths ↔ q ∈ ["src/a", "src/b", "src/b"]) ∧
        search [b, a, locked] [1, 0, 2] 9 true = .ok ((paths.map fun q => ⟨q, 0, ""⟩).take 9) := by
  intro a b locked search
  have hdir : Path.join "/r" "src" = "/r/src" := by decide +kernel
  have hp : Pattern.ofString? "x" = some (Pattern.letter 'x') :=
    Pattern.ofString?_singleton (c := 'x') (by decide +kernel)
  have hfiles : FilesBelow "/r/src" [a, b, locked] := ⟨by decide +kernel, by decide +kernel⟩
  have hordered : InPathOrder [a, b, locked] [a, b, locked] := ⟨.refl _, by decide +kernel⟩
  have hall : [a, b, locked].flatMap
      (WalkedFile.matchingLines (Pattern.letter 'x').isMatch "/r") =
      [⟨"src/a", 1, "x"⟩, ⟨"src/b", 2, "ax"⟩, ⟨"src/b", 3, "x"⟩] := by decide +kernel
  have hone := (search_takes_from_one_list "/r" "src" "x" []).2 (Pattern.letter 'x') ⟨"/r/src", []⟩
    [a, b, locked] [a, b, locked] hp (by rw [hdir]; rfl) (hdir ▸ hfiles) hordered
  rw [hdir] at hone
  obtain ⟨paths, -, hpaths, -, hruns⟩ := hone
  rw [hall] at hpaths hruns
  refine ⟨?_, ?_, paths, hpaths, ?_⟩
  · exact (hruns _ [2, 0, 1] (by decide +kernel) (by decide +kernel) 2 none).1
  · exact (hruns _ [0, 1, 2] (by decide +kernel) (by decide +kernel) 9 none).1
  · exact (hruns _ [1, 0, 2] (by decide +kernel) (by decide +kernel) 9 none).2.1

end DeclAtlas
