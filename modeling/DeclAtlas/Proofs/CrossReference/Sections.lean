import DeclAtlas.Proofs.CrossReference.Independence
import DeclAtlas.Proofs.Text.Parts
import Mathlib.Algebra.GroupWithZero.Nat
import Mathlib.Data.List.Basic
import Mathlib.Data.List.Induction

/-!
# No section loses a hit

The declarations, the implementations and the tests of a symbol are each made of the hits of one
search, by a loop of its own: one hit is moved to the front, the hits are counted by file, and the
files are listed once.  This file says what the sections are without these loops.

* `OpensClass` is what makes a declaration the primary one, said by the parts of its text;
  `isPrimary_iff` shows that the reader of class heads finds just that.
* `PrimaryFirst` says where the primary declaration goes, and that nothing else moves.
* `ListsFiles` says that files are listed in order of their first occurrence, each once.  One path more
  keeps this up (`ListsFiles.addPath`), and so do all the paths of a search
  (`listsFiles_uniquePaths`).
* Counting by file lists the same files, one hit after another (`map_path_countIn`), so it remains to
  say how often each of them occurs (`Counted`).

Two paths are of the same file if they have the same components, as `a//b` and `a/b` do.
-/

namespace DeclAtlas

open Text

namespace CrossReference

/-! ### Class heads -/

/-- A text that begins with the head of a class: a name between blanks, perhaps `final`, and a colon or
a brace. -/
def BeginsWithClassHead (s : List Char) : Prop :=
  ∃ (g : Gap) (w : Word) (a : Blanks) (f : List Char) (b : Blanks) (c : Char) (r : List Char),
    (f = [] ∨ f = "final".toList) ∧ (c = ':' ∨ c = '{') ∧
      s = "class".toList ++ (g.text ++ (w.text ++ (a.text ++ (f ++ (b.text ++ c :: r)))))

/-- A text in which a class head stands. -/
def OpensClass (s : List Char) : Prop := ∃ u v, s = u ++ v ∧ BeginsWithClassHead v

section ClassHead

variable {a b : Blanks} {c : Char} {r : List Char}

theorem opening_not_blank (hc : c = ':' ∨ c = '{') : isBlank c = false ∧ isWord c = false := by
  rcases hc with rfl | rfl <;> decide +kernel

theorem isSome_classOpening?_iff {s : List Char} :
    (classOpening? s).isSome = true ↔ ∃ c r, (c = ':' ∨ c = '{') ∧ s = c :: r := by
  constructor
  · intro h
    unfold classOpening? at h
    split at h
    · exact ⟨':', _, .inl rfl, rfl⟩
    · exact ⟨'{', _, .inr rfl, rfl⟩
    · exact absurd h (by decide)
  · rintro ⟨c, r, rfl | rfl, rfl⟩
    · rfl
    · rfl

/-- A class head is read whose name is as long as it can be. -/
theorem isSome_classHead?_of_startsIn (g : Gap) (w : Word) {f : List Char}
    (hf : f = [] ∨ f = "final".toList) (hc : c = ':' ∨ c = '{')
    (hstop : StartsIn (isWord · = false) (a.text ++ (f ++ (b.text ++ c :: r)))) :
    (classHead? ("class".toList ++
      (g.text ++ (w.text ++ (a.text ++ (f ++ (b.text ++ c :: r))))))).isSome = true := by
  have hopen : StartsIn (isBlank · = false) (c :: r) := startsIn_cons (opening_not_blank hc).1
  have hhead : (classOpening? (c :: r)).isSome = true :=
    isSome_classOpening?_iff.mpr ⟨c, r, hc, rfl⟩
  unfold classHead?
  rw [literal?_append]
  simp only [Option.bind_eq_bind, Option.bind_some, g.read w.startsIn_not_blank, w.read hstop]
  rcases hf with rfl | rfl
  · -- nothing but blanks before the opening character
    have hskip : trimStart (a.text ++ ([] ++ (b.text ++ c :: r))) = c :: r := by
      rw [List.nil_append, trimStart, List.dropWhile_append_of_pos a.blank]
      exact b.skip hopen
    have hnone : literal? "final" (c :: r) = none := by
      rcases hc with rfl | rfl <;> rfl
    rw [hskip, hnone]
    exact hhead
  · have hskip : trimStart (a.text ++ ("final".toList ++ (b.text ++ c :: r))) =
        "final".toList ++ (b.text ++ c :: r) :=
      a.skip (startsIn_cons (by decide))
    rw [hskip, literal?_append, Option.map_some, Option.getD_some, b.skip hopen]
    exact hhead

/-- What follows blanks and perhaps `final` opens a class. -/
theorem exists_opening {t : List Char}
    (h : (classOpening? (((literal? "final" t).map trimStart).getD t)).isSome = true) :
    ∃ (f : List Char) (b : Blanks) (c : Char) (r : List Char),
      (f = [] ∨ f = "final".toList) ∧ (c = ':' ∨ c = '{') ∧ t = f ++ (b.text ++ c :: r) := by
  obtain ⟨c, r, hc, ht⟩ := isSome_classOpening?_iff.mp h
  cases hfinal : literal? "final" t with
  | none =>
    rw [hfinal] at ht
    exact ⟨[], .none, c, r, .inl rfl, hc, ht⟩
  | some u =>
    rw [hfinal] at ht
    obtain ⟨b, rfl⟩ := exists_of_trimStart ht
    exact ⟨"final".toList, b, c, r, .inr rfl, hc, literal?_eq_some.mp hfinal⟩

/-- **What the reader of class heads reads.**  A name can be written together with `final`; the reader
takes the two for one name, and reads a class head all the same. -/
theorem isSome_classHead?_iff {s : List Char} :
    (classHead? s).isSome = true ↔ BeginsWithClassHead s := by
  constructor
  · intro h
    obtain ⟨x, hx⟩ := Option.isSome_iff_exists.mp h
    simp only [classHead?, Option.bind_eq_bind, Option.bind_eq_some_iff] at hx
    obtain ⟨s₂, ⟨s₁, hclass, hgap⟩, ⟨name, s₃⟩, hname, htail⟩ := hx
    obtain rfl := literal?_eq_some.mp hclass
    obtain ⟨g, rfl⟩ := exists_gap_of_blanks? hgap
    obtain ⟨rfl, hne, hword⟩ := run?_eq_some hname
    obtain ⟨f, b, c, r, hf, hc, ht⟩ := exists_opening (Option.isSome_of_eq_some htail)
    refine ⟨g, ⟨name, hne, hword⟩, ⟨s₃.takeWhile isBlank, ?_⟩, f, b, c, r, hf, hc, ?_⟩
    · exact List.all_eq_true.mp List.all_takeWhile
    · rw [← ht, trimStart, List.takeWhile_append_dropWhile]
  · rintro ⟨g, w, a, f, b, c, r, hf, hc, rfl⟩
    have hopen : StartsIn (isWord · = false) (c :: r) := startsIn_cons (opening_not_blank hc).2
    by_cases hjoined : a.text = [] ∧ f = "final".toList
    · obtain ⟨ha, rfl⟩ := hjoined
      have hfinal : "final".toList.all isWord = true := by decide +kernel
      have hword : ∀ d ∈ w.text ++ "final".toList, isWord d = true := by
        intro d hd
        rcases List.mem_append.mp hd with hd | hd
        · exact w.word d hd
        · exact List.all_eq_true.mp hfinal d hd
      have hread := isSome_classHead?_of_startsIn (a := .none) (f := []) g
        ⟨w.text ++ "final".toList, by simp [w.ne_nil], hword⟩ (.inl rfl) hc
        (b.startsIn_not_word hopen)
      simpa [ha, Blanks.none] using hread
    · refine isSome_classHead?_of_startsIn g w hf hc ?_
      rcases hf with rfl | rfl
      · exact a.startsIn_not_word (b.startsIn_not_word hopen)
      · have ha : a.text ≠ [] := fun ha => hjoined ⟨ha, rfl⟩
        exact startsIn_append_of_ne_nil ha fun d hd => isWord_eq_false_of_isBlank (a.blank d hd)

end ClassHead

theorem isPrimary_iff {h : Hit} : isPrimary h = true ↔ OpensClass h.text.toList := by
  rw [isPrimary, isSome_findMatch?_iff]
  simp only [isSome_classHead?_iff, OpensClass]

/-! ### The primary declaration -/

/-- How declarations are listed: the first one that opens a class comes first, and nothing else
changes its place. -/
inductive PrimaryFirst (hits : List Hit) : List Hit → Prop
  | kept (none : ∀ h ∈ hits, ¬ OpensClass h.text.toList) : PrimaryFirst hits hits
  | moved (before after : List Hit) (h : Hit) (split : hits = before ++ h :: after)
      (first : ∀ k ∈ before, ¬ OpensClass k.text.toList) (opens : OpensClass h.text.toList) :
      PrimaryFirst hits (h :: (before ++ after))

theorem primaryFirst_spec (hits : List Hit) : PrimaryFirst hits (primaryFirst hits) := by
  rw [primaryFirst]
  cases hfind : hits.find? isPrimary with
  | none =>
    refine .kept fun h hh hopens => ?_
    exact List.find?_eq_none.mp hfind h hh (isPrimary_iff.mpr hopens)
  | some h =>
    obtain ⟨hprimary, before, after, rfl, hbefore⟩ := List.find?_eq_some_iff_append.mp hfind
    have hnot : ∀ k ∈ before, ¬ isPrimary k = true := by
      intro k hk hprimary
      simpa [hprimary] using hbefore k hk
    have herase : (before ++ h :: after).eraseP isPrimary = before ++ after := by
      rw [List.eraseP_append_right _ hnot, List.eraseP_cons_of_pos hprimary]
    rw [herase]
    exact .moved before after h rfl (fun k hk hopens => hnot k hk (isPrimary_iff.mpr hopens))
      (isPrimary_iff.mp hprimary)

theorem PrimaryFirst.perm {hits listed : List Hit} (h : PrimaryFirst hits listed) :
    listed.Perm hits := by
  cases h with
  | kept => exact .refl hits
  | moved before after h split => exact split ▸ List.perm_middle.symm

/-! ### Files -/

section Files

variable {p q r : String}

theorem isSame_iff : Path.isSame p q = true ↔ Path.components p = Path.components q := beq_iff_eq

theorem isSame_refl (p : String) : Path.isSame p p = true := isSame_iff.mpr rfl

theorem isSame_symm (h : Path.isSame p q = true) : Path.isSame q p = true :=
  isSame_iff.mpr (isSame_iff.mp h).symm

theorem isSame_trans (h : Path.isSame p q = true) (h' : Path.isSame q r = true) :
    Path.isSame p r = true :=
  isSame_iff.mpr ((isSame_iff.mp h).trans (isSame_iff.mp h'))

end Files

/-- A list of the files of some paths: each file once, under the path that names it first, in the order
in which they are first named. -/
structure ListsFiles (paths files : List String) : Prop where
  complete : ∀ p ∈ paths, ∃ f ∈ files, Path.isSame f p = true
  once : files.Pairwise fun f f' => Path.isSame f f' = false
  first : ∀ f ∈ files, paths.find? (Path.isSame f) = some f
  in_order : files.Pairwise fun f f' => paths.idxOf f < paths.idxOf f'

section ListsFiles

variable {paths files : List String} {p : String}

theorem listsFiles_nil : ListsFiles [] [] :=
  ⟨by simp, .nil, by simp, .nil⟩

theorem ListsFiles.mem (h : ListsFiles paths files) {f : String} (hf : f ∈ files) : f ∈ paths :=
  List.mem_of_find?_eq_some (h.first f hf)

/-- A path of a file that is not listed comes for the first time. -/
theorem ListsFiles.isSame_eq_false (h : ListsFiles paths files)
    (hnew : ∀ f ∈ files, Path.isSame f p = false) : ∀ q ∈ paths, Path.isSame p q = false := by
  intro q hq
  obtain ⟨f, hf, hfq⟩ := h.complete q hq
  by_contra hpq
  have hqp : Path.isSame q p = true := isSame_symm (by simpa using hpq)
  exact absurd (isSame_trans hfq hqp) (by simp [hnew f hf])

theorem ListsFiles.first_append (h : ListsFiles paths files) (p : String) :
    ∀ f ∈ files, (paths ++ [p]).find? (Path.isSame f) = some f := by
  intro f hf
  rw [List.find?_append, h.first f hf, Option.some_or]

theorem ListsFiles.in_order_append (h : ListsFiles paths files) (p : String) :
    files.Pairwise fun f f' => (paths ++ [p]).idxOf f < (paths ++ [p]).idxOf f' := by
  refine h.in_order.imp_of_mem fun {f f'} hf hf' hlt => ?_
  rwa [List.idxOf_append_of_mem (h.mem hf), List.idxOf_append_of_mem (h.mem hf')]

theorem ListsFiles.append_known (h : ListsFiles paths files)
    (hknown : ∃ f ∈ files, Path.isSame f p = true) : ListsFiles (paths ++ [p]) files := by
  refine ⟨fun q hq => ?_, h.once, h.first_append p, h.in_order_append p⟩
  rcases List.mem_append.mp hq with hq | hq
  · exact h.complete q hq
  · obtain rfl := List.mem_singleton.mp hq
    exact hknown

theorem ListsFiles.append_new (h : ListsFiles paths files)
    (hnew : ∀ f ∈ files, Path.isSame f p = false) : ListsFiles (paths ++ [p]) (files ++ [p]) := by
  have hnone := h.isSame_eq_false hnew
  have hmem : p ∉ paths := by
    intro hp
    exact absurd (isSame_refl p) (by simp [hnone p hp])
  constructor
  · intro q hq
    rcases List.mem_append.mp hq with hq | hq
    · obtain ⟨f, hf, hsame⟩ := h.complete q hq
      exact ⟨f, List.mem_append_left _ hf, hsame⟩
    · obtain rfl := List.mem_singleton.mp hq
      exact ⟨q, by simp, isSame_refl q⟩
  · refine List.pairwise_append.mpr ⟨h.once, List.pairwise_singleton _ _, fun f hf f' hf' => ?_⟩
    obtain rfl := List.mem_singleton.mp hf'
    exact hnew f hf
  · intro f hf
    rcases List.mem_append.mp hf with hf | hf
    · exact h.first_append p f hf
    · obtain rfl := List.mem_singleton.mp hf
      have hfind : paths.find? (Path.isSame f) = none :=
        List.find?_eq_none.mpr fun q hq => by simp [hnone q hq]
      rw [List.find?_append, hfind, Option.none_or, List.find?_singleton, if_pos (isSame_refl f)]
  · refine List.pairwise_append.mpr
      ⟨h.in_order_append p, List.pairwise_singleton _ _, fun f hf f' hf' => ?_⟩
    obtain rfl := List.mem_singleton.mp hf'
    rw [List.idxOf_append_of_mem (h.mem hf), List.idxOf_append_of_notMem hmem]
    have hlt := List.idxOf_lt_length_of_mem (h.mem hf)
    omega

/-- **One path more.** -/
theorem ListsFiles.addPath (h : ListsFiles paths files) (p : String) :
    ListsFiles (paths ++ [p]) (addPath files p) := by
  rw [CrossReference.addPath]
  by_cases hany : files.any (Path.isSame · p) = true
  · rw [if_pos hany]
    exact h.append_known (List.any_eq_true.mp hany)
  · rw [if_neg hany]
    apply h.append_new
    intro f hf
    by_contra hsame
    exact hany (List.any_eq_true.mpr ⟨f, hf, by simpa using hsame⟩)

theorem listsFiles_foldl (paths : List String) :
    ListsFiles paths (paths.foldl CrossReference.addPath []) := by
  induction paths using List.reverseRecOn with
  | nil => exact listsFiles_nil
  | append_singleton paths p ih =>
    rw [List.foldl_append]
    exact ih.addPath p

theorem listsFiles_uniquePaths (hits : List Hit) :
    ListsFiles (hits.map Hit.path) (uniquePaths hits) := listsFiles_foldl _

end ListsFiles

/-! ### Counts -/

theorem map_path_countIn (counts : List FileCount) (p : String) :
    (countIn counts p).map FileCount.path = addPath (counts.map FileCount.path) p := by
  induction counts with
  | nil => rfl
  | cons c counts ih =>
    rw [countIn]
    by_cases hsame : Path.isSame c.path p = true
    · simp [addPath, hsame]
    · rw [if_neg hsame, List.map_cons, ih]
      simp only [addPath, List.map_cons, List.any_cons, Bool.eq_false_iff.mpr hsame, Bool.false_or]
      split <;> rfl

/-- A count is as before and of another file, or it is one more for its file, or the first one. -/
theorem of_mem_countIn {counts : List FileCount} {p : String} {c : FileCount}
    (honce : counts.Pairwise fun d e => Path.isSame d.path e.path = false)
    (hc : c ∈ countIn counts p) :
    (c ∈ counts ∧ Path.isSame c.path p = false) ∨
      (∃ d ∈ counts, Path.isSame d.path p = true ∧ c = { d with references := d.references + 1 }) ∨
      ((∀ d ∈ counts, Path.isSame d.path p = false) ∧ c = ⟨p, 1⟩) := by
  induction counts with
  | nil =>
    obtain rfl := List.mem_singleton.mp hc
    exact .inr (.inr ⟨by simp, rfl⟩)
  | cons d counts ih =>
    obtain ⟨hd, hcounts⟩ := List.pairwise_cons.mp honce
    rw [countIn] at hc
    by_cases hsame : Path.isSame d.path p = true
    · rw [if_pos hsame] at hc
      rcases List.mem_cons.mp hc with rfl | hc
      · exact .inr (.inl ⟨d, List.mem_cons_self, hsame, rfl⟩)
      · refine .inl ⟨List.mem_cons_of_mem d hc, ?_⟩
        by_contra hcp
        have hpc : Path.isSame p c.path = true := isSame_symm (by simpa using hcp)
        exact absurd (isSame_trans hsame hpc) (by simp [hd c hc])
    · rw [if_neg hsame] at hc
      rcases List.mem_cons.mp hc with rfl | hc
      · exact .inl ⟨List.mem_cons_self, Bool.eq_false_iff.mpr hsame⟩
      · rcases ih hcounts hc with ⟨hold, hne⟩ | ⟨e, he, hsame', rfl⟩ | ⟨hnone, rfl⟩
        · exact .inl ⟨List.mem_cons_of_mem d hold, hne⟩
        · exact .inr (.inl ⟨e, List.mem_cons_of_mem d he, hsame', rfl⟩)
        · exact .inr (.inr ⟨List.forall_mem_cons.mpr ⟨Bool.eq_false_iff.mpr hsame, hnone⟩, rfl⟩)

/-- Files with the number of paths that name each of them. -/
structure Counted (paths : List String) (counts : List FileCount) : Prop where
  files : ListsFiles paths (counts.map FileCount.path)
  references : ∀ c ∈ counts, c.references = paths.countP (Path.isSame c.path)

theorem Counted.countIn {paths : List String} {counts : List FileCount} (h : Counted paths counts)
    (p : String) : Counted (paths ++ [p]) (countIn counts p) := by
  have honce : counts.Pairwise fun d e => Path.isSame d.path e.path = false :=
    List.pairwise_map.mp h.files.once
  refine ⟨map_path_countIn counts p ▸ h.files.addPath p, fun c hc => ?_⟩
  rw [List.countP_append, List.countP_singleton]
  rcases of_mem_countIn honce hc with ⟨hold, hne⟩ | ⟨d, hd, hsame, rfl⟩ | ⟨hnone, rfl⟩
  · simp [hne, h.references c hold]
  · simp [hsame, h.references d hd]
  · -- no path before is of this file, for else it would be listed
    have hnew : ∀ f ∈ counts.map FileCount.path, Path.isSame f p = false := by
      intro f hf
      obtain ⟨d, hd, rfl⟩ := List.mem_map.mp hf
      exact hnone d hd
    have hzero : paths.countP (Path.isSame p) = 0 := by
      refine List.countP_eq_zero.mpr fun q hq hpq => ?_
      exact absurd hpq (by simp [h.files.isSame_eq_false hnew q hq])
    simp [hzero, isSame_refl]

theorem counted_foldl (paths : List String) :
    Counted paths (paths.foldl CrossReference.countIn []) := by
  induction paths using List.reverseRecOn with
  | nil => exact ⟨listsFiles_nil, by simp⟩
  | append_singleton paths p ih =>
    rw [List.foldl_append]
    exact ih.countIn p

theorem sum_references_countIn (counts : List FileCount) (p : String) :
    ((countIn counts p).map FileCount.references).sum =
      (counts.map FileCount.references).sum + 1 := by
  induction counts with
  | nil => rfl
  | cons c counts ih =>
    rw [countIn]
    split
    · simp only [List.map_cons, List.sum_cons]
      omega
    · simp only [List.map_cons, List.sum_cons, ih]
      omega

/-- **The counts add up to the number of hits.** -/
theorem sum_references_countByFile (hits : List Hit) :
    ((countByFile hits).map FileCount.references).sum = hits.length := by
  have hlength : (hits.map Hit.path).length = hits.length := List.length_map Hit.path
  rw [countByFile, ← hlength]
  induction hits.map Hit.path using List.reverseRecOn with
  | nil => rfl
  | append_singleton paths p ih =>
    rw [List.foldl_append, List.foldl_cons, List.foldl_nil, sum_references_countIn, ih,
      List.length_append, List.length_singleton]

end CrossReference

open CrossReference

/-- **No section loses a hit.**  For an identifier there is a report, whatever the searches answer.  Its
declarations are those found, with the first one that opens a class in front and the others in their
order.  Its implementations are the files of the hits found, each listed once, where it is first named,
with the number of hits in it; so the numbers add up to that of all hits.  Its tests are the files of
the hits found, each listed once, where it is first named. -/
theorem sections_keep_hits {symbol : String} (hsymbol : checkIdentifier .symbol symbol = .ok ())
    (search : SearchRequest → Except SourceError (List Hit)) (read : String → Except String String)
    (root : String) (s : SearchSettings) :
    let found : Lookup → List Hit := fun k => orEmpty (search (k.request s symbol))
    ∃ x, lookupCrossReference (m := Id) search read root s symbol = .ok x ∧
      (PrimaryFirst (found .declarations) x.declarations ∧
        x.declarations.Perm (found .declarations)) ∧
      (ListsFiles ((found .implementations).map Hit.path)
          (x.implementations.map FileCount.path) ∧
        (∀ c ∈ x.implementations, c.references =
          (found .implementations).countP fun h => Path.isSame c.path h.path) ∧
        (x.implementations.map FileCount.references).sum = (found .implementations).length) ∧
      ListsFiles ((found .tests).map Hit.path) x.tests := by
  intro found
  have hdeclarations := primaryFirst_spec (found .declarations)
  have hcounted : Counted ((found .implementations).map Hit.path)
      (countByFile (found .implementations)) := counted_foldl _
  refine ⟨_, lookupCrossReference_eq_reportOf read root search s hsymbol,
    ⟨hdeclarations, hdeclarations.perm⟩, ⟨hcounted.files, fun c hc => ?_, ?_⟩, ?_⟩
  · rw [hcounted.references c hc, List.countP_map]
    rfl
  · exact sum_references_countByFile _
  · exact listsFiles_uniquePaths _

/-- Declarations of which the second one opens a class, hits in two files by turns, one of which is
written in two ways, and a test that is found twice. -/
theorem sections_keep_hits_blob :
    let search : SearchRequest → Except SourceError (List Hit) := fun r =>
      if r.pattern = "class\\s+Blob\\b" then
        .ok [⟨"url.h", 4, "class Blob;"⟩, ⟨"blob.h", 9, "class Blob final: public Object"⟩,
          ⟨"form.h", 2, "class Blob : Form"⟩]
      else if r.pattern = "\\bBlob::" then
        .ok [⟨"api/blob.c++", 3, ""⟩, ⟨"form.c++", 7, ""⟩, ⟨"api//blob.c++", 8, ""⟩]
      else if r.pattern = "\\bBlob\\b" then
        .ok [⟨"form-test.js", 0, ""⟩, ⟨"blob-test.js", 0, ""⟩, ⟨"form-test.js", 0, ""⟩]
      else .error (.invalidPattern r.pattern)
    let found : Lookup → List Hit := fun k => orEmpty (search (k.request {} "Blob"))
    checkIdentifier .symbol "Blob" = .ok () ∧
    ∃ x, lookupCrossReference (m := Id) search (fun _ => .error "no file") "/" {} "Blob" = .ok x ∧
      PrimaryFirst (found .declarations) x.declarations ∧
      ListsFiles ["api/blob.c++", "form.c++", "api//blob.c++"]
        (x.implementations.map FileCount.path) ∧
      (x.implementations.map FileCount.references).sum = 3 ∧
      ListsFiles ["form-test.js", "blob-test.js", "form-test.js"] x.tests ∧
      x.declarations.map Hit.path = ["blob.h", "url.h", "form.h"] ∧
      x.implementations = [⟨"api/blob.c++", 2⟩, ⟨"form.c++", 1⟩] ∧
      x.tests = ["form-test.js", "blob-test.js"] := by
  intro search found
  have hsymbol : checkIdentifier .symbol "Blob" = .ok () := if_pos (by decide +kernel)
  obtain ⟨x, hx, ⟨hdeclarations, -⟩, ⟨hfiles, -, hsum⟩, htests⟩ :=
    sections_keep_hits hsymbol search (fun _ => .error "no file") "/" {}
  have hpaths : (found .implementations).map Hit.path =
      ["api/blob.c++", "form.c++", "api//blob.c++"] := by decide +kernel
  have hlength : (found .implementations).length = 3 := by decide +kernel
  have htestPaths : (found .tests).map Hit.path =
      ["form-test.js", "blob-test.js", "form-test.js"] := by decide +kernel
  have hvalue : (lookupCrossReference (m := Id) search (fun _ => .error "no file") "/" {}
      "Blob").toOption.map (fun x => (x.declarations.map Hit.path, x.implementations, x.tests)) =
      some (["blob.h", "url.h", "form.h"], [⟨"api/blob.c++", 2⟩, ⟨"form.c++", 1⟩],
        ["form-test.js", "blob-test.js"]) := by decide +kernel
  rw [hx] at hvalue
  obtain ⟨hlisted, hrest⟩ := Prod.mk.inj (Option.some.inj hvalue)
  obtain ⟨hcounts, hnames⟩ := Prod.mk.inj hrest
  exact ⟨hsymbol, x, hx, hdeclarations, hpaths ▸ hfiles, hsum.trans hlength, htestPaths ▸ htests,
    hlisted, hcounts, hnames⟩

end DeclAtlas
