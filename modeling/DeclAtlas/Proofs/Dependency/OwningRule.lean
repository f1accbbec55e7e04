import DeclAtlas.Dependency.Report
import DeclAtlas.Proofs.Nesting.Calls
import DeclAtlas.Proofs.Sources.Recorded
import DeclAtlas.Proofs.Text.Parts
import Mathlib.Data.List.TakeWhile

/-!
# The rule of a source file

A plain name is taken for a source file, `<dir>/<stem>.<extension>`, and the rules below its
directory are asked for.  Among them is the rule of the directory that is named after the file, if
there is one; but the answer also names the rules of the directories below.  The label that is
picked is the first one with the name of the file, whatever its directory.  So the file maps to its
own rule in every order of the answer exactly if no other label has that name
(`resolveTarget_eq_rule_iff`); where a directory below has a rule of the same name, the order decides
(`resolveTarget_picks_nested_rule`).
-/

namespace DeclAtlas

open Text

/-! ### Source files -/

/-- A source file with an extension, in a directory that is written without an idle end. -/
structure SourcePath where
  dir : String
  stem : String
  extension : String
  /-- The directory ends in a name, neither in a slash nor in a single dot. -/
  dir_counts : ∀ p ∈ (pieces '/' dir.toList).getLast?, Path.isIdle p = false
  stem_ne_nil : stem.toList ≠ []
  stem_plain : '/' ∉ stem.toList
  extension_ne_nil : extension.toList ≠ []
  extension_plain : '/' ∉ extension.toList ∧ '.' ∉ extension.toList

namespace SourcePath

variable (p : SourcePath)

/-- The path as written. -/
def text : String := p.dir ++ "/" ++ p.stem ++ "." ++ p.extension

/-- The rule of the file's directory that is named after the file. -/
def rule : String := "//" ++ p.dir ++ ":" ++ p.stem

/-- The query for the rules below the file's directory. -/
def query : String := "kind(\"rule\", //" ++ p.dir ++ "/...)"

/-- Whether a label names a rule after the file, in whatever directory. -/
def Names (l : String) : Prop := endsWith (':' :: p.stem.toList) l.toList = true

instance (l : String) : Decidable (p.Names l) := inferInstanceAs (Decidable (_ = true))

/-- The last piece of the path. -/
def base : List Char := p.stem.toList ++ '.' :: p.extension.toList

theorem names_rule : p.Names p.rule := by
  have hrule : p.rule.toList.reverse =
      (':' :: p.stem.toList).reverse ++ ("//" ++ p.dir).toList.reverse := by
    simp [rule]
  rw [Names, endsWith, dropEnd?, Option.isSome_map, hrule]
  exact startsWith_append _ _

/-! ### The parts of a path -/

theorem toList_text : p.text.toList = p.dir.toList ++ '/' :: p.base := by
  simp [text, base]

theorem slash_notMem_base : '/' ∉ p.base := by
  rw [base, List.mem_append, List.mem_cons, not_or, not_or]
  exact ⟨p.stem_plain, by decide, p.extension_plain.1⟩

theorem pieces_text : pieces '/' p.text.toList = pieces '/' p.dir.toList ++ [p.base] := by
  rw [toList_text, pieces_append_cons, pieces_of_notMem p.slash_notMem_base]

/-- The last piece of the path is none of those that are no entries. -/
theorem base_ne : p.base ≠ [] ∧ p.base ≠ ['.'] ∧ p.base ≠ ['.', '.'] := by
  have hlength : 3 ≤ p.base.length := by
    have hstem := List.length_pos_iff.mpr p.stem_ne_nil
    have hextension := List.length_pos_iff.mpr p.extension_ne_nil
    rw [base, List.length_append, List.length_cons]
    omega
  refine ⟨?_, ?_, ?_⟩ <;> exact fun h => absurd hlength (by rw [h]; decide)

theorem isIdle_base : Path.isIdle p.base = false := by
  rw [Path.isIdle, Bool.or_eq_false_iff]
  exact ⟨beq_eq_false_iff_ne.mpr p.base_ne.1, beq_eq_false_iff_ne.mpr p.base_ne.2.1⟩

theorem dropLast?_pieces : Path.dropLast? (pieces '/' p.text.toList) =
    some (pieces '/' p.dir.toList) := by
  have hdir : (pieces '/' p.dir.toList).reverse.dropWhile Path.isIdle =
      (pieces '/' p.dir.toList).reverse := by
    refine List.dropWhile_eq_self_iff.mpr fun hlength => ?_
    rw [p.dir_counts]
    · exact Bool.false_ne_true
    · rw [← List.head?_reverse]
      exact List.head?_eq_getElem? ▸ List.getElem?_eq_getElem hlength
  rw [Path.dropLast?, pieces_text, List.reverse_concat,
    List.dropWhile_cons_of_neg (by rw [isIdle_base]; exact Bool.false_ne_true)]
  dsimp only
  rw [hdir, List.reverse_reverse]

/-- The directory of the file, where the path begins with a name. -/
theorem sourceDirectory_text {c : Char} {r : List Char} (h : p.text.toList = c :: r)
    (hslash : c ≠ '/') (hdot : c ≠ '.') : sourceDirectory p.text = p.dir := by
  have hroot : startsWith ['/'] p.text.toList = false := by
    rw [h]
    simp [startsWith, dropLead?, hslash.symm]
  have hhere : startsWith ['.', '/'] p.text.toList = false := by
    rw [h]
    simp [startsWith, dropLead?, hdot.symm]
  simp only [sourceDirectory, Path.parent?, hroot, hhere, Bool.false_eq_true, if_false,
    dropLast?_pieces, Option.map_some, Option.getD_some, List.nil_append, joinWith_pieces]
  exact String.ofList_toList

theorem fileName?_text : Path.fileName? p.text = some (String.ofList p.base) := by
  have hentry : Path.componentOf? p.base = some (.entry (String.ofList p.base)) := by
    rw [Path.componentOf?, if_neg (not_or.mpr ⟨p.base_ne.1, p.base_ne.2.1⟩), if_neg p.base_ne.2.2]
  have hlast : (Path.components p.text).getLast? = some (.entry (String.ofList p.base)) := by
    rw [Path.components, pieces_text]
    simp [hentry]
  rw [Path.fileName?, hlast]

theorem fileStem?_text : Path.fileStem? p.text = some p.stem := by
  have hcut : cutLast? '.' p.base = some (p.stem.toList, p.extension.toList) :=
    Nesting.cutLast?_append p.extension_plain.2
  have hstem : ¬ p.stem.toList.isEmpty = true := mt List.isEmpty_iff.mp p.stem_ne_nil
  rw [Path.fileStem?, fileName?_text, Option.map_some, String.toList_ofList, hcut]
  dsimp only
  rw [if_neg hstem, String.ofList_toList]

/-! ### The rule that is picked -/

variable {p}

/-- The first label with the name of the file is picked. -/
theorem ruleFor?_text {before after : List String} {l : String} (hl : p.Names l)
    (hbefore : ∀ b ∈ before, ¬ p.Names b) : ruleFor? p.text (before ++ l :: after) = some l := by
  have hfind : (before ++ l :: after).find?
      (fun l => endsWith (':' :: p.stem.toList) l.toList) = some l := by
    rw [List.find?_append, List.find?_eq_none.mpr hbefore, Option.none_or]
    exact List.find?_cons_of_pos hl
  rw [ruleFor?, fileStem?_text, Option.getD_some, hfind, Option.some_or]

/-- A list that has a label with the name of the file comes apart at the first one. -/
theorem exists_first {answer : List String} (h : p.rule ∈ answer) :
    ∃ before l after, answer = before ++ l :: after ∧ p.Names l ∧ ∀ b ∈ before, ¬ p.Names b := by
  have hsome : (answer.find? fun l => decide (p.Names l)).isSome = true :=
    List.find?_isSome.mpr ⟨p.rule, h, decide_eq_true p.names_rule⟩
  obtain ⟨l, hl⟩ := Option.isSome_iff_exists.mp hsome
  obtain ⟨hname, before, after, heq, hbefore⟩ := List.find?_eq_some_iff_append.mp hl
  exact ⟨before, l, after, heq, of_decide_eq_true hname, fun b hb => by simpa using hbefore b hb⟩

end SourcePath

section Target

variable {g : AnsweringGraph} {t : ResolverSettings} {target : String} {p : SourcePath}

theorem exists_toList_sourceFile (name : String) :
    ∃ r, (sourceFile name).toList = "src/".toList ++ r := by
  by_cases h : startsWith "src/".toList name.toList = true
  · obtain ⟨r, hr⟩ := Option.isSome_iff_exists.mp h
    exact ⟨r, by rw [sourceFile, if_pos h, dropLead?_eq_some.mp hr]⟩
  · exact ⟨name.toList, by rw [sourceFile, if_neg h, String.toList_append]⟩

/-- What is asked and picked for a plain name. -/
theorem run_resolveTarget_of_file (g : AnsweringGraph)
    (hplain : (Reference.parse t target).ecosystem = none)
    (hcan : (Reference.parse t target).isCanonical = false)
    (hfile : sourceFile (Reference.parse t target).name = p.text) :
    (resolveTarget g.recorded t target).run [] =
      (.ok ((ruleFor? p.text (orEmpty (g [] p.query))).getD (defaultLabel p.dir)), [p.query]) := by
  obtain ⟨r, hr⟩ := exists_toList_sourceFile (Reference.parse t target).name
  rw [hfile] at hr
  have hdir : sourceDirectory p.text = p.dir :=
    p.sourceDirectory_text (c := 's') hr (by decide) (by decide)
  have hname : ¬ (Reference.parse t target).name.isEmpty = true := by
    intro hempty
    -- the path would be `src/`, whose last piece is empty
    rw [String.isEmpty_iff.mp hempty] at hfile
    have hpieces : pieces '/' (sourceFile "").toList = [['s', 'r', 'c']] ++ [[]] := by decide
    rw [hfile, p.pieces_text] at hpieces
    exact p.base_ne.1 (List.cons.inj (List.append_inj' hpieces rfl).2).1
  simp only [resolveTarget, if_neg hname, hcan, Bool.false_eq_true, if_false, hplain, hfile, hdir]
  rw [run_askGraph_bind]
  rfl

/-- **A file maps to the first rule of its name.**  The rules below the directory of the file are asked
for, and if the file's own rule is among them, the first label of that name is picked.  So the own rule
is picked in whatever order the answer lists its labels exactly if no other label has that name. -/
theorem resolveTarget_eq_rule_iff (t : ResolverSettings) (target : String) (p : SourcePath)
    (hplain : (Reference.parse t target).ecosystem = none)
    (hcan : (Reference.parse t target).isCanonical = false)
    (hfile : sourceFile (Reference.parse t target).name = p.text) :
    (∀ g : AnsweringGraph, p.rule ∈ orEmpty (g [] p.query) → ∃ before l after,
      orEmpty (g [] p.query) = before ++ l :: after ∧ p.Names l ∧ (∀ b ∈ before, ¬ p.Names b) ∧
      (resolveTarget g.recorded t target).run [] = (.ok l, [p.query])) ∧
    ∀ answer, p.rule ∈ answer →
      ((∀ g : AnsweringGraph, (orEmpty (g [] p.query)).Perm answer →
        (resolveTarget g.recorded t target).run [] = (.ok p.rule, [p.query])) ↔
      ∀ l ∈ answer, p.Names l → l = p.rule) := by
  have hrun : ∀ {g : AnsweringGraph} {before after : List String} {l : String},
      orEmpty (g [] p.query) = before ++ l :: after → p.Names l → (∀ b ∈ before, ¬ p.Names b) →
      (resolveTarget g.recorded t target).run [] = (.ok l, [p.query]) := by
    intro g before after l heq hl hbefore
    rw [run_resolveTarget_of_file g hplain hcan hfile, heq, SourcePath.ruleFor?_text hl hbefore]
    rfl
  refine ⟨fun g hrule => ?_, fun answer hrule => ⟨fun h l hl hname => ?_, fun honly g hperm => ?_⟩⟩
  · obtain ⟨before, l, after, heq, hl, hbefore⟩ := SourcePath.exists_first hrule
    exact ⟨before, l, after, heq, hl, hbefore, hrun heq hl hbefore⟩
  · -- the order that lists the label first
    let g : AnsweringGraph := fun _ _ => .ok (l :: answer.erase l)
    have hfirst : (resolveTarget g.recorded t target).run [] = (.ok l, [p.query]) :=
      hrun (List.nil_append (l :: answer.erase l)).symm hname fun _ hb => absurd hb List.not_mem_nil
    rw [h g (List.perm_cons_erase hl).symm] at hfirst
    exact (Except.ok.inj (Prod.mk.inj hfirst).1).symm
  · obtain ⟨before, l, after, heq, hl, hbefore⟩ := SourcePath.exists_first (hperm.mem_iff.mpr hrule)
    have hmem : l ∈ orEmpty (g [] p.query) := by
      rw [heq]
      exact List.mem_append_right before List.mem_cons_self
    obtain rfl := honly l (hperm.mem_iff.mp hmem) hl
    exact hrun heq hl hbefore

end Target

/-! ### One file -/

/-- The path of a source file two directories down. -/
def httpSource : SourcePath where
  dir := "src/workerd/api"
  stem := "http"
  extension := "c++"
  dir_counts := by decide
  stem_ne_nil := by decide
  stem_plain := by decide
  extension_ne_nil := by decide
  extension_plain := by decide

/-- Rules of other names do not matter, in the directory and below it. -/
theorem resolveTarget_eq_rule_http :
    let target := " workerd/api/http.c++"
    let answer := ["//src/workerd/api/node:util", "//src/workerd/api:http-test",
      "//src/workerd/api:http", "//src/workerd/api/node:xhttp"]
    let g : AnsweringGraph := fun _ query =>
      if query = "kind(\"rule\", //src/workerd/api/...)" then .ok answer else .ok []
    (Reference.parse {} target).ecosystem = none ∧
    (Reference.parse {} target).isCanonical = false ∧
    sourceFile (Reference.parse {} target).name = httpSource.text ∧
    httpSource.rule ∈ answer ∧ (∀ l ∈ answer, httpSource.Names l → l = httpSource.rule) ∧
    (resolveTarget g.recorded {} target).run [] = (.ok httpSource.rule, [httpSource.query]) := by
  intro target answer g
  have hplain : (Reference.parse {} target).ecosystem = none := by decide +kernel
  have hcan : (Reference.parse {} target).isCanonical = false := by decide +kernel
  have hfile : sourceFile (Reference.parse {} target).name = httpSource.text := by decide +kernel
  have hrule : httpSource.rule ∈ answer := by decide +kernel
  have honly : ∀ l ∈ answer, httpSource.Names l → l = httpSource.rule := by decide +kernel
  have hanswer : orEmpty (g [] httpSource.query) = answer := by decide +kernel
  have horders := ((resolveTarget_eq_rule_iff {} target httpSource hplain hcan hfile).2 answer
    hrule).mpr honly
  exact ⟨hplain, hcan, hfile, hrule, honly, horders g (hanswer ▸ List.Perm.refl _)⟩

/-- **A rule of the same name in a directory below is picked** if the answer lists it first. -/
theorem resolveTarget_picks_nested_rule :
    let target := "workerd/api/http.c++"
    let answer := ["//src/workerd/api/node:http", "//src/workerd/api:http"]
    let g : AnsweringGraph := fun _ _ => .ok answer
    (Reference.parse {} target).ecosystem = none ∧
    (Reference.parse {} target).isCanonical = false ∧
    sourceFile (Reference.parse {} target).name = httpSource.text ∧
    httpSource.rule ∈ orEmpty (g [] httpSource.query) ∧
    (resolveTarget g.recorded {} target).run [] =
      (.ok "//src/workerd/api/node:http", [httpSource.query]) := by
  intro target answer g
  have hplain : (Reference.parse {} target).ecosystem = none := by decide +kernel
  have hcan : (Reference.parse {} target).isCanonical = false := by decide +kernel
  have hfile : sourceFile (Reference.parse {} target).name = httpSource.text := by decide +kernel
  have hfirst : ruleFor? httpSource.text answer = some "//src/workerd/api/node:http" := by
    decide +kernel
  have hanswer : orEmpty (g [] httpSource.query) = answer := rfl
  refine ⟨hplain, hcan, hfile, by decide +kernel, ?_⟩
  rw [run_resolveTarget_of_file g hplain hcan hfile, hanswer, hfirst]
  rfl

end DeclAtlas
