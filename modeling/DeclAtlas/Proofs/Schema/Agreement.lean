import DeclAtlas.Proofs.Schema.Conservation
import DeclAtlas.Proofs.Text.Parts
import DeclAtlas.Schema.Ordinal
import Mathlib.Data.List.Nodup

/-!
# A summary and the reports of its records

A schema can be asked for a summary of all its records or for the report of one, named as the
summary names it.  Three things have to agree for the two to say the same of a record.

* The name is accepted: qualified names of records that were read are words joined by dots
  (`exists_path_of_mem_parse`), and those are the names a query may give
  (`checkRecordName_dotted`).
* The name leads back to the record, as long as no two records share it (`find?_of_mem`).
* The summary takes the maximum of the ordinals, the report the last field once they are sorted
  (`ordinal_getLast?_sortFields`).
-/

namespace DeclAtlas.Schema

open Text

/-! ### Names of records are accepted -/

/-- Words joined by dots are a record name. -/
theorem checkRecordName_dotted {path : List String} (hne : path ≠ [])
    (h : ∀ n ∈ path, IsWordName n) : checkRecordName (dotted path) = .ok () := by
  have hpieces := splitOn_dotted (fun n hn => (h n hn).dotless) hne
  rw [← pieces_eq_splitOn] at hpieces
  have hname : isRecordName (dotted path).toList = true := by
    rw [isRecordName, hpieces, List.all_map, List.all_eq_true]
    intro n hn
    obtain ⟨hnil, hword⟩ := h n hn
    simpa [hnil] using hword
  rw [checkRecordName, if_pos hname]

namespace Reading

/-- The open records are named by words. -/
def WordNamed (r : Reading) : Prop := ∀ o ∈ r.stack, IsWordName o.name

theorem WordNamed.feed {r : Reading} (h : r.WordNamed) (l : Line) : (r.feed l).WordNamed := by
  have hopened : ∀ o ∈ (r.opened l).stack, IsWordName o.name := by
    unfold opened
    cases hl : openedRecord? l with
    | none => exact h
    | some n =>
      intro o ho
      rcases List.mem_cons.mp ho with rfl | ho
      · exact isWordName_of_openedRecord? hl
      · exact h o ho
  intro o ho
  rw [feed_eq, closeFinished_stack] at ho
  exact hopened o ((List.dropWhile_suffix _).mem ho)

end Reading

/-- The records that the lines of a text open, each with the names of the records open there. -/
def openings (text : String) : List (List String × String) :=
  (Reading.trace Reading.start (linesOf text)).filterMap fun p =>
    (openedRecord? p.2).map fun n => (p.1.names, n)

theorem isWordName_of_mem_openings {text : String} {o : List String × String}
    (ho : o ∈ openings text) : ∀ n ∈ o.1 ++ [o.2], IsWordName n := by
  obtain ⟨p, hp, hopens⟩ := List.mem_filterMap.mp ho
  obtain ⟨n, hn, rfl⟩ := Option.map_eq_some_iff.mp hopens
  have hstack : p.1.WordNamed :=
    Reading.kept_of_mem_trace (fun _ l h => h.feed l) (fun _ h => absurd h List.not_mem_nil) hp
  intro m hm
  rcases List.mem_append.mp hm with hm | hm
  · obtain ⟨o, ho, rfl⟩ := List.mem_map.mp hm
    exact hstack o (List.mem_reverse.mp ho)
  · exact List.mem_singleton.mp hm ▸ isWordName_of_openedRecord? hn

/-- **Every record comes from the line that opens it**, and keeps its name and path. -/
theorem perm_openings (text : String) :
    ((parse text).map fun r => (r.name, r.qualifiedName)).Perm
      ((openings text).map fun o => (o.2, dotted (o.1 ++ [o.2]))) := by
  refine (Reading.perm_kept_foldl (f := fun r => (r.name, r.qualifiedName)) (fun _ _ => rfl)
    (fun _ _ => rfl) Reading.start (linesOf text)).trans (.of_eq ?_)
  simp [openings, List.map_filterMap, Reading.newRecord?, Reading.records, Reading.start,
    Record.empty, Function.comp_def]

theorem exists_mem_openings {text : String} {r : Record} (hr : r ∈ parse text) :
    ∃ path, (path, r.name) ∈ openings text ∧ r.qualifiedName = dotted (path ++ [r.name]) := by
  have hmem := (perm_openings text).mem_iff.mp (List.mem_map_of_mem hr)
  obtain ⟨⟨path, n⟩, ho, heq⟩ := List.mem_map.mp hmem
  obtain ⟨rfl, hname⟩ := Prod.mk.inj heq
  exact ⟨path, ho, hname.symm⟩

/-- **Every record that was read has a path of words as its qualified name.** -/
theorem exists_path_of_mem_parse {text : String} {r : Record} (hr : r ∈ parse text) :
    ∃ path, path ≠ [] ∧ (∀ n ∈ path, IsWordName n) ∧ r.qualifiedName = dotted path := by
  obtain ⟨path, ho, hname⟩ := exists_mem_openings hr
  exact ⟨path ++ [r.name], by simp, isWordName_of_mem_openings ho, hname⟩

/-! ### Names lead back to their records -/

/-- A path that some record has is not taken for the own name of one. -/
theorem exists_find?_path {records : List Record} {name : String}
    (h : ∃ q ∈ records, q.qualifiedName = name) :
    ∃ r, find? records name = some r ∧ records.find? (·.qualifiedName == name) = some r := by
  obtain ⟨q, hq, hname⟩ := h
  have hsome : (records.find? (·.qualifiedName == name)).isSome = true :=
    List.find?_isSome.mpr ⟨q, hq, beq_iff_eq.mpr hname⟩
  obtain ⟨r, hr⟩ := Option.isSome_iff_exists.mp hsome
  exact ⟨r, by rw [find?, hr, Option.some_or], hr⟩

theorem find?_of_mem {records : List Record} (hdistinct : (records.map Record.qualifiedName).Nodup)
    {r : Record} (hr : r ∈ records) : find? records r.qualifiedName = some r := by
  obtain ⟨q, hq, hfirst⟩ := exists_find?_path ⟨r, hr, rfl⟩
  have hname : q.qualifiedName = r.qualifiedName := by simpa using List.find?_some hfirst
  rw [hq, List.inj_on_of_nodup_map hdistinct (List.mem_of_find?_eq_some hfirst) hr hname]

/-! ### The highest ordinal -/

theorem ordinal_le_trans (f g h : Field) (hfg : decide (f.ordinal ≤ g.ordinal) = true)
    (hgh : decide (g.ordinal ≤ h.ordinal) = true) : decide (f.ordinal ≤ h.ordinal) = true :=
  decide_eq_true (Nat.le_trans (of_decide_eq_true hfg) (of_decide_eq_true hgh))

theorem ordinal_le_total (f g : Field) :
    (decide (f.ordinal ≤ g.ordinal) || decide (g.ordinal ≤ f.ordinal)) = true := by
  simpa using Nat.le_total f.ordinal g.ordinal

theorem sortFields_pairwise (fs : List Field) :
    (sortFields fs).Pairwise fun f g => f.ordinal ≤ g.ordinal :=
  (List.pairwise_mergeSort ordinal_le_trans ordinal_le_total fs).imp of_decide_eq_true

/-- **The last of the sorted fields has the largest ordinal.** -/
theorem ordinal_getLast?_sortFields (r : Record) :
    (sortFields r.fields).getLast?.map Field.ordinal = r.maxOrdinal? := by
  have hperm : (sortFields r.fields).Perm r.fields := List.mergeSort_perm _ _
  cases hlast : (sortFields r.fields).getLast? with
  | none =>
    rw [List.getLast?_eq_none_iff.mp hlast] at hperm
    rw [Record.maxOrdinal?, Record.ordinals, ← hperm.nil_eq]
    rfl
  | some f =>
    obtain ⟨before, hbefore⟩ := List.getLast?_eq_some_iff.mp hlast
    have hle := (List.pairwise_append.mp (hbefore ▸ sortFields_pairwise r.fields)).2.2
    have hmem : ∀ g, g ∈ before ∨ g = f ↔ g ∈ r.fields := by
      intro g
      rw [← hperm.mem_iff, hbefore, List.mem_append, List.mem_singleton]
    refine (List.max?_eq_some_iff.mpr ⟨List.mem_map_of_mem ((hmem f).mp (.inr rfl)), ?_⟩).symm
    intro n hn
    obtain ⟨g, hg, rfl⟩ := List.mem_map.mp hn
    rcases (hmem g).mpr hg with hg | rfl
    · exact hle g hg f (List.mem_singleton.mpr rfl)
    · exact Nat.le_refl _

theorem ordinal_highest_report (r : Record) (schemaFile : String) :
    (r.report schemaFile).highest.map Highest.ordinal = r.maxOrdinal? := by
  rw [Record.report, Option.map_map]
  exact ordinal_getLast?_sortFields r

/-! ### Both questions -/

section Questions

variable {σ : Type} {compile : Compiler (StateM σ)} {file text : String} {s t : σ}

theorem run_lookupOrdinal (record : Option String) (hrecord : checkRecord record = .ok ())
    (hcompile : (compile file).run s = (.ok text, t)) :
    (lookupOrdinal compile file record).run s =
      (outcome (schemaName file) (parse text) record, t) := by
  rw [lookupOrdinal, hrecord, StateT.run_bind, hcompile]
  rfl

/-- **The summary and the reports of the records agree.**  Whatever the compiler does on the way, as
long as it gives the same text both times: the summary lists every record of the text, and for each
line of it the report of the record of that name is given, with the same number of fields, the same
next ordinal and the same highest ordinal. -/
theorem summary_agrees_with_reports (compile : Compiler (StateM σ)) (file text : String)
    (s₁ t₁ s₂ t₂ : σ) (hfirst : (compile file).run s₁ = (.ok text, t₁))
    (hsecond : (compile file).run s₂ = (.ok text, t₂))
    (hdistinct : ((parse text).map Record.qualifiedName).Nodup) :
    ∃ summaries, (lookupOrdinal compile file none).run s₁ =
        (.ok (.summary (schemaName file) summaries), t₁) ∧
      summaries.length = (parse text).length ∧
      ∀ line ∈ summaries, checkRecordName line.qualifiedName = .ok () ∧
        ∃ report, (lookupOrdinal compile file (some line.qualifiedName)).run s₂ =
            (.ok (.record report), t₂) ∧
          report.qualifiedName = line.qualifiedName ∧
          report.totalFields = line.totalFields ∧
          report.nextOrdinal = line.nextOrdinal ∧
          report.highest.map Highest.ordinal = line.highest := by
  refine ⟨(parse text).map Record.summary, run_lookupOrdinal none rfl hfirst, List.length_map _, ?_⟩
  intro line hline
  obtain ⟨r, hr, rfl⟩ := List.mem_map.mp hline
  obtain ⟨path, hne, hwords, hname⟩ := exists_path_of_mem_parse hr
  have hcheck : checkRecordName r.summary.qualifiedName = .ok () :=
    (congrArg checkRecordName hname).trans (checkRecordName_dotted hne hwords)
  refine ⟨hcheck, r.report (schemaName file), ?_, rfl, rfl, rfl, ordinal_highest_report r _⟩
  rw [run_lookupOrdinal (some r.summary.qualifiedName) hcheck hsecond, outcome]
  simp only [Record.summary, find?_of_mem hdistinct hr]

/-- A record inside another one, its fields out of order, and a compiler that counts its runs. -/
theorem summary_agrees_on_module :
    let text := "struct Worker @0xa \x7b\n  modules @3 :List(Module);\n" ++
      "  struct Module @0xb \x7b\n    name @1 :Text;\n    type @0 :Text;\n  \x7d\n\x7d\n"
    let compile : Compiler (StateM Nat) := fun _ n => (.ok text, n + 1)
    ((parse text).map Record.qualifiedName).Nodup ∧
      ∃ report, (lookupOrdinal compile "server/workerd.capnp" (some "Worker.Module")).run 7 =
          (.ok (.record report), 8) ∧
        report.totalFields = 2 ∧ report.highest.map Highest.ordinal = some 1 := by
  intro text compile
  have hdistinct : ((parse text).map Record.qualifiedName).Nodup := by decide +kernel
  obtain ⟨summaries, hsummary, -, hlines⟩ := summary_agrees_with_reports compile
    "server/workerd.capnp" text 0 1 7 8 rfl rfl hdistinct
  have hlisted : (parse text).map Record.summary =
      [⟨"Worker.Module", 2, some 1, 2⟩, ⟨"Worker", 1, some 3, 4⟩] := by
    decide +kernel
  have hrun : (compile "server/workerd.capnp").run 0 = (.ok text, 1) := rfl
  rw [run_lookupOrdinal none rfl hrun, outcome, hlisted] at hsummary
  obtain ⟨-, rfl⟩ := Outcome.summary.inj (Except.ok.inj (Prod.mk.inj hsummary).1)
  obtain ⟨-, report, hrun, -, htotal, -, hhighest⟩ :=
    hlines ⟨"Worker.Module", 2, some 1, 2⟩ List.mem_cons_self
  exact ⟨hdistinct, report, hrun, htotal, hhighest⟩

end Questions

end DeclAtlas.Schema
