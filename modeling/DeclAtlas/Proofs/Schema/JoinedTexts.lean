import DeclAtlas.Proofs.Schema.Conservation
import DeclAtlas.Proofs.Text.Parts

/-!
# Texts one after another

Once the depth of braces is back at zero no record is open, and all that is left of a text is its
records, set aside.  They stay where they are while the next text is read, unless a record that is
closed there looks for its parent under the name of one of them.

* `returnTo_append`, `closeFinished_append`, `feed_behind`: records set aside before take no part in
  a step, if none of them has the qualified name of an open record (`Apart`).
* `Parked.exists_record`: an open record is always there under its qualified name, and no line takes
  a name away (`mem_names_foldl`).  So records that are apart from what a text declares in the end
  are apart all the time, whatever the text (`foldl_feed_behind`).
* `readLines_of_braceDepth`: a text that ends at depth zero leaves its records and nothing else.
-/

namespace DeclAtlas.Schema

open Text

namespace Reading

variable {stack : List Opening} {aside front : List Record} {current : Option Record}

/-! ### Records set aside before -/

/-- The reading with records set aside before all others. -/
def behind (front : List Record) (r : Reading) : Reading := { r with aside := front ++ r.aside }

/-- No record has the qualified name of an open one. -/
def Apart (front : List Record) (stack : List Opening) : Prop :=
  ∀ s, s ≠ [] → s <:+ stack → ∀ x ∈ front, x.qualifiedName ≠ qualifiedNameOf s

theorem takeOut?_append_of_ne {name : String} (h : ∀ x ∈ front, x.qualifiedName ≠ name)
    (rs : List Record) :
    takeOut? name (front ++ rs) = (takeOut? name rs).map fun t => (t.1, front ++ t.2) := by
  induction front with
  | nil => exact Option.map_id'.symm
  | cons x front ih =>
    rw [List.cons_append, takeOut?, if_neg (h x List.mem_cons_self),
      ih fun y hy => h y (List.mem_cons_of_mem x hy), Option.map_map]
    rfl

theorem returnTo_append (h : stack ≠ [] → ∀ x ∈ front, x.qualifiedName ≠ qualifiedNameOf stack) :
    returnTo stack (front ++ aside) current =
      (front ++ (returnTo stack aside current).1, (returnTo stack aside current).2) := by
  by_cases hs : stack = []
  · subst hs
    rw [returnTo_nil, returnTo_nil, List.append_assoc]
  · have htake := takeOut?_append_of_ne (h hs) (aside ++ current.toList)
    rw [← List.append_assoc] at htake
    cases ht : takeOut? (qualifiedNameOf stack) (aside ++ current.toList) with
    | none =>
      rw [ht, Option.map_none] at htake
      rw [returnTo_of_takeOut?_eq_none hs ht, returnTo_of_takeOut?_eq_none hs htake,
        List.append_assoc]
    | some t =>
      rw [ht, Option.map_some] at htake
      rw [returnTo_of_takeOut? hs ht, returnTo_of_takeOut? hs htake]

theorem closeFinished_append (depth : Nat) : ∀ {stack : List Opening} {aside : List Record}
    {current : Option Record}, Apart front stack →
    closeFinished depth stack (front ++ aside) current =
      (closeFinished depth stack aside current).behind front := by
  intro stack
  induction stack with
  | nil => intro _ _ _; rfl
  | cons o stack ih =>
    intro aside current h
    have hrest : Apart front stack := fun s hne hs => h s hne (hs.trans (List.suffix_cons o stack))
    by_cases ho : o.depth < depth
    · rw [closeFinished_cons_of_lt ho, closeFinished_cons_of_lt ho]
      rfl
    · rw [closeFinished_cons_of_le (Nat.not_lt.mp ho), closeFinished_cons_of_le (Nat.not_lt.mp ho),
        returnTo_append fun hne => h stack hne (List.suffix_cons o stack), ih hrest]

theorem opened_behind (front : List Record) (r : Reading) (l : Line) :
    (r.behind front).opened l = (r.opened l).behind front := by
  unfold opened
  cases openedRecord? l with
  | none => rfl
  | some name => simp [openRecord, behind, List.append_assoc]

/-- **One line is read alike behind records that are apart from the open ones.** -/
theorem feed_behind {r : Reading} {l : Line} (h : Apart front (r.opened l).stack) :
    (r.behind front).feed l = (r.feed l).behind front := by
  rw [feed_eq, feed_eq, opened_behind]
  exact closeFinished_append _ h

/-! ### Names stay -/

/-- Every open record is there, in hand or set aside. -/
theorem Parked.exists_record (h : Parked stack aside current) {s : List Opening} (hne : s ≠ [])
    (hs : s <:+ stack) : ∃ q ∈ aside ++ current.toList, q.qualifiedName = qualifiedNameOf s := by
  by_cases he : s = stack
  · subst he
    have hcurrent := h.current_eq
    rw [if_neg hne] at hcurrent
    obtain ⟨q, hq, hname⟩ := Option.map_eq_some_iff.mp hcurrent
    exact ⟨q, List.mem_append_right _ (Option.mem_toList.mpr hq), hname⟩
  · obtain ⟨q, hq, hname⟩ := h.ancestor s hne hs he
    exact ⟨q, List.mem_append_left _ hq, hname⟩

/-- The qualified names of the records read so far. -/
def qualifiedNames (r : Reading) : List String := r.records.map Record.qualifiedName

theorem mem_names_foldl {r : Reading} {name : String} (h : name ∈ r.qualifiedNames)
    (ls : List Line) : name ∈ (ls.foldl feed r).qualifiedNames := by
  have hperm := perm_kept_foldl (f := Record.qualifiedName) (fun _ _ => rfl) (fun _ _ => rfl) r ls
  exact hperm.mem_iff.mpr (List.mem_append_left _ h)

theorem HoldsTogether.mem_names_feed {r : Reading} (h : r.HoldsTogether) (l : Line)
    {s : List Opening} (hne : s ≠ []) (hs : s <:+ (r.opened l).stack) :
    qualifiedNameOf s ∈ (r.feed l).qualifiedNames := by
  obtain ⟨q, hq, hname⟩ := ((h.opened l).1.declareIn l).exists_record hne hs
  have hperm := perm_feed (f := Record.qualifiedName) (fun _ _ => rfl) r l
  exact hperm.mem_iff.mpr (List.mem_map.mpr ⟨q, hq, hname⟩)

/-- **A text is read alike behind records whose names it does not declare.** -/
theorem foldl_feed_behind {r : Reading} (h : r.HoldsTogether) {ls : List Line}
    (hnames : ∀ x ∈ front, x.qualifiedName ∉ (ls.foldl feed r).qualifiedNames) :
    ls.foldl feed (r.behind front) = (ls.foldl feed r).behind front := by
  induction ls generalizing r with
  | nil => rfl
  | cons l ls ih =>
    have hapart : Apart front (r.opened l).stack := by
      intro s hne hs x hx hname
      have hmem := mem_names_foldl (h.mem_names_feed l hne hs) ls
      exact hnames x hx (hname ▸ hmem)
    rw [List.foldl_cons, List.foldl_cons, feed_behind hapart]
    exact ih (h.feed l) hnames

end Reading

open Reading

/-! ### Depth -/

/-- The depth of braces after some lines.  Closing braces that close nothing by the end of their
line do not count. -/
def braceDepth (ls : List Line) : Nat :=
  ls.foldl (fun depth l => depth + l.count '{' - l.count '}') 0

theorem depth_foldl (ls : List Line) : ∀ r : Reading, (ls.foldl feed r).depth =
    ls.foldl (fun depth l => depth + l.count '{' - l.count '}') r.depth := by
  induction ls with
  | nil => intro r; rfl
  | cons l ls ih =>
    intro r
    have hstep : (r.feed l).depth = r.depth + l.count '{' - l.count '}' := by
      rw [feed_eq, closeFinished_depth]
      rfl
    rw [List.foldl_cons, List.foldl_cons, ih, hstep]

theorem depth_readLines (ls : List Line) : (readLines ls).depth = braceDepth ls :=
  depth_foldl ls start

/-- **At depth zero nothing is left of a text but its records.** -/
theorem readLines_of_braceDepth {ls : List Line} (h : braceDepth ls = 0) :
    readLines ls = start.behind (readLines ls).records := by
  have htogether := holdsTogether_readLines ls
  have hdepth : (readLines ls).depth = 0 := (depth_readLines ls).trans h
  have hstack : (readLines ls).stack = [] := by
    refine List.eq_nil_iff_forall_not_mem.mpr fun o ho => ?_
    have hlt := htogether.rising.1 o ho
    omega
  have hcurrent : (readLines ls).current = none := by
    have hiff := htogether.parked.isSome_current_iff
    rw [hstack] at hiff
    simpa using hiff
  rw [records, hcurrent, Option.toList_none, List.append_nil]
  calc readLines ls = ⟨(readLines ls).aside, (readLines ls).stack, (readLines ls).depth,
        (readLines ls).current⟩ := rfl
    _ = start.behind (readLines ls).aside := by
        rw [hstack, hdepth, hcurrent, behind, start, List.append_nil]

/-! ### Whole texts -/

/-- A text that opens no record declares none. -/
theorem parse_eq_nil {text : String} (h : ∀ l ∈ linesOf text, openedRecord? l = none) :
    parse text = [] := by
  have hperm := perm_kept_foldl (f := Record.name) (fun _ _ => rfl) (fun _ _ => rfl) start
    (linesOf text)
  have hnew : ((trace start (linesOf text)).filterMap fun p => p.1.newRecord? p.2) = [] := by
    refine List.filterMap_eq_nil_iff.mpr fun p hp => ?_
    have hline : p.2 ∈ linesOf text := by
      rw [← trace_map_snd start (linesOf text)]
      exact List.mem_map_of_mem hp
    rw [newRecord?, h p.2 hline]
    rfl
  rw [hnew, List.map_nil, List.append_nil] at hperm
  have hnil : (parse text).map Record.name = [] := hperm.eq_nil
  exact List.map_eq_nil_iff.mp hnil

/-- **Two texts are read one after the other**, whatever they hold, if the first one ends its last
line, is back at depth zero and declares no record of a qualified name that the second one declares.
In particular a text without records changes nothing of what follows it. -/
theorem parse_append {t₁ t₂ : String} (hend : ∀ c ∈ t₁.toList.getLast?, c = '\n')
    (hdepth : braceDepth (linesOf t₁) = 0)
    (hnames : ∀ r₁ ∈ parse t₁, ∀ r₂ ∈ parse t₂, r₁.qualifiedName ≠ r₂.qualifiedName) :
    parse (t₁ ++ t₂) = parse t₁ ++ parse t₂ ∧
      ((∀ l ∈ linesOf t₁, openedRecord? l = none) → parse (t₁ ++ t₂) = parse t₂) := by
  have hlines : linesOf (t₁ ++ t₂) = linesOf t₁ ++ linesOf t₂ := by
    rw [linesOf, String.toList_append, lines_append hend]
    rfl
  have hfirst : readLines (linesOf t₁) = start.behind (parse t₁) := readLines_of_braceDepth hdepth
  have hapart : ∀ x ∈ parse t₁,
      x.qualifiedName ∉ ((linesOf t₂).foldl feed start).qualifiedNames := by
    intro x hx hmem
    obtain ⟨q, hq, hname⟩ := List.mem_map.mp hmem
    exact hnames x hx q hq hname.symm
  have hread : readLines (linesOf t₁ ++ linesOf t₂) =
      (readLines (linesOf t₂)).behind (parse t₁) := by
    rw [readLines, List.foldl_append, ← readLines, hfirst,
      foldl_feed_behind holdsTogether_start hapart]
    rfl
  have hjoined : parse (t₁ ++ t₂) = parse t₁ ++ parse t₂ := by
    rw [parse, hlines, hread, records, behind, List.append_assoc]
    rfl
  refine ⟨hjoined, fun hnone => ?_⟩
  rw [hjoined, parse_eq_nil hnone, List.nil_append]

/-- Braces that close nothing and an enum, without a record; and behind them a record, whose name a
nested record of the second text has. -/
theorem parse_append_strays :
    let t₀ := "\x7d \x7d\nenum E @0x1 \x7b\n\x7d\nconst n :UInt8 = 1;\n"
    let t₁ := "\x7d\nstruct A @0x2 \x7b\n x @0 :T;\n\x7d \x7d\nenum E @0x1 \x7b\n\x7d\n"
    let t₂ := "struct C @0x3 \x7b\n struct A @0x4 \x7b\n \x7d\n y @0 :T;\n\x7d\n"
    ((∀ c ∈ t₀.toList.getLast?, c = '\n') ∧ braceDepth (linesOf t₀) = 0 ∧
      (∀ l ∈ linesOf t₀, openedRecord? l = none) ∧ parse (t₀ ++ t₂) = parse t₂) ∧
    ((∀ c ∈ t₁.toList.getLast?, c = '\n') ∧ braceDepth (linesOf t₁) = 0 ∧
      (parse t₁).map Record.qualifiedName = ["A"] ∧
      (parse t₂).map Record.qualifiedName = ["C.A", "C"] ∧
      parse (t₁ ++ t₂) = parse t₁ ++ parse t₂) := by
  intro t₀ t₁ t₂
  have hend : ∀ t : String, t.toList.getLast? = some '\n' → ∀ c ∈ t.toList.getLast?, c = '\n' := by
    intro t ht c hc
    exact Option.some.inj (hc.symm.trans ht)
  have hend₀ := hend t₀ (by decide +kernel)
  have hend₁ := hend t₁ (by decide +kernel)
  have hdepth₀ : braceDepth (linesOf t₀) = 0 := by decide +kernel
  have hdepth₁ : braceDepth (linesOf t₁) = 0 := by decide +kernel
  have hnone : ∀ l ∈ linesOf t₀, openedRecord? l = none := by decide +kernel
  have hnames₀ : ∀ r₁ ∈ parse t₀, ∀ r₂ ∈ parse t₂, r₁.qualifiedName ≠ r₂.qualifiedName := by
    rw [parse_eq_nil hnone]
    exact fun r₁ h₁ => absurd h₁ List.not_mem_nil
  have hnames₁ : ∀ r₁ ∈ parse t₁, ∀ r₂ ∈ parse t₂, r₁.qualifiedName ≠ r₂.qualifiedName := by
    decide +kernel
  refine ⟨⟨hend₀, hdepth₀, hnone, ?_⟩, hend₁, hdepth₁, ?_, ?_, ?_⟩
  · exact (parse_append hend₀ hdepth₀ hnames₀).2 hnone
  · decide +kernel
  · decide +kernel
  · exact (parse_append hend₁ hdepth₁ hnames₁).1

end DeclAtlas.Schema
