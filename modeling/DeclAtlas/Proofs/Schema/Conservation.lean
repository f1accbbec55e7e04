import DeclAtlas.Proofs.Schema.OpenRecords

/-!
# Nothing is lost while reading a schema

Records are parked, taken out and parked again whenever one is closed.  All this only moves them
about: up to the nested names, `closeFinished` permutes the records (`perm_closeFinished`).  So the
records and fields at the end of a text are those its lines brought in, each once.

* `perm_kept_foldl`: what records keep for good, such as their names, comes from the lines that open
  them.
* `perm_fields_foldl`: fields come from the lines that declare them inside a record.

Both are put together for whole texts at the end, with the invariant of `OpenRecords.lean`.
-/

namespace DeclAtlas.Schema

open Text

namespace Reading

variable {β : Type} {f : Record → β}

/-! ### Closing permutes the records -/

theorem perm_returnTo (hf : ∀ q ns, f { q with nested := ns } = f q) (stack : List Opening)
    (aside : List Record) (current : Option Record) :
    (((returnTo stack aside current).1 ++ (returnTo stack aside current).2.toList).map f).Perm
      ((aside ++ current.toList).map f) := by
  by_cases hs : stack = []
  · subst hs
    simp [returnTo_nil]
  · cases ht : takeOut? (qualifiedNameOf stack) (aside ++ current.toList) with
    | none => simp [returnTo_of_takeOut?_eq_none hs ht]
    | some t =>
      obtain ⟨q, rest⟩ := t
      obtain ⟨a, b, hab, rfl, -⟩ := takeOut?_eq_some ht
      rw [returnTo_of_takeOut? hs ht, hab]
      simp only [List.map_append, Option.toList_some, hf, List.map_cons, List.map_nil,
        List.append_assoc]
      exact (List.perm_append_singleton (f q) (b.map f)).append_left (a.map f)

/-- **Closing changes nothing of a record but its nested names.** -/
theorem perm_closeFinished (hf : ∀ q ns, f { q with nested := ns } = f q) (depth : Nat) :
    ∀ (stack : List Opening) (aside : List Record) (current : Option Record),
      ((closeFinished depth stack aside current).records.map f).Perm
        ((aside ++ current.toList).map f) := by
  intro stack
  induction stack with
  | nil => intro _ _; exact .refl _
  | cons o stack ih =>
    intro aside current
    by_cases h : o.depth < depth
    · rw [closeFinished_cons_of_lt h]; exact .refl _
    · rw [closeFinished_cons_of_le (Nat.not_lt.mp h)]
      exact (ih _ _).trans (perm_returnTo hf stack aside current)

theorem perm_feed (hf : ∀ q ns, f { q with nested := ns } = f q) (r : Reading) (l : Line) :
    ((r.feed l).records.map f).Perm
      (((r.opened l).aside ++ ((r.opened l).current.map (declareIn l)).toList).map f) := by
  rw [feed_eq]
  exact perm_closeFinished hf _ _ _ _

/-! ### What records keep -/

/-- The record that a line opens, before it has members. -/
def newRecord? (r : Reading) (l : Line) : Option Record :=
  (openedRecord? l).map fun n => Record.empty n (dotted (r.names ++ [n]))

theorem records_opened (r : Reading) (l : Line) :
    (r.opened l).records = r.records ++ (r.newRecord? l).toList := by
  unfold opened newRecord?
  cases openedRecord? l with
  | none => simp
  | some n => simp [openRecord, records, names, qualifiedNameOf_cons]

theorem perm_kept_feed (hf : ∀ q ns, f { q with nested := ns } = f q)
    (hd : ∀ l q, f (declareIn l q) = f q) (r : Reading) (l : Line) :
    ((r.feed l).records.map f).Perm (r.records.map f ++ (r.newRecord? l).toList.map f) := by
  refine (perm_feed hf r l).trans (.of_eq ?_)
  rw [← List.map_append, ← records_opened, records, List.map_append, List.map_append]
  cases (r.opened l).current with
  | none => rfl
  | some c => simp [hd]

/-- What each line adds to, up to the order, holds what all lines of a text have added. -/
theorem perm_foldl_feed {β : Type} {g : Reading → List β} {new? : Reading → Line → Option β}
    {P : Reading → Prop} (hP : ∀ r l, P r → P (r.feed l))
    (hfeed : ∀ r l, P r → (g (r.feed l)).Perm (g r ++ (new? r l).toList)) {r : Reading} (hr : P r)
    (ls : List Line) :
    (g (ls.foldl feed r)).Perm (g r ++ (trace r ls).filterMap fun p => new? p.1 p.2) := by
  induction ls generalizing r with
  | nil => simp [trace]
  | cons l ls ih =>
    have hnew : ((trace r (l :: ls)).filterMap fun p => new? p.1 p.2) =
        (new? r l).toList ++ (trace (r.feed l) ls).filterMap fun p => new? p.1 p.2 := by
      rw [trace, List.filterMap_cons]
      cases new? r l <;> rfl
    rw [hnew, ← List.append_assoc]
    exact (ih (hP r l hr)).trans ((hfeed r l hr).append_right _)

/-- **What no later line changes comes from the lines that open records.** -/
theorem perm_kept_foldl (hf : ∀ q ns, f { q with nested := ns } = f q)
    (hd : ∀ l q, f (declareIn l q) = f q) (r : Reading) (ls : List Line) :
    ((ls.foldl feed r).records.map f).Perm
      (r.records.map f ++ ((trace r ls).filterMap fun p => p.1.newRecord? p.2).map f) := by
  have hfeed : ∀ r l, True → ((feed r l).records.map f).Perm
      (r.records.map f ++ ((r.newRecord? l).map f).toList) := by
    intro r l _
    rw [Option.toList_map]
    exact perm_kept_feed hf hd r l
  rw [List.map_filterMap]
  exact perm_foldl_feed (g := fun r => r.records.map f) (fun _ _ h => h) hfeed trivial ls

theorem trace_map_snd (r : Reading) (ls : List Line) : (trace r ls).map Prod.snd = ls := by
  induction ls generalizing r with
  | nil => rfl
  | cons l ls ih => rw [trace, List.map_cons, ih]

/-! ### Fields -/

theorem HoldsTogether.isSome_current_opened {r : Reading} (h : r.HoldsTogether) (l : Line) :
    (r.opened l).current.isSome = r.insideRecord l := by
  have hiff := (h.opened l).1.isSome_current_iff
  have hstack : (r.opened l).stack ≠ [] ↔ r.insideRecord l = true := by
    unfold Reading.opened insideRecord
    cases openedRecord? l with
    | none => simp [names]
    | some n => simp [openRecord]
  exact Bool.eq_iff_iff.mpr (hiff.trans hstack)

theorem perm_fields_feed {r : Reading} (h : r.HoldsTogether) (l : Line) :
    ((r.feed l).records.flatMap Record.fields).Perm
      (r.records.flatMap Record.fields ++ (r.fieldInside? l).toList) := by
  have hperm := (perm_feed (f := Record.fields) (fun _ _ => rfl) r l).flatten
  rw [← List.flatMap_def, ← List.flatMap_def] at hperm
  refine hperm.trans (.of_eq ?_)
  have hopened : (r.opened l).records.flatMap Record.fields = r.records.flatMap Record.fields := by
    rw [records_opened, List.flatMap_append, newRecord?]
    cases openedRecord? l <;> simp [Record.empty]
  rw [← hopened, fieldInside?, ← h.isSome_current_opened l, records]
  cases (r.opened l).current with
  | none => simp
  | some c => simp [declareIn]

/-- **Fields come from the lines that declare them inside a record.** -/
theorem perm_fields_foldl {r : Reading} (h : r.HoldsTogether) (ls : List Line) :
    ((ls.foldl feed r).records.flatMap Record.fields).Perm
      (r.records.flatMap Record.fields ++
        (trace r ls).filterMap fun p => p.1.fieldInside? p.2) :=
  perm_foldl_feed (g := fun r => r.records.flatMap Record.fields) (P := HoldsTogether)
    (fun _ l h => h.feed l) (fun _ l h => perm_fields_feed h l) h ls

/-- What every line keeps holds before every line of a text. -/
theorem kept_of_mem_trace {P : Reading → Prop} (hfeed : ∀ r l, P r → P (r.feed l)) {r : Reading}
    (h : P r) {ls : List Line} {p : Reading × Line} (hp : p ∈ trace r ls) : P p.1 := by
  induction ls generalizing r with
  | nil => simp [trace] at hp
  | cons l ls ih =>
    rcases List.mem_cons.mp hp with rfl | hp
    · exact h
    · exact ih (hfeed r l h) hp

theorem HoldsTogether.of_mem_trace {r : Reading} (h : r.HoldsTogether) {ls : List Line}
    {p : Reading × Line} (hp : p ∈ trace r ls) : p.1.HoldsTogether :=
  kept_of_mem_trace (fun _ l h => h.feed l) h hp

end Reading

/-! ### Whole texts -/

open Reading

/-- **Reading a schema stays consistent and loses nothing.**  After every line of any text the names
and depths of the open records, the record in hand and the records set aside agree, and no parent
is looked for in vain.  Every line that opens a record gives exactly one record, under the path it
was opened at, and every line that declares a field inside a record gives exactly one field. -/
theorem consistent_and_lossless (text : String) :
    (∀ n, (readLines ((linesOf text).take n)).Consistent) ∧
    (∀ p ∈ trace start (linesOf text), FindsParents (p.1.depthAfter p.2) (p.1.opened p.2).stack
      (p.1.opened p.2).aside ((p.1.opened p.2).current.map (declareIn p.2))) ∧
    ((parse text).map Record.qualifiedName).Perm
      (((trace start (linesOf text)).filterMap fun p => p.1.openedPath? p.2).map dotted) ∧
    ((parse text).map Record.name).Perm ((linesOf text).filterMap openedRecord?) ∧
    (parse text).length = (linesOf text).countP (fun l => (openedRecord? l).isSome) ∧
    ((parse text).flatMap Record.fields).Perm
      ((trace start (linesOf text)).filterMap fun p => p.1.fieldInside? p.2) ∧
    ((parse text).flatMap Record.fields).length =
      (trace start (linesOf text)).countP
        (fun p => (field? p.2).isSome && p.1.insideRecord p.2) := by
  have hstart := holdsTogether_start
  have hparse : parse text = ((linesOf text).foldl feed start).records := rfl
  have hnames : ((parse text).map Record.name).Perm ((linesOf text).filterMap openedRecord?) := by
    rw [hparse]
    refine (perm_kept_foldl (f := Record.name) (fun _ _ => rfl) (fun _ _ => rfl) start _).trans
      (.of_eq ?_)
    have hname : ∀ p : Reading × Line, (p.1.newRecord? p.2).map Record.name = openedRecord? p.2 :=
      fun p => by simp [newRecord?, Record.empty, Function.comp_def]
    have hlines : (linesOf text).filterMap openedRecord? =
        (trace start (linesOf text)).filterMap fun p => openedRecord? p.2 := by
      conv => lhs; rw [← trace_map_snd start (linesOf text)]
      exact List.filterMap_map
    rw [hlines]
    simp [List.map_filterMap, hname, records, start]
  have hfields := perm_fields_foldl hstart (linesOf text)
  refine ⟨fun n => (holdsTogether_readLines _).consistent,
    fun p hp => (hstart.of_mem_trace hp).findsParents p.2, ?_, hnames, ?_, hfields, ?_⟩
  · refine (perm_kept_foldl (f := Record.qualifiedName) (fun _ _ => rfl) (fun _ _ => rfl) start
      _).trans (.of_eq ?_)
    simp [List.map_filterMap, newRecord?, openedPath?, records, start, Record.empty,
      Function.comp_def]
  · rw [← List.length_map Record.name, hnames.length_eq, List.length_filterMap_eq_countP]
  · rw [hparse, hfields.length_eq]
    have hcount : ∀ p : Reading × Line, (p.1.fieldInside? p.2).isSome =
        ((field? p.2).isSome && p.1.insideRecord p.2) := by
      intro p
      unfold fieldInside?
      cases p.1.insideRecord p.2 <;> simp
    simp [List.length_filterMap_eq_countP, hcount, records, start]

/-- A stray brace, a name used twice, two records closed on one line and one left open. -/
theorem lossless_of_strayBraces :
    let text := "\x7d\nstruct A @0x1 \x7b\nstruct B @0x2 \x7b\n x @0 :T;\n\x7d \x7d\n" ++
      "struct A @0x3 \x7b\n y @1 :T;\n"
    (readLines ((linesOf text).take 4)).Consistent ∧ (parse text).length = 3 ∧
      ((parse text).flatMap Record.fields).length = 2 := by
  intro text
  obtain ⟨hcons, -, -, -, hlength, -, hfields⟩ := consistent_and_lossless text
  refine ⟨hcons 4, ?_, ?_⟩
  · rw [hlength]
    decide +kernel
  · rw [hfields]
    decide +kernel

end DeclAtlas.Schema
