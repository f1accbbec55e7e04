import DeclAtlas.Proofs.Interface.Overrides

/-!
# Lists of fields

The call that registers a value struct lists its fields.  Their names are separated by commas and
may have blanks around them, and the list may be broken behind its commas, so that it stands on any
number of lines (`FieldList`).  The lines are joined before the names are told apart, but a line
that is broken behind a comma ends between two names, so the names that are read are those on the
lines, one line after another (`FieldList.namesIn_joined`).

A list on lines of its own is read back from its first line on, whatever stands behind it, as long
as no parenthesis follows the call on its last line (`FieldCall.structFieldsOf_gather`).
-/

namespace DeclAtlas

open Text Nesting

/-! ### Names between commas -/

section Names

variable {s : List Char}

theorem namesIn_append_cons (a b : List Char) :
    namesIn (a ++ ',' :: b) = namesIn a ++ namesIn b := by
  rw [namesIn, ← pieces_eq_splitOn, pieces_append_cons, pieces_eq_splitOn, pieces_eq_splitOn,
    List.map_append, List.filter_append, List.map_append]
  rfl

/-- A text without commas is one name, if it is not blank. -/
theorem namesIn_of_notMem (h : ',' ∉ s) :
    namesIn s = if trim s = [] then [] else [String.ofList (trim s)] := by
  rw [namesIn, ← pieces_eq_splitOn, pieces_of_notMem h]
  by_cases hs : trim s = [] <;> simp [hs]

theorem namesIn_blanks_append (a : Blanks) (s : List Char) : namesIn (a.text ++ s) = namesIn s := by
  have hsingle : ∀ {u : List Char}, ',' ∉ u → namesIn (a.text ++ u) = namesIn u := by
    intro u hu
    have htrim : trim (a.text ++ u) = trim u := by
      have hblanks := trim_blanks_append a .none u
      rwa [Blanks.none, List.append_nil] at hblanks
    have hfree : ',' ∉ a.text ++ u := by
      rw [List.mem_append, not_or]
      exact ⟨a.notMem (by decide), hu⟩
    rw [namesIn_of_notMem hfree, namesIn_of_notMem hu, htrim]
  by_cases hs : ',' ∈ s
  · obtain ⟨u, v, rfl, hu⟩ := List.eq_append_cons_of_mem hs
    rw [← List.append_assoc, namesIn_append_cons, namesIn_append_cons, hsingle hu]
  · exact hsingle hs

theorem namesIn_append_blanks (s : List Char) (b : Blanks) : namesIn (s ++ b.text) = namesIn s := by
  have hsingle : ∀ {v : List Char}, ',' ∉ v → namesIn (v ++ b.text) = namesIn v := by
    intro v hv
    have hfree : ',' ∉ v ++ b.text := by
      rw [List.mem_append, not_or]
      exact ⟨hv, b.notMem (by decide)⟩
    have htrim : trim (v ++ b.text) = trim v := trim_blanks_append .none b v
    rw [namesIn_of_notMem hfree, namesIn_of_notMem hv, htrim]
  by_cases hs : ',' ∈ s
  · obtain ⟨v, u, hrev, hv⟩ := List.eq_append_cons_of_mem (List.mem_reverse.mpr hs)
    obtain rfl : s = u.reverse ++ ',' :: v.reverse := by
      rw [← List.reverse_reverse s, hrev]
      simp
    rw [List.append_assoc, List.cons_append, namesIn_append_cons, namesIn_append_cons,
      hsingle (mt List.mem_reverse.mp hv)]
  · exact hsingle hs

/-- Trimming a text takes away none of its names. -/
theorem namesIn_trim (s : List Char) : namesIn (trim s) = namesIn s := by
  obtain ⟨a, b, hs⟩ := exists_blanks_trim s
  conv_rhs => rw [hs]
  rw [namesIn_blanks_append, namesIn_append_blanks]

theorem namesIn_trimStart (s : List Char) : namesIn (trimStart s) = namesIn s := by
  obtain ⟨b, hb⟩ := exists_trimStart_eq s
  rw [hb, namesIn_append_blanks, namesIn_trim]

end Names

/-! ### Written lists -/

/-- The name of a field with the blanks around it. -/
structure FieldArgument where
  before : Blanks
  name : List Char
  /-- The blanks behind the name. -/
  after : Blanks
  ne_nil : name ≠ []
  trimmed : trim name = name
  plain : ∀ c ∈ name, c ∉ ",()\x7b\x7d".toList

namespace FieldArgument

/-- The name as written. -/
def text (a : FieldArgument) : List Char := a.before.text ++ (a.name ++ a.after.text)

/-- The field: one leading dollar sign is not part of the exposed name. -/
def field (a : FieldArgument) : StructField where
  jsName := String.ofList (if a.name.head? = some '$' then a.name.tail else a.name)
  boundName := String.ofList a.name

theorem ofBound_name (a : FieldArgument) :
    StructField.ofBound (String.ofList a.name) = a.field := by
  rw [StructField.ofBound, String.toList_ofList, field]
  cases a.name with
  | nil => rfl
  | cons c r =>
    by_cases hc : c = '$'
    · simp [hc]
    · simp [hc]

theorem notMem (a : FieldArgument) {c : Char} (hc : c ∈ ",()\x7b\x7d".toList) : c ∉ a.text := by
  have hblank : isBlank c = false := by
    obtain rfl | rfl | rfl | rfl | rfl :
        c = ',' ∨ c = '(' ∨ c = ')' ∨ c = '\x7b' ∨ c = '\x7d' := by simpa using hc
    all_goals decide
  simp only [text, List.mem_append, not_or]
  exact ⟨a.before.notMem hblank, fun h => a.plain c h hc, a.after.notMem hblank⟩

theorem namesIn_text (a : FieldArgument) : namesIn a.text = [String.ofList a.name] := by
  have htrim : trim a.text = a.name := (trim_blanks_append a.before a.after a.name).trans a.trimmed
  rw [namesIn_of_notMem (a.notMem (by decide)), htrim, if_neg a.ne_nil]

end FieldArgument

/-- The names of some fields. -/
def namesOf (fields : List FieldArgument) : List String := fields.map fun a => String.ofList a.name

/-- A line of a list that goes on: each of its names is followed by a comma, and the list is broken
behind the last one. -/
structure FieldRow where
  fields : List FieldArgument
  /-- The blanks at the end of the line. -/
  pad : Blanks

/-- The line. -/
def FieldRow.text (r : FieldRow) : Line := r.fields.flatMap (fun a => a.text ++ [',']) ++ r.pad.text

/-- A list of fields, broken over lines behind some commas. -/
structure FieldList where
  /-- The lines but the last. -/
  rows : List FieldRow
  last : List FieldArgument

namespace FieldList

/-- The last line. -/
def lastText (l : FieldList) : Line := joinWith [','] (l.last.map FieldArgument.text)

/-- The lines. -/
def lines (l : FieldList) : List Line := l.rows.map FieldRow.text ++ [l.lastText]

/-- The fields, in order. -/
def fields (l : FieldList) : List FieldArgument := l.rows.flatMap FieldRow.fields ++ l.last

end FieldList

/-! ### Reading a list -/

theorem FieldRow.namesIn_text_append (r : FieldRow) (s : List Char) :
    namesIn (r.text ++ s) = namesOf r.fields ++ namesIn s := by
  rw [FieldRow.text, List.append_assoc]
  induction r.fields with
  | nil => exact namesIn_blanks_append r.pad s
  | cons a fields ih =>
    rw [List.flatMap_cons, List.append_assoc, List.append_assoc, List.singleton_append,
      namesIn_append_cons, ih, a.namesIn_text]
    rfl

/-- A line that goes on is, but for the blanks around it, empty or ends in a comma. -/
theorem FieldRow.trim_text (r : FieldRow) :
    trim r.text = [] ∨ ∃ u, trim r.text = u ++ [','] ∧ namesIn u = namesOf r.fields := by
  rcases List.eq_nil_or_concat r.fields with hnil | ⟨fields, a, hlast⟩
  · refine .inl (trim_eq_nil_iff.mpr ?_)
    rw [FieldRow.text, hnil]
    exact r.pad.blank
  · obtain ⟨u, hu⟩ : ∃ u, r.text = u ++ ',' :: r.pad.text := by
      refine ⟨fields.flatMap (fun a => a.text ++ [',']) ++ a.text, ?_⟩
      rw [FieldRow.text, hlast]
      simp
    have hnames : namesIn u = namesOf r.fields := by
      have hread := r.namesIn_text_append []
      have hpad : namesIn r.pad.text = namesIn [] := namesIn_append_blanks [] r.pad
      rw [List.append_nil, hu, namesIn_append_cons, hpad] at hread
      exact List.append_cancel_right hread
    have hend : trimEnd r.pad.text = [] := trimEnd_append_blanks [] r.pad
    refine .inr ⟨trimStart u, ?_, (namesIn_trimStart u).trans hnames⟩
    rw [hu, trim_append_cons (by decide), hend]

theorem FieldRow.namesIn_trim_text_append (r : FieldRow) (s : List Char) :
    namesIn (trim r.text ++ ' ' :: s) = namesOf r.fields ++ namesIn s := by
  have hspace : namesIn (' ' :: s) = namesIn s := namesIn_blanks_append Gap.space.toBlanks s
  have hread := r.namesIn_text_append []
  rw [List.append_nil, ← namesIn_trim] at hread
  rcases r.trim_text with hnil | ⟨u, htrim, hu⟩
  · have hfields : namesOf r.fields = [] := by
      rw [hnil] at hread
      exact (List.append_eq_nil_iff.mp hread.symm).1
    rw [hnil, hfields]
    exact hspace
  · rw [htrim, List.append_assoc, List.singleton_append, namesIn_append_cons, hu, hspace]

namespace FieldList

variable (l : FieldList)

theorem namesIn_lastText : namesIn l.lastText = namesOf l.last := by
  rw [lastText]
  cases l.last with
  | nil => rfl
  | cons a rest =>
    induction rest generalizing a with
    | nil => exact a.namesIn_text
    | cons b rest ih =>
      have hjoin : joinWith [','] ((a :: b :: rest).map FieldArgument.text) =
          a.text ++ ',' :: joinWith [','] ((b :: rest).map FieldArgument.text) := by
        rw [List.map_cons, List.map_cons, joinWith, List.append_assoc]
        · rfl
        · exact List.cons_ne_nil _ _
      rw [hjoin, namesIn_append_cons, a.namesIn_text, ih]
      rfl

theorem cons_lines : l.lines.headD [] :: l.lines.tail = l.lines := by
  rw [lines]
  cases l.rows <;> rfl

/-- **The names on the lines of a list are read in order.**  The lines are joined by single spaces,
and each space falls between two names. -/
theorem namesIn_joined :
    namesIn (joinWith [' '] (l.lines.map trim)) = namesOf l.fields := by
  obtain ⟨rows, last⟩ := l
  induction rows with
  | nil =>
    rw [lines, List.map_nil, List.nil_append, List.map_singleton, joinWith, namesIn_trim]
    exact namesIn_lastText _
  | cons r rows ih =>
    have hjoin : joinWith [' '] ((lines ⟨r :: rows, last⟩).map trim) =
        trim r.text ++ ' ' :: joinWith [' '] ((lines ⟨rows, last⟩).map trim) := by
      rw [lines, List.map_cons, List.cons_append, List.map_cons, joinWith, List.append_assoc]
      · rfl
      · simp
    rw [hjoin, r.namesIn_trim_text_append, ih]
    simp [namesOf, fields]

/-- The lines of a list hold no parentheses and no braces. -/
theorem notMem_flatten_lines {c : Char} (hc : c ∈ "()\x7b\x7d".toList) :
    c ∉ l.lines.flatten := by
  have hmarks : c ∈ ",()\x7b\x7d".toList := List.mem_cons_of_mem _ hc
  have hblank : isBlank c = false ∧ c ≠ ',' := by
    obtain rfl | rfl | rfl | rfl : c = '(' ∨ c = ')' ∨ c = '\x7b' ∨ c = '\x7d' := by simpa using hc
    all_goals decide
  have hlast : c ∉ l.lastText := by
    intro h
    rw [lastText] at h
    cases hfields : l.last with
    | nil =>
      rw [hfields] at h
      exact List.not_mem_nil h
    | cons a rest =>
      rw [hfields, List.map_cons, joinWith_cons_eq_append, List.mem_append] at h
      rcases h with h | h
      · exact a.notMem hmarks h
      · obtain ⟨t, ht, hct⟩ := List.mem_flatMap.mp h
        obtain ⟨b, -, rfl⟩ := List.mem_map.mp ht
        rcases List.mem_cons.mp hct with rfl | hct
        · exact hblank.2 rfl
        · exact b.notMem hmarks hct
  have hrow : ∀ r ∈ l.rows, c ∉ r.text := by
    intro r _ h
    rw [FieldRow.text, List.mem_append] at h
    rcases h with h | h
    · obtain ⟨a, -, hca⟩ := List.mem_flatMap.mp h
      rcases List.mem_append.mp hca with hca | hca
      · exact a.notMem hmarks hca
      · exact hblank.2 (List.mem_singleton.mp hca)
    · exact r.pad.notMem hblank.1 h
  rw [lines, List.flatten_append, List.mem_append, not_or]
  refine ⟨fun h => ?_, by simpa using hlast⟩
  obtain ⟨t, ht, hct⟩ := List.mem_flatten.mp h
  obtain ⟨r, hr, rfl⟩ := List.mem_map.mp ht
  exact hrow r hr hct

end FieldList

/-! ### The call -/

/-- A text without parentheses is balanced. -/
theorem balanced_of_notMem {s : List Char} (hopen : '(' ∉ s) (hclose : ')' ∉ s) : Balanced s := by
  refine ⟨delta_eq_zero hopen hclose, fun p hp => ?_⟩
  have hsub := ((List.mem_inits _ _).mp hp).subset
  exact Int.le_of_eq (delta_eq_zero (mt (@hsub _) hopen) (mt (@hsub _) hclose)).symm

/-- The call that registers a value struct, on lines of its own. -/
structure FieldCall where
  /-- The blanks before the macro. -/
  indent : Blanks
  /-- The blanks before the opening parenthesis. -/
  gap : Blanks
  list : FieldList
  /-- What follows the closing parenthesis on its line. -/
  rest : List Char
  no_parenthesis : '(' ∉ rest ∧ ')' ∉ rest

namespace FieldCall

variable (f : FieldCall)

/-- The call as one of the macro. -/
def call : SpannedCall structMacro where
  before := f.indent.text
  gap := f.gap
  first := f.list.lines.headD []
  later := f.list.lines.tail
  rest := f.rest
  unnamed := contains_eq_false_iff.mpr fun h =>
    f.indent.notMem (show isBlank 'J' = false by decide) (h.subset (by decide))
  balanced := by
    rw [f.list.cons_lines]
    exact balanced_of_notMem (f.list.notMem_flatten_lines (by decide))
      (f.list.notMem_flatten_lines (by decide))

/-- The lines of the call. -/
def lines : List Line := f.call.lines

/-- The fields, in order. -/
def fields : List StructField := f.list.fields.map FieldArgument.field

/-- The first line of the call registers a value struct. -/
theorem isStructMarker_head : isStructMarker f.call.head = true := by
  obtain ⟨s, hhead, -⟩ := f.call.exists_head_eq
  have hafter : after? structMacro f.call.head =
    some (f.gap.text ++ '(' :: (f.call.first ++ s)) := by
    rw [hhead, SpannedCall.lead, List.append_assoc, List.append_assoc, after?,
      findFrom?_append_append isMacro_structMacro.first_once _ _ f.call.unnamed, Option.bind_some]
    exact dropLead?_eq_some.mpr rfl
  rw [isStructMarker, hafter]
  dsimp only
  rw [f.gap.skip (startsIn_cons (by decide))]
  rfl

theorem standsAlone (after : List Line) : f.call.StandsAlone after := by
  have hbefore : parenDelta f.call.before = 0 :=
    delta_eq_zero (f.indent.notMem (by decide)) (f.indent.notMem (by decide))
  have hrest : parenDelta f.call.rest = 0 := delta_eq_zero f.no_parenthesis.1 f.no_parenthesis.2
  refine ⟨f.call.staysOpen_of_nonneg (Int.le_of_eq hbefore.symm), f.no_parenthesis.2,
    fun hopen => ?_⟩
  rw [hbefore, hrest] at hopen
  exact absurd hopen (by decide)

/-- **The fields of a call are read back.** -/
theorem structFieldsOf_gather (after : List Line) :
    structFieldsOf (argumentOf structMacro (gather (f.lines ++ after)).joined) = f.fields := by
  have hargument : f.call.first :: f.call.later = f.list.lines := f.list.cons_lines
  have hnames : namesIn f.call.argument = namesOf f.list.fields := by
    rw [SpannedCall.argument, hargument, namesIn_trim, f.list.namesIn_joined]
  rw [lines, (structFieldsOf_gather_iff f.call after).mpr (f.standsAlone after), hnames, namesOf,
    List.map_map, fields]
  exact List.map_congr_left fun a _ => a.ofBound_name

end FieldCall

end DeclAtlas
