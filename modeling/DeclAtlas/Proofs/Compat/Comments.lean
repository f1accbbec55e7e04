import DeclAtlas.Proofs.Compat.Annotations
import DeclAtlas.Proofs.Schema.Comments
import DeclAtlas.Proofs.Text.Occurrences

/-!
# Comments behind flags and fields

The annotations of a line are looked for on the whole line, its comment included.  So a comment goes
unnoticed only if it adds nothing to what the line has: no annotation to a field
(`field?_append_remark_eq_iff`), and to a flag no value that it lacks and no marker
(`flag?_append_remark_eq_iff`).  A comment that is not blank and has no dollar sign and no closing
parenthesis adds nothing, whatever stands on the line.

The search goes on behind the last annotation of the line (`behindMatches`), because the line can leave
one open that the comment closes.
-/

namespace DeclAtlas.Compat

open Text Schema

variable {l : Line} {comment t : List Char}

/-! ### Values on a continued line -/

theorem annotations_append (ht : StartsIn (isBlank · = true) t) (l : Line) :
    annotations (l ++ t) = annotations l ++ annotations (behindMatches annotation? l ++ t) := by
  have hread := (Marks.readsBefore parenthesized ht).allMatches_append l
  rw [← annotation?_eq] at hread
  exact hread

theorem valueOf?_append (name : String) (as bs : List (List Char × List Char)) :
    valueOf? name (as ++ bs) = (valueOf? name as).or (valueOf? name bs) := by
  rw [valueOf?, List.find?_append, Option.map_or]
  rfl

theorem quotedValue?_append (name : String) (ht : StartsIn (isBlank · = true) t) (l : Line) :
    quotedValue? name (l ++ t) =
      (quotedValue? name l).or (quotedValue? name (behindMatches quotedAnnotation? l ++ t)) := by
  have hread := (Marks.readsBefore quoted ht).allMatches_append l
  rw [← quotedAnnotation?_eq] at hread
  rw [quotedValue?, hread, valueOf?_append, Option.map_or]
  rfl

theorem or_eq_left_iff {α : Type} {a b : Option α} : a.or b = a ↔ (a = none → b = none) := by
  cases a with
  | none => simp
  | some x => simp

theorem rawValue?_append_eq_iff (name : String) (ht : StartsIn (isBlank · = true) t) (l : Line) :
    rawValue? name (l ++ t) = rawValue? name l ↔ (valueOf? name (annotations l) = none →
      rawValue? name (behindMatches annotation? l ++ t) = none) := by
  rw [rawValue?, rawValue?, annotations_append ht, valueOf?_append]
  cases valueOf? name (annotations l) with
  | none =>
    rw [Option.none_or]
    simp [rawValue?]
  | some v => simp

theorem containsString_append_remark {w : String} (hne : w.toList ≠ []) (hspace : ' ' ∉ w.toList)
    (hsign : '#' ∉ w.toList) (l : Line) (comment : List Char) :
    containsString w (l ++ remark comment) = (containsString w l || containsString w comment) := by
  have hnil : ¬ w.toList <:+: [] := by
    intro h
    exact hne (List.infix_nil.mp h)
  rw [Bool.eq_iff_iff, Bool.or_eq_true]
  simp only [containsString, contains_iff, remark]
  rw [infix_append_cons_iff hspace l, ← List.nil_append (' ' :: '#' :: ' ' :: comment),
    infix_append_cons_iff hspace [], ← List.nil_append ('#' :: ' ' :: comment),
    infix_append_cons_iff hsign [], ← List.nil_append (' ' :: comment),
    infix_append_cons_iff hspace []]
  simp only [hnil, false_or]

/-! ### Fields -/

/-- **A comment does not change a field** exactly if it adds no annotation and is not blank. -/
theorem field?_append_remark_eq_iff (hfree : '#' ∉ l) (comment : List Char) :
    field? (l ++ remark comment) = field? l ↔ field? l = none ∨
      annotations (behindMatches annotation? l ++ remark comment) = [] ∧
        ∃ c ∈ comment, isBlank c = false := by
  rw [field?_eq, field?_eq, declared?_append_remark]
  cases h : declared? l with
  | none => simp
  | some x =>
    have hannotations := annotations_append startsIn_remark (t := remark comment) l
    have htext := declarationText_append_remark_eq_iff hfree (exists_of_declared? h) comment
    simp [hannotations, htext]

/-! ### Flags -/

/-- The field name and the ordinal of the flag that a line declares. -/
def declaredFlag? (l : Line) : Option (List Char × Nat) := do
  let ((name, digits), s) ← fieldHead? l
  let _ ← literal? "Bool" s
  let ordinal ← asciiNatBelow? flagOrdinalBound digits
  some (name, ordinal)

theorem flag?_eq (l : Line) : flag? l = (declaredFlag? l).map fun x =>
    { fieldName := String.ofList x.1
      ordinal := x.2
      enableFlag := quotedValue? "compatEnableFlag" l
      disableFlag := quotedValue? "compatDisableFlag" l
      enableDate := quotedValue? "compatEnableDate" l
      enableAllDates := containsString "$compatEnableAllDates(" l
      experimental := containsString "$experimental(" l
      neededByFl := containsString "$neededByFl(" l
      impliedBy := rawValue? "impliedByAfterDate" l
      obsolete := startsWith "obsolete".toList x.1 } := by
  rw [flag?, declaredFlag?]
  simp only [Option.bind_eq_bind, Option.map_bind, Function.comp_def, Option.map_some]

theorem declaredFlag?_append_remark (l : Line) (comment : List Char) :
    declaredFlag? (l ++ remark comment) = declaredFlag? l := by
  have hbool : ∀ s, literal? "Bool" (s ++ remark comment) =
      (literal? "Bool" s).map (· ++ remark comment) :=
    literal?_append_startsIn (isBlank_eq_false_of_any (by decide)) startsIn_remark
  rw [declaredFlag?, declaredFlag?, fieldHead?_append_remark]
  cases fieldHead? l with
  | none => rfl
  | some x =>
    simp only [Option.map_some, Option.bind_eq_bind, Option.bind_some, hbool, Option.bind_map,
      Function.comp_def]

/-- The annotations whose values a flag holds. -/
def valueNames : List String := ["compatEnableFlag", "compatDisableFlag", "compatEnableDate"]

/-- The beginnings of the annotations that a flag only has or lacks. -/
def markers : List String := ["$compatEnableAllDates(", "$experimental(", "$neededByFl("]

/-- A comment that adds nothing to the flag of a line. -/
structure Harmless (l : Line) (comment : List Char) : Prop where
  value : ∀ name ∈ valueNames, quotedValue? name l = none →
    quotedValue? name (behindMatches quotedAnnotation? l ++ remark comment) = none
  marker : ∀ w ∈ markers, containsString w comment = true → containsString w l = true
  implied : valueOf? "impliedByAfterDate" (annotations l) = none →
    rawValue? "impliedByAfterDate" (behindMatches annotation? l ++ remark comment) = none

theorem values_eq_iff (l : Line) (comment : List Char) :
    (∀ name ∈ valueNames, quotedValue? name (l ++ remark comment) = quotedValue? name l) ↔
      ∀ name ∈ valueNames, quotedValue? name l = none →
        quotedValue? name (behindMatches quotedAnnotation? l ++ remark comment) = none := by
  refine forall₂_congr fun name _ => ?_
  rw [quotedValue?_append name startsIn_remark, or_eq_left_iff]

theorem markers_eq_iff (l : Line) (comment : List Char) :
    (∀ w ∈ markers, containsString w (l ++ remark comment) = containsString w l) ↔
      ∀ w ∈ markers, containsString w comment = true → containsString w l = true := by
  have hchars : ∀ w ∈ markers, w.toList ≠ [] ∧ ' ' ∉ w.toList ∧ '#' ∉ w.toList := by decide
  refine forall₂_congr fun w hw => ?_
  obtain ⟨hne, hspace, hsign⟩ := hchars w hw
  rw [containsString_append_remark hne hspace hsign, Bool.or_eq_left_iff_imp]

/-- **A comment does not change a flag** exactly if it adds nothing to it. -/
theorem flag?_append_remark_eq_iff (l : Line) (comment : List Char) :
    flag? (l ++ remark comment) = flag? l ↔ flag? l = none ∨ Harmless l comment := by
  have hvalues := values_eq_iff l comment
  have hmarkers := markers_eq_iff l comment
  have himplied := rawValue?_append_eq_iff "impliedByAfterDate" (t := remark comment)
    startsIn_remark l
  rw [flag?_eq, flag?_eq, declaredFlag?_append_remark]
  cases declaredFlag? l with
  | none => simp
  | some x =>
    simp only [Option.map_some, Option.some.injEq, Flag.mk.injEq, reduceCtorEq, false_or, true_and,
      and_true]
    constructor
    · rintro ⟨henable, hdisable, hdate, hall, hexperimental, hneeded, himplies⟩
      refine ⟨hvalues.mp ?_, hmarkers.mp ?_, himplied.mp himplies⟩
      · simp only [valueNames, List.forall_mem_cons]
        exact ⟨henable, hdisable, hdate, nofun⟩
      · simp only [markers, List.forall_mem_cons]
        exact ⟨hall, hexperimental, hneeded, nofun⟩
    · rintro ⟨hvalue, hmarker, himplies⟩
      obtain ⟨henable, hdisable, hdate, -⟩ := by
        simpa only [valueNames, List.forall_mem_cons] using hvalues.mpr hvalue
      obtain ⟨hall, hexperimental, hneeded, -⟩ := by
        simpa only [markers, List.forall_mem_cons] using hmarkers.mpr hmarker
      exact ⟨henable, hdisable, hdate, hall, hexperimental, hneeded, himplied.mpr himplies⟩

/-! ### Plain comments -/

section Plain

variable (hdollar : '$' ∉ comment) (hparen : ')' ∉ comment)

include hdollar hparen

/-- A plain comment holds no annotation, and closes none. -/
theorem allMatches_remark_eq_nil (m : Marks) (hm : ')' ∈ m.closing.toList) {s : List Char}
    (hs : allMatches (fun _ => m.read?) s = []) :
    allMatches (fun _ => m.read?) (s ++ remark comment) = [] := by
  refine Marks.allMatches_append_eq_nil startsIn_remark hs ?_ ⟨')', hm, ?_⟩
  · simpa [remark] using hdollar
  · simpa [remark] using hparen

theorem annotations_remark_eq_nil (l : Line) :
    annotations (behindMatches annotation? l ++ remark comment) = [] := by
  rw [annotation?_eq]
  exact allMatches_remark_eq_nil hdollar hparen parenthesized (by decide)
    (parenthesized.advances.allMatches_behindMatches l)

theorem harmless_of_plain (l : Line) : Harmless l comment where
  value := by
    intro name _ _
    have hnone := allMatches_remark_eq_nil hdollar hparen quoted (by decide)
      (quoted.advances.allMatches_behindMatches l)
    rw [← quotedAnnotation?_eq] at hnone
    rw [quotedValue?, hnone]
    rfl
  marker := by
    intro w hw hfound
    have hlead : ∀ w ∈ markers, '$' ∈ w.toList := by decide
    exact absurd ((contains_iff.mp hfound).mem (hlead w hw)) hdollar
  implied := by
    intro _
    rw [rawValue?, annotations_remark_eq_nil hdollar hparen l]
    rfl

end Plain

/-- **When a comment goes unnoticed.**  It never changes what a field or a flag is called, nor its
ordinal and its type. -/
theorem comment_unnoticed_iff (l : Line) (comment : List Char) (hl : '#' ∉ l) :
    ((field? (l ++ remark comment)).map (fun f => (f.name, f.ordinal, f.type)) =
      (field? l).map fun f => (f.name, f.ordinal, f.type)) ∧
    ((flag? (l ++ remark comment)).map (fun f => (f.fieldName, f.ordinal, f.obsolete)) =
      (flag? l).map fun f => (f.fieldName, f.ordinal, f.obsolete)) ∧
    (field? (l ++ remark comment) = field? l ↔ field? l = none ∨
      annotations (behindMatches annotation? l ++ remark comment) = [] ∧
        ∃ c ∈ comment, isBlank c = false) ∧
    (flag? (l ++ remark comment) = flag? l ↔ flag? l = none ∨ Harmless l comment) ∧
    ('$' ∉ comment → ')' ∉ comment → (∃ c ∈ comment, isBlank c = false) →
      field? (l ++ remark comment) = field? l ∧ flag? (l ++ remark comment) = flag? l) := by
  have hfield := field?_append_remark_eq_iff hl comment
  have hflag := flag?_append_remark_eq_iff l comment
  refine ⟨?_, ?_, hfield, hflag, ?_⟩
  · rw [field?_eq, field?_eq, declared?_append_remark, Option.map_map, Option.map_map]
    rfl
  · rw [flag?_eq, flag?_eq, declaredFlag?_append_remark, Option.map_map, Option.map_map]
    rfl
  · intro hdollar hparen hc
    exact ⟨hfield.mpr (.inr ⟨annotations_remark_eq_nil hdollar hparen l, hc⟩),
      hflag.mpr (.inr (harmless_of_plain hdollar hparen l))⟩

/-- A remark with an open parenthesis and a second number sign. -/
theorem comment_unnoticed_legacy :
    let l := "  a @0 :Bool $compatEnableFlag(\"a\");".toList
    let comment := "legacy, see (#12".toList
    '#' ∉ l ∧ (field? l).isSome = true ∧ (flag? l).isSome = true ∧
      field? (l ++ remark comment) = field? l ∧ flag? (l ++ remark comment) = flag? l := by
  intro l comment
  have hl : '#' ∉ l := by decide
  have hsame := (comment_unnoticed_iff l comment hl).2.2.2.2 (by decide) (by decide)
    ⟨'l', by decide, by decide⟩
  exact ⟨hl, by decide +kernel, by decide +kernel, hsame⟩

/-- **A comment can date a flag**, and annotates the field. -/
theorem comment_dates_flag :
    let l := "  a @0 :Bool;".toList
    let comment := "on since $compatEnableDate(\"2024-01-01\")".toList
    '#' ∉ l ∧ '\n' ∉ comment ∧
      (flag? l).map Flag.enableDate = some none ∧
      (flag? (l ++ remark comment)).map Flag.enableDate = some (some "2024-01-01") ∧
      (field? l).map Field.annotations = some [] ∧
      (field? (l ++ remark comment)).map Field.annotations =
        some ["$compatEnableDate(\"2024-01-01\")"] := by
  decide +kernel

end DeclAtlas.Compat
