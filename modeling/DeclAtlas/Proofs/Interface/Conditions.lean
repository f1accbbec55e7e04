import DeclAtlas.Proofs.Interface.Confinement
import DeclAtlas.Proofs.Interface.Growth
import DeclAtlas.Proofs.Interface.Markers
import DeclAtlas.Proofs.Nesting.Extent
import DeclAtlas.Proofs.Nesting.SpannedCalls

/-!
# Conditions of registrations

A marker may carry a condition behind the name of its type, and may be broken over lines behind the
comma (`ConditionalMarker`).  Its block is then still found, because the opening brace is looked for
on some lines after that of the marker.  The condition is not: what is reported is the part of it on
the marker's own line, and no condition at all if nothing is there (`findMarker?_append`).  So the
condition is reported as on one line exactly if what stands on the further lines is blank
(`registration_conditionalMarker`), and otherwise it is cut short or lost (`condition_lost`).
-/

namespace DeclAtlas

open Text Nesting

/-- A resource marker with a condition, broken over lines behind the comma or not at all. -/
structure ConditionalMarker where
  /-- The blanks before the macro. -/
  indent : Blanks
  /-- The blanks before the opening parenthesis. -/
  gap : Blanks
  /-- The blanks before the name of the type. -/
  lead : Blanks
  name : Word
  /-- The blanks before the comma. -/
  trail : Blanks
  /-- What stands behind the comma on the line of the marker. -/
  first : Line
  /-- What stands of the condition on further lines. -/
  later : List Line
  /-- What follows the closing parenthesis on its line. -/
  rest : List Char
  /-- The closing parenthesis is the first one behind the comma. -/
  closing : ∀ l ∈ first :: later, ')' ∉ l
  condition_ne_nil : trim (joinWith [' '] ((first :: later).map trim)) ≠ []

/-- A condition as it is reported; one that is blank is none. -/
def reportedCondition (s : List Char) : Option String :=
  if trim s = [] then none else some (String.ofList (trim s))

namespace ConditionalMarker

variable (m : ConditionalMarker)

/-- The marker up to its name. -/
def opened (s : List Char) : List Char :=
  resourceMacro.toList ++ (m.gap.text ++ '(' :: (m.lead.text ++ (m.name.text ++ s)))

/-- The lines of the marker. -/
def lines : List Line :=
  closed m.rest (m.indent.text ++ m.opened (m.trail.text ++ ',' :: m.first)) m.later

/-- The condition, its lines trimmed and joined by single spaces. -/
def condition : List Char := trim (joinWith [' '] ((m.first :: m.later).map trim))

end ConditionalMarker

/-! ### Reading the marker -/

theorem afterBlanks_append {α : Type} {k : List Char → Option α} {r : List Char} {a : α}
    (b : Blanks) (hr : StartsIn (isBlank · = false) r) (h : k r = some a) :
    afterBlanks k (b.text ++ r) = some a := by
  obtain ⟨text, hblank⟩ := b
  dsimp only
  induction text with
  | nil =>
    cases r with
    | nil => exact h
    | cons c r =>
      have hc : isBlank c = false := hr c rfl
      rw [List.nil_append, afterBlanks, if_neg (by rw [hc]; exact Bool.false_ne_true), h]
  | cons c text ih =>
    obtain ⟨hc, htext⟩ := List.forall_mem_cons.mp hblank
    rw [List.cons_append, afterBlanks, if_pos hc, ih htext, Option.some_or]

/-- No marker begins with a blank. -/
theorem marker?_eq_none {name s : List Char} {c : Char} (hc : isBlank c = true) :
    marker? name (c :: s) = none := by
  rw [← Option.not_isSome_iff_eq_none, isSome_marker?_iff]
  rintro ⟨a, b, r, h, -⟩
  obtain rfl : c = 'J' := (List.cons.inj h).1
  exact absurd hc (by decide)

/-- What stands behind the comma is reported up to the closing parenthesis. -/
theorem condition?_append (b : Blanks) {s t : List Char} (hs : ')' ∉ s)
    (ht : ∀ c ∈ t.head?, c = ')') :
    condition? (b.text ++ ',' :: (s ++ t)) = reportedCondition s := by
  have htake : (s ++ t).takeWhile (· != ')') = s :=
    takeWhile_append_of_head (bne_of_notMem hs) fun c hc => by
      rw [ht c hc]
      exact bne_self_eq_false ')'
  rw [condition?, b.skip (startsIn_cons (by decide)), Form.literal?_comma]
  dsimp only
  rw [htake, reportedCondition]
  simp only [List.isEmpty_iff]

namespace ConditionalMarker

variable (m : ConditionalMarker)

theorem marker?_opened {s : List Char} (hs : StartsIn (isWord · = false) s) :
    marker? m.name.text (m.opened s) = some (condition? s, s) := by
  have hname : nameAt? m.name.text (m.name.text ++ s) = some s := by
    rw [nameAt?, dropLead?_eq_some.mpr rfl, Option.filter_some,
      if_pos ((boundaryAfter_iff m.name).mpr hs)]
  rw [marker?, opened, Form.opening?_append]
  simp only [Option.bind_eq_bind, Option.bind_some,
    afterBlanks_append m.lead m.name.startsIn_not_blank hname]

/-- **On the line of a marker the part of the condition that stands there is found.** -/
theorem findMatch?_line {t : List Char} (ht : ∀ c ∈ t.head?, c = ')') :
    findMatch? (marker? m.name.text)
      (m.indent.text ++ m.opened (m.trail.text ++ ',' :: (m.first ++ t))) =
        some (reportedCondition m.first) := by
  have hread := m.marker?_opened (m.trail.startsIn_not_word
    (startsIn_cons (show isWord ',' = false by decide) (s := m.first ++ t)))
  rw [findMatch?_append, findMatch?_of_head hread,
    condition?_append m.trail (m.closing m.first List.mem_cons_self) ht]
  intro u v huv hv
  obtain ⟨c, v, rfl⟩ := List.exists_cons_of_ne_nil hv
  exact marker?_eq_none (m.indent.blank c (huv ▸ List.mem_append_right u List.mem_cons_self))

theorem exists_lines_eq : ∃ t later, (∀ c ∈ t.head?, c = ')') ∧ m.lines =
    (m.indent.text ++ m.opened (m.trail.text ++ ',' :: (m.first ++ t))) :: later := by
  rw [lines]
  cases m.later with
  | nil =>
    refine ⟨')' :: m.rest, [], by rintro c ⟨⟩; rfl, ?_⟩
    simp only [closed, opened, List.append_assoc, List.cons_append]
  | cons l later =>
    exact ⟨[], closed m.rest l later, by rintro c ⟨⟩, by rw [List.append_nil, closed]⟩

/-- **The part of the condition on the line of the marker is found with it.** -/
theorem findMarker?_append {above below : List Line}
    (habove : findMarker? m.name.text above = none) :
    findMarker? m.name.text (above ++ (m.lines ++ below)) =
      some (above.length, reportedCondition m.first) := by
  obtain ⟨t, later, ht, hlines⟩ := m.exists_lines_eq
  rw [findMarker?] at habove ⊢
  rw [List.zipIdx_append, List.findSome?_append, habove, Option.none_or, hlines, List.cons_append,
    List.zipIdx_cons, List.findSome?_cons, m.findMatch?_line ht, Nat.zero_add]
  rfl

/-! ### The condition -/

/-- Blank lines add nothing to the condition. -/
theorem condition_of_blank (h : ∀ l ∈ m.later, trim l = []) : m.condition = trim m.first := by
  obtain ⟨a, ha⟩ := exists_trimEnd_eq m.first
  have hspaces : ∀ c ∈ (m.later.map trim).flatMap (' ' :: ·), isBlank c = true := by
    intro c hc
    obtain ⟨_, hmem, hc⟩ := List.mem_flatMap.mp hc
    obtain ⟨l, hl, rfl⟩ := List.mem_map.mp hmem
    rw [h l hl, List.mem_singleton] at hc
    rw [hc]
    decide
  calc m.condition = trim (joinedAfter m.first m.later ++ Blanks.none.text) :=
        (trim_joinedAfter m.first m.later .none).symm
    _ = trim (a.text ++ (trim m.first ++ (m.later.map trim).flatMap (' ' :: ·))) := by
        rw [joinedAfter, ha, Blanks.none, List.append_nil, List.append_assoc]
    _ = trim (trim m.first) := trim_blanks_append a ⟨_, hspaces⟩ _
    _ = trim m.first := trim_trim m.first

/-- **What is reported is the whole condition** exactly if the further lines are blank. -/
theorem reportedCondition_eq_iff :
    reportedCondition m.first = some (String.ofList m.condition) ↔ ∀ l ∈ m.later, trim l = [] := by
  constructor
  · intro h l hl
    have hsame : trim m.first = m.condition := by
      by_cases hnil : trim m.first = []
      · rw [reportedCondition, if_pos hnil] at h
        exact absurd h nofun
      · rw [reportedCondition, if_neg hnil] at h
        exact String.ofList_injective (Option.some.inj h)
    -- what is not blank on a further line is counted in the condition, but not on the first line
    refine trim_eq_nil_iff.mpr fun c hc => ?_
    by_contra hblank
    have hcount : m.condition.count c = _ :=
      count_trim_joinWith (Bool.eq_false_iff.mpr hblank) m.first m.later
    rw [← hsame, count_trim (Bool.eq_false_iff.mpr hblank), List.flatten_cons,
      List.count_append] at hcount
    have hpos : 0 < m.later.flatten.count c :=
      List.count_pos_iff.mpr (List.mem_flatten_of_mem hl hc)
    omega
  · intro h
    have hfirst := m.condition_of_blank h
    have hne : trim m.first ≠ [] := hfirst ▸ m.condition_ne_nil
    rw [reportedCondition, if_neg hne, hfirst]

end ConditionalMarker

/-- A registration has the place of its marker and the condition found with it. -/
theorem exists_readResource {typeName content : String} {n : Nat} {condition : Option String}
    {block : Block} (file : String)
    (hadmitted : Pattern.isAdmitted (conditionPattern typeName) = true)
    (hmarker : findMarker? typeName.toList (linesOf content) = some (n, condition))
    (hblock : blockAt? (linesOf content) n = some block) :
    ∃ i, readResource typeName file content = .ok i ∧ i.location = ⟨file, n + 1⟩ ∧
      i.registration = .resource condition := by
  rw [readResource, if_pos hadmitted, Interface.ofResource_eq_ok hmarker hblock]
  have hgrows := Interface.growsTo_addAll (entries block.lines)
    { Interface.empty typeName (.resource condition) with location := ⟨file, n + 1⟩ }
  exact ⟨_, rfl, hgrows.location, hgrows.registration⟩

/-- **The condition of a marker that is broken over lines.**  Wherever a marker with a condition is
broken behind its comma, its registration is found on the line of the marker, as long as an opening
brace is in reach.  The condition that is reported is the part that stands on this line.  This is the
condition of the marker, its lines trimmed and joined by single spaces, exactly if its further lines
are blank, as they are if it is written on one line. -/
theorem registration_conditionalMarker (m : ConditionalMarker) (file content : String)
    (above below : List Line) (hlines : linesOf content = above ++ (m.lines ++ below))
    (habove : findMarker? m.name.text above = none)
    (hopen : ∃ i < lookahead, Opens (m.lines ++ below) i)
    (hadmitted : Pattern.isAdmitted (conditionPattern m.name.name) = true) :
    ∃ i, readResource m.name.name file content = .ok i ∧
      i.location = ⟨file, above.length + 1⟩ ∧
      i.registration = .resource (reportedCondition m.first) ∧
      (i.registration = .resource (some (String.ofList m.condition)) ↔
        ∀ l ∈ m.later, trim l = []) := by
  have hname : m.name.name.toList = m.name.text := String.toList_ofList
  have hmarker : findMarker? m.name.name.toList (linesOf content) =
      some (above.length, reportedCondition m.first) := by
    rw [hname, hlines]
    exact m.findMarker?_append habove
  obtain ⟨block, hblock⟩ : ∃ block, blockAt? (linesOf content) above.length = some block := by
    rw [hlines]
    exact exists_blockAt?_append above hopen
  obtain ⟨i, hread, hlocation, hregistration⟩ := exists_readResource file hadmitted hmarker hblock
  refine ⟨i, hread, hlocation, hregistration, ?_⟩
  rw [hregistration, Registration.resource.injEq]
  exact m.reportedCondition_eq_iff

/-- A condition that is broken inside. -/
theorem registration_conditionalMarker_cut :
    let content := "class Foo \x7b\n  JSG_RESOURCE_TYPE(Foo, CompatibilityFlags::Reader\n" ++
      "      flags) \x7b\n  \x7d\n\x7d;\n"
    ∃ i, readResource "Foo" "t.h" content = .ok i ∧ i.location = ⟨"t.h", 2⟩ ∧
      i.registration = .resource (some "CompatibilityFlags::Reader") ∧
      i.registration ≠ .resource (some "CompatibilityFlags::Reader flags") := by
  intro content
  let m : ConditionalMarker :=
    { indent := ⟨[' ', ' '], List.all_eq_true.mp (by decide)⟩
      gap := .none
      lead := .none
      name := .ofList "Foo".toList (by decide) (by decide)
      trail := .none
      first := " CompatibilityFlags::Reader".toList
      later := ["      flags".toList]
      rest := " \x7b".toList
      closing := by decide +kernel
      condition_ne_nil := by decide +kernel }
  have hcondition : String.ofList m.condition = "CompatibilityFlags::Reader flags" := by
    decide +kernel
  have hreported : reportedCondition m.first = some "CompatibilityFlags::Reader" := by
    decide +kernel
  have hadmitted : Pattern.isAdmitted (conditionPattern m.name.name) = true :=
    isAdmitted_conditionPattern (by decide +kernel) (by decide +kernel)
  obtain ⟨i, hread, hlocation, hregistration, hwhole⟩ :=
    registration_conditionalMarker m "t.h" content ["class Foo \x7b".toList]
      ["  \x7d".toList, "\x7d;".toList] (by decide +kernel) (by decide +kernel)
      ⟨1, by decide, _, rfl, by decide +kernel⟩ hadmitted
  rw [hcondition] at hwhole
  rw [hreported] at hregistration
  exact ⟨i, hread, hlocation, hregistration, fun h => absurd (hwhole.mp h) (by decide)⟩

/-- **A condition is lost** if the marker is broken before it, though it is found on one line. -/
theorem condition_lost :
    let broken := "JSG_RESOURCE_TYPE(Foo,\n    CompatibilityFlags::Reader flags)\n\x7b\n\x7d\n"
    let oneLine := "JSG_RESOURCE_TYPE(Foo, CompatibilityFlags::Reader flags)\n\x7b\n\x7d\n"
    (∃ i, readResource "Foo" "t.h" broken = .ok i ∧ i.registration = .resource none) ∧
      ∃ i, readResource "Foo" "t.h" oneLine = .ok i ∧
        i.registration = .resource (some "CompatibilityFlags::Reader flags") := by
  intro broken oneLine
  have hadmitted : Pattern.isAdmitted (conditionPattern "Foo") = true :=
    isAdmitted_conditionPattern (by decide +kernel) (by decide +kernel)
  have hbroken : findMarker? "Foo".toList (linesOf broken) = some (0, none) := by decide +kernel
  have honeLine : findMarker? "Foo".toList (linesOf oneLine) =
      some (0, some "CompatibilityFlags::Reader flags") := by decide +kernel
  have hblock : blockAt? (linesOf broken) 0 = some ⟨2, [['\x7b'], ['\x7d']]⟩ := by decide +kernel
  have hblock' : blockAt? (linesOf oneLine) 0 = some ⟨1, [['\x7b'], ['\x7d']]⟩ := by decide +kernel
  obtain ⟨i, hi, -, hlost⟩ := exists_readResource "t.h" hadmitted hbroken hblock
  obtain ⟨j, hj, -, hfound⟩ := exists_readResource "t.h" hadmitted honeLine hblock'
  exact ⟨⟨i, hi, hlost⟩, ⟨j, hj, hfound⟩⟩

end DeclAtlas
