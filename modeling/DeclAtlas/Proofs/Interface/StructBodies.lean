import DeclAtlas.Proofs.Interface.Overrides

/-!
# Overrides in the body of a value struct

The body of a value struct is read line by line for calls that write overrides.  A line begins one
if it mentions the macro anywhere, and a call takes the rest of its lines with it.  So a body is
read as it is written if its calls stand on lines of their own (`OverrideCall`) and no other line
mentions the macros (`Silent`): whatever its lines are, the reading comes to its end and has
recorded every call once and in order (`exists_reaches_parts`).
-/

namespace DeclAtlas

open Text Nesting

/-- No macro of overrides stands on a line. -/
def Silent (l : Line) : Prop :=
  ¬ OverrideKind.structOverride.macroName.toList <:+: l ∧
    ¬ OverrideKind.structDefine.macroName.toList <:+: l

instance (l : Line) : Decidable (Silent l) := inferInstanceAs (Decidable (_ ∧ _))

theorem structOverrideKind?_eq_none_iff {l : Line} : structOverrideKind? l = none ↔ Silent l := by
  simp only [structOverrideKind?, containsString, Silent, ← contains_iff]
  by_cases hoverride : contains OverrideKind.structOverride.macroName.toList l = true
  · simp [hoverride]
  · by_cases hdefine : contains OverrideKind.structDefine.macroName.toList l = true
    · simp [hoverride, hdefine]
    · simp [hoverride, hdefine]

theorem silent_append_cons {x : Char} (hx : isWord x = false) {a b : List Char} (ha : Silent a)
    (hb : Silent b) : Silent (a ++ x :: b) := by
  have hfree : ∀ kind : OverrideKind, x ∉ kind.macroName.toList := fun kind hmem =>
    absurd ((kind.isMacro.word x hmem).symm.trans hx) (by decide)
  rw [Silent, infix_append_cons_iff (hfree _), infix_append_cons_iff (hfree _)]
  exact ⟨not_or.mpr ⟨ha.1, hb.1⟩, not_or.mpr ⟨ha.2, hb.2⟩⟩

theorem structOverride?_of_silent {l : Line} (h : Silent l) (later : List Line) :
    structOverride? l later = none := by
  rw [structOverride?, structOverrideKind?_eq_none_iff.mpr h, Option.map_none]

/-- A call of an override of a value struct, on lines of its own. -/
structure OverrideCall where
  kind : OverrideKind
  call : SpannedCall kind.macroName.toList
  kind_eq : kind = .structOverride ∨ kind = .structDefine
  own_lines : ∀ c ∈ call.before, isBlank c = true
  /-- What follows the call leaves no parenthesis open. -/
  closed : parenDelta call.rest ≤ 0
  silent : ∀ l ∈ call.rest :: call.first :: call.later, Silent l

/-- Whether an override is the one that a call writes.  Its text is known if nothing closes behind
the call. -/
structure OverrideCall.Writes (c : OverrideCall) (o : DocOverride) : Prop where
  kind : o.kind = c.kind
  content : ')' ∉ c.call.rest → o.content = String.ofList c.call.argument

namespace OverrideCall

variable (c : OverrideCall)

theorem parenDelta_before : parenDelta c.call.before = 0 :=
  delta_eq_zero (Blanks.notMem ⟨_, c.own_lines⟩ (by decide))
    (Blanks.notMem ⟨_, c.own_lines⟩ (by decide))

theorem staysOpen : c.call.StaysOpen :=
  c.call.staysOpen_of_nonneg (Int.le_of_eq c.parenDelta_before.symm)

/-- On the first line of a call stands its macro, and a text that mentions none. -/
theorem exists_silent_head_eq : ∃ s, c.call.head = c.call.lead ++ '(' :: s ∧ Silent s := by
  obtain ⟨hrest, hlines⟩ := List.forall_mem_cons.mp c.silent
  have hfirst := hlines _ List.mem_cons_self
  obtain ⟨s, hhead, rfl | rfl⟩ := c.call.exists_head_eq
  · exact ⟨_, hhead, by rwa [List.append_nil]⟩
  · exact ⟨_, hhead, silent_append_cons (by decide) hfirst hrest⟩

/-- **The first line of a call shows its kind.** -/
theorem structOverrideKind?_head : structOverrideKind? c.call.head = some c.kind := by
  obtain ⟨s, hhead, hs⟩ := c.exists_silent_head_eq
  have hcontains : ∀ kind, c.kind = kind → contains kind.macroName.toList c.call.head = true := by
    rintro _ rfl
    rw [contains_iff, hhead, SpannedCall.lead]
    exact ⟨c.call.before, c.call.gap.text ++ '(' :: s, by simp⟩
  rcases c.kind_eq with hkind | hkind
  · rw [structOverrideKind?, containsString, if_pos (hcontains _ hkind), hkind]
  · -- the other macro has a letter that does not stand before the parenthesis
    have hletter : 'V' ∉ c.call.lead := by
      have hname : 'V' ∉ c.kind.macroName.toList := by
        rw [hkind]
        decide
      simp only [SpannedCall.lead, List.mem_append, not_or]
      exact ⟨Blanks.notMem ⟨_, c.own_lines⟩ (by decide), hname, c.call.gap.notMem (by decide)⟩
    have hother : ¬ contains OverrideKind.structOverride.macroName.toList c.call.head = true := by
      rw [contains_iff, hhead, infix_append_cons_iff (by decide), not_or]
      exact ⟨fun h => hletter (h.subset (by decide)), hs.1⟩
    rw [structOverrideKind?, containsString, containsString, if_neg hother,
      if_pos (hcontains _ hkind), hkind]

theorem exists_writes (after : List Line) :
    ∃ o, c.Writes o ∧ structOverride? c.call.head (c.call.lines.tail ++ after) =
      some (o, c.call.lines.tail.length) := by
  refine ⟨(gatherOverride c.kind (c.call.lines ++ after)).1, ⟨rfl, fun hrest => ?_⟩, ?_⟩
  · refine (content_gatherOverride_iff c.call after).mpr ⟨c.staysOpen, hrest, fun hopen => ?_⟩
    have hclosed := c.closed
    rw [c.parenDelta_before] at hopen
    omega
  · have hextra : (gather (c.call.lines ++ after)).extra = c.call.lines.tail.length :=
      SpannedCall.extra_gather c.kind.isMacro c.staysOpen (by
        rw [c.parenDelta_before, Int.zero_add]
        exact c.closed) after
    have hlines : c.call.head :: (c.call.lines.tail ++ after) = c.call.lines ++ after := by
      rw [← List.cons_append, ← c.call.lines_eq]
    rw [structOverride?, c.structOverrideKind?_head, Option.map_some, hlines, ← hextra]
    rfl

end OverrideCall

/-! ### Bodies -/

/-- A part of a body. -/
inductive BodyPart where
  /-- A line that mentions no override. -/
  | line (l : Line) (silent : Silent l)
  | override (c : OverrideCall)

namespace BodyPart

/-- The lines of a part. -/
def lines : BodyPart → List Line
  | line l _ => [l]
  | override c => c.call.lines

/-- The call that a part is, if it is one. -/
def override? : BodyPart → Option OverrideCall
  | line _ _ => none
  | override c => some c

end BodyPart

/-- The lines of a body. -/
def bodyLines (parts : List BodyPart) : List Line := parts.flatMap BodyPart.lines

/-- The calls in a body, in order. -/
def bodyCalls (parts : List BodyPart) : List OverrideCall := parts.filterMap BodyPart.override?

section Reading

variable {rest : List Line} {n : Nat}

/-- Lines that mention no override are passed over. -/
theorem reaches_silent {ls : List Line} (h : ∀ l ∈ ls, Silent l) {os : List DocOverride}
    (hrest : Reaches structOverride? rest os n) :
    Reaches structOverride? (ls ++ rest) os (ls.length + n) := by
  induction ls with
  | nil => rwa [List.nil_append, List.length_nil, Nat.zero_add]
  | cons l ls ih =>
    obtain ⟨hl, hls⟩ := List.forall_mem_cons.mp h
    rw [List.length_cons, Nat.succ_add]
    exact .pass (structOverride?_of_silent hl _) (ih hls)

/-- **A body is read to its end, and every call in it is recorded once and in order.** -/
theorem exists_reaches_parts (parts : List BodyPart) {os : List DocOverride}
    (hrest : Reaches structOverride? rest os n) :
    ∃ recorded, List.Forall₂ OverrideCall.Writes (bodyCalls parts) recorded ∧
      Reaches structOverride? (bodyLines parts ++ rest) (recorded ++ os)
        ((bodyLines parts).length + n) := by
  induction parts with
  | nil => exact ⟨[], .nil, by simpa [bodyLines] using hrest⟩
  | cons p parts ih =>
    obtain ⟨recorded, hrecorded, hreach⟩ := ih
    cases p with
    | line l silent =>
      refine ⟨recorded, hrecorded, ?_⟩
      have hpass := reaches_silent (List.forall_mem_singleton.mpr silent) hreach
      rwa [List.length_singleton, Nat.add_comm 1, Nat.add_right_comm] at hpass
    | override c =>
      obtain ⟨o, ho, hread⟩ := c.exists_writes (bodyLines parts ++ rest)
      refine ⟨o :: recorded, .cons ho hrecorded, ?_⟩
      have hlines : bodyLines (.override c :: parts) =
          c.call.head :: (c.call.lines.tail ++ bodyLines parts) := by
        rw [← List.cons_append, ← c.call.lines_eq]
        rfl
      have hform := Reaches.form hread (by rw [List.drop_left]; exact hreach)
      have hlength : (bodyLines (.override c :: parts)).length + n =
          c.call.lines.tail.length + ((bodyLines parts).length + n) + 1 := by
        rw [hlines, List.length_cons, List.length_append]
        omega
      rw [hlength, hlines, List.cons_append, List.append_assoc]
      exact hform

end Reading

end DeclAtlas
