import DeclAtlas.Proofs.Schema.WrittenLines

/-!
# Comments behind a declaration

A comment is written behind a line as two spaces, a number sign and a space (`remark`).  What a line
declares first, the name, the ordinal and the type of a field, is read off its beginning, which a
comment does not change (`declared?_append_remark`).  The text of the declaration is cut before the
comment (`beforeComment_append`), but only after the blanks around the line have been trimmed away:
a blank comment is then no comment any more, and its number sign stays
(`declarationText_append_remark_eq_iff`).
-/

namespace DeclAtlas.Schema

open Text

/-- A comment as it is written behind a line. -/
def remark (comment : List Char) : List Char := ' ' :: ' ' :: '#' :: ' ' :: comment

variable {l : Line} {comment k r s : List Char}

theorem startsIn_remark : StartsIn (isBlank · = true) (remark comment) := startsIn_cons (by decide)

theorem isBlank_of_mem_spaces : ∀ c ∈ [' ', ' '], isBlank c = true :=
  List.all_eq_true.mp (by decide)

/-- Only blanks stand before the number sign. -/
theorem isBlank_of_prefix_remark (h : s <+: remark comment) (hfree : '#' ∉ s) :
    ∀ c ∈ s, isBlank c = true := by
  obtain ⟨t, ht⟩ := h
  rcases List.append_eq_append_iff.mp (show s ++ t = [' ', ' '] ++ '#' :: ' ' :: comment from ht)
    with ⟨u, hu, -⟩ | ⟨u, rfl, hu⟩
  · exact fun c hc => isBlank_of_mem_spaces c (hu ▸ List.mem_append_left u hc)
  · cases u with
    | nil => exact isBlank_of_mem_spaces
    | cons d u =>
      obtain ⟨rfl, -⟩ := List.cons.inj hu
      exact absurd (List.mem_append_right _ List.mem_cons_self) hfree

/-! ### The beginning of a line -/

/-- **The head of a field** ends in a colon, holds no number sign, and is read whatever follows. -/
theorem exists_of_fieldHead? {name digits : List Char}
    (h : fieldHead? l = some ((name, digits), r)) :
    ∃ head, l = head ++ r ∧ '#' ∉ head ∧ head.getLast? = some ':' ∧
      ∀ t, fieldHead? (head ++ t) = some ((name, digits), t) := by
  simp only [fieldHead?, Option.bind_eq_bind, Option.bind_eq_some_iff, Option.some.injEq] at h
  obtain ⟨⟨w, s₂⟩, ⟨s₁, hindent, hword⟩, s₄, ⟨s₃, hgap, hat⟩, ⟨ds, s₅⟩, hdigits, s₇,
    ⟨s₆, hspace, hcolon⟩, hread⟩ := h
  obtain ⟨⟨rfl, rfl⟩, rfl⟩ := Prod.mk.injEq .. ▸ Prod.mk.injEq .. ▸ hread
  obtain ⟨indent, rfl⟩ := exists_gap_of_blanks? hindent
  obtain ⟨rfl, hne, hwords⟩ := run?_eq_some hword
  obtain ⟨gap, rfl⟩ := exists_gap_of_blanks? hgap
  obtain rfl := literal?_eq_some.mp hat
  obtain ⟨rfl, hds, hdigit⟩ := run?_eq_some hdigits
  obtain ⟨space, rfl⟩ := exists_gap_of_blanks? hspace
  obtain rfl := literal?_eq_some.mp hcolon
  have hwritten := fieldHead?_written indent ⟨w, hne, hwords⟩ gap space hds hdigit
  refine ⟨indent.text ++ (w ++ (gap.text ++ ('@' :: (ds ++ (space.text ++ [':']))))),
    ?_, ?_, ?_, ?_⟩
  · simp
  · intro hmem
    have hblank : isBlank '#' = false := by decide
    simp only [List.mem_append, List.mem_cons, List.not_mem_nil] at hmem
    rcases hmem with hmem | hmem | hmem | hmem | hmem | hmem | hmem | hmem
    · exact indent.notMem hblank hmem
    · exact absurd (hwords _ hmem) (by decide)
    · exact gap.notMem hblank hmem
    · exact absurd hmem (by decide)
    · exact absurd (hdigit _ hmem) (by decide)
    · exact space.notMem hblank hmem
    · exact absurd hmem (by decide)
    · exact hmem
  · simp [List.getLast?_append, List.getLast?_cons]
  · intro t
    rw [← hwritten t]
    simp

/-- **A comment does not change the head of a field**, and makes none. -/
theorem fieldHead?_append_remark (l : Line) (comment : List Char) :
    fieldHead? (l ++ remark comment) =
      (fieldHead? l).map fun x => (x.1, x.2 ++ remark comment) := by
  cases h : fieldHead? l with
  | some x =>
    obtain ⟨head, rfl, -, -, hread⟩ := exists_of_fieldHead? (r := x.2) h
    rw [List.append_assoc, hread]
    rfl
  | none =>
    cases hmore : fieldHead? (l ++ remark comment) with
    | none => rfl
    | some x =>
      obtain ⟨head, htext, hfree, hlast, hread⟩ := exists_of_fieldHead? (r := x.2) hmore
      rcases List.append_eq_append_iff.mp htext with ⟨u, rfl, hu⟩ | ⟨u, rfl, -⟩
      · -- the head would have to end in the comment, before its number sign
        have hblank := isBlank_of_prefix_remark ⟨x.2, hu.symm⟩
          fun hmem => hfree (List.mem_append_right l hmem)
        rcases List.eq_nil_or_concat u with rfl | ⟨v, c, rfl⟩
        · have hhead := hread []
          rw [List.append_nil, List.append_nil] at hhead
          exact absurd (h.symm.trans hhead) nofun
        · rw [List.concat_eq_append, ← List.append_assoc, List.getLast?_concat,
            Option.some.injEq] at hlast
          have hcolon := hblank c (by simp)
          rw [hlast] at hcolon
          exact absurd hcolon (by decide)
      · exact absurd (h.symm.trans (hread u)) nofun

/-- The name, the ordinal and the type of the field that a line declares. -/
def declared? (l : Line) : Option (String × Nat × String) := do
  let ((name, digits), s) ← fieldHead? l
  let (type, _) ← run? (!isBlank ·) s
  let ordinal ← asciiNatBelow? fieldOrdinalBound digits
  some (String.ofList name, ordinal,
    String.ofList (dropEndWhile (fun c => c == ';' || c == ',') type))

theorem field?_eq (l : Line) : field? l = (declared? l).map fun x =>
    ⟨x.1, x.2.1, x.2.2, (annotations l).map annotationText, declarationText l⟩ := by
  rw [field?, declared?]
  simp only [Option.bind_eq_bind, Option.map_bind, Function.comp_def, Option.map_some]

theorem declared?_append_remark (l : Line) (comment : List Char) :
    declared? (l ++ remark comment) = declared? l := by
  have hblank : StartsIn (fun c => (!isBlank c) = false) (remark comment) :=
    startsIn_cons (by decide)
  rw [declared?, declared?, fieldHead?_append_remark]
  cases fieldHead? l with
  | none => rfl
  | some x =>
    simp only [Option.map_some, Option.bind_eq_bind, Option.bind_some,
      run?_append_startsIn hblank, Option.bind_map, Function.comp_def]

theorem exists_of_declared? {x : String × Nat × String} (h : declared? l = some x) :
    ∃ c ∈ l, isBlank c = false := by
  rw [declared?, Option.bind_eq_bind, Option.bind_eq_some_iff] at h
  obtain ⟨y, hhead, -⟩ := h
  obtain ⟨head, rfl, -, hlast, -⟩ := exists_of_fieldHead? (r := y.2) hhead
  exact ⟨':', List.mem_append_left _ (List.mem_of_getLast? hlast), by decide⟩

/-! ### The text of a declaration -/

/-- Nothing is read as a comment unless a blank follows a number sign. -/
theorem exists_of_comment? (h : (comment? s).isSome = true) :
    ∃ (g : Gap) (c : Char) (r : List Char), s = g.text ++ '#' :: c :: r ∧ isBlank c = true := by
  obtain ⟨x, hx⟩ := Option.isSome_iff_exists.mp h
  simp only [comment?, Option.bind_eq_bind, Option.bind_eq_some_iff] at hx
  obtain ⟨s₂, ⟨s₁, hlead, hsign⟩, s₃, hgap, -⟩ := hx
  obtain ⟨g, rfl⟩ := exists_gap_of_blanks? hlead
  obtain rfl := literal?_eq_some.mp hsign
  obtain ⟨behind, rfl⟩ := exists_gap_of_blanks? hgap
  obtain ⟨c, t, hc⟩ := List.exists_cons_of_ne_nil behind.ne_nil
  refine ⟨g, c, t ++ s₃, ?_, behind.blank c (hc ▸ List.mem_cons_self)⟩
  rw [hc]
  rfl

theorem comment?_append (g : Gap) {c : Char} (hc : isBlank c = true) (r : List Char) :
    (comment? (g.text ++ '#' :: c :: r)).isSome = true := by
  have hsign : ∀ t, literal? "#" ('#' :: t) = some t := fun _ => rfl
  rw [comment?, g.read (startsIn_cons (by decide)), Option.bind_some, hsign]
  simp [blanks?, hc]

/-- A text has no comment in which no blank follows a number sign. -/
theorem beforeComment_eq_self (h : ∀ c r, '#' :: c :: r <:+ s → isBlank c = false) :
    beforeComment s = s := by
  induction s with
  | nil => rfl
  | cons d s ih =>
    have hnone : ¬ (comment? (d :: s)).isSome = true := by
      intro hsome
      obtain ⟨g, c, r, htext, hc⟩ := exists_of_comment? hsome
      exact absurd (hc.symm.trans (h c r ⟨g.text, htext.symm⟩)) (by decide)
    rw [beforeComment, if_neg hnone, ih]
    intro c r hr
    exact h c r (hr.trans (List.suffix_cons d s))

/-- **A declaration is cut before the blanks in front of its comment.** -/
theorem beforeComment_append (hfree : '#' ∉ k) (hlast : ∀ c ∈ k.getLast?, isBlank c = false)
    (g : Gap) {c : Char} (hc : isBlank c = true) (r : List Char) :
    beforeComment (k ++ (g.text ++ '#' :: c :: r)) = k := by
  induction k with
  | nil =>
    obtain ⟨d, t, hg⟩ := List.exists_cons_of_ne_nil g.ne_nil
    have hcomment := comment?_append g hc r
    rw [hg, List.cons_append] at hcomment
    rw [List.nil_append, hg, List.cons_append, beforeComment, if_pos hcomment]
  | cons d k ih =>
    have hnone : ¬ (comment? (d :: (k ++ (g.text ++ '#' :: c :: r)))).isSome = true := by
      intro hsome
      obtain ⟨g', c', r', htext, -⟩ := exists_of_comment? hsome
      -- the first number sign is that of the comment, so all before it would be blank
      have hsigns : '#' ∉ d :: k ++ g.text := by
        intro hmem
        rcases List.mem_append.mp hmem with hmem | hmem
        · exact hfree hmem
        · exact g.notMem (by decide) hmem
      have hsame : d :: k ++ g.text = g'.text := by
        refine eq_of_append_cons (b := c :: r) (r := c' :: r') hsigns (g'.notMem (by decide)) ?_
        rw [← htext]
        simp
      have hmem : (d :: k).getLast (List.cons_ne_nil d k) ∈ g'.text := by
        rw [← hsame]
        exact List.mem_append_left _ (List.getLast_mem _)
      have hnonblank := hlast _ (List.getLast?_eq_some_getLast (List.cons_ne_nil d k))
      exact absurd ((g'.blank _ hmem).symm.trans hnonblank) (by decide)
    rw [List.cons_append, beforeComment, if_neg hnone, ih]
    · exact fun hmem => hfree (List.mem_cons_of_mem d hmem)
    · intro e he
      refine hlast e ?_
      rw [List.getLast?_cons, Option.mem_def.mp he]
      rfl

theorem beforeComment_trim (hfree : '#' ∉ l) : beforeComment (trim l) = trim l := by
  refine beforeComment_eq_self fun c r hr => ?_
  have hmem : '#' ∈ trim l := hr.mem List.mem_cons_self
  exact absurd ((mem_trim_iff (by decide)).mp hmem) hfree

theorem trim_append_remark (hl : ∃ c ∈ l, isBlank c = false) (comment : List Char) :
    trim (l ++ remark comment) = trimStart l ++ ' ' :: ' ' :: '#' :: trimEnd (' ' :: comment) := by
  have hsign : l ++ remark comment = (l ++ [' ', ' ']) ++ '#' :: ' ' :: comment := by simp [remark]
  rw [hsign, trim_append_cons (by decide), trimStart_append_of_mem hl]
  simp

/-- A comment that says something is cut off. -/
theorem beforeComment_trim_append_remark (hfree : '#' ∉ l) (hl : ∃ c ∈ l, isBlank c = false)
    (hc : ∃ c ∈ comment, isBlank c = false) :
    beforeComment (trim (l ++ remark comment)) = trim l := by
  obtain ⟨c, hmem, hc⟩ := hc
  obtain ⟨u, v, rfl⟩ := List.append_of_mem hmem
  obtain ⟨b, hb⟩ := exists_trimStart_eq l
  have hspaces : ∀ d ∈ b.text ++ [' ', ' '], isBlank d = true := by
    intro d hd
    rcases List.mem_append.mp hd with hd | hd
    · exact b.blank d hd
    · exact isBlank_of_mem_spaces d hd
  have hgap : trim (l ++ remark (u ++ c :: v)) =
      trim l ++ ((b.text ++ [' ', ' ']) ++ '#' :: ' ' :: (u ++ c :: trimEnd v)) := by
    rw [trim_append_remark hl, hb, ← List.cons_append, trimEnd_append_cons hc]
    simp
  have hsign : '#' ∉ trim l := fun hmem => hfree ((mem_trim_iff (by decide)).mp hmem)
  rw [hgap]
  exact beforeComment_append hsign (fun d hd => getLast?_trim hd) ⟨⟨_, hspaces⟩, by simp⟩
    (by decide) _

/-- A blank comment loses the blank behind its number sign first. -/
theorem beforeComment_trim_append_blank (hfree : '#' ∉ l) (hl : ∃ c ∈ l, isBlank c = false)
    (hblank : ∀ c ∈ comment, isBlank c = true) :
    beforeComment (trim (l ++ remark comment)) = (trimStart l ++ [' ', ' ']) ++ ['#'] := by
  have hend : trimEnd (' ' :: comment) = [] := by
    have hall : ∀ c ∈ ' ' :: comment, isBlank c = true :=
      List.forall_mem_cons.mpr ⟨by decide, hblank⟩
    exact trimEnd_append_blanks [] ⟨_, hall⟩
  have htrim : trim (l ++ remark comment) = (trimStart l ++ [' ', ' ']) ++ ['#'] := by
    rw [trim_append_remark hl, hend]
    simp
  rw [htrim]
  refine beforeComment_eq_self fun c r hr => ?_
  rcases suffix_of_suffix_append hr with hr | ⟨v, hv, hne, heq⟩
  · exact absurd hr.length_le (by simp)
  · obtain ⟨d, v, rfl⟩ := List.exists_cons_of_ne_nil hne
    obtain ⟨rfl, -⟩ := List.cons.inj heq
    rcases List.mem_append.mp (hv.mem List.mem_cons_self) with hmem | hmem
    · exact absurd ((suffix_trimStart l).mem hmem) hfree
    · exact absurd hmem (by decide)

theorem prefix_dropEnd? (w s : List Char) : (dropEnd? w s).getD s <+: s := by
  cases h : dropEnd? w s with
  | none => exact List.prefix_rfl
  | some r =>
    obtain ⟨t, ht, rfl⟩ := Option.map_eq_some_iff.mp h
    rw [Option.getD_some, ← List.reverse_suffix, List.reverse_reverse, dropLead?_eq_some.mp ht]
    exact List.suffix_append _ t

/-- **A comment does not change the text of a declaration exactly if it is not blank.** -/
theorem declarationText_append_remark_eq_iff (hfree : '#' ∉ l) (hl : ∃ c ∈ l, isBlank c = false)
    (comment : List Char) :
    declarationText (l ++ remark comment) = declarationText l ↔
      ∃ c ∈ comment, isBlank c = false := by
  by_cases hc : ∃ c ∈ comment, isBlank c = false
  · refine iff_of_true ?_ hc
    rw [declarationText, declarationText, beforeComment_trim_append_remark hfree hl hc,
      beforeComment_trim hfree]
  · refine iff_of_false (fun heq => ?_) hc
    have hblank : ∀ c ∈ comment, isBlank c = true := by simpa using hc
    have hkept : ∀ t, dropEnd? [';'] (t ++ ['#']) = none := by
      intro t
      rw [dropEnd?, List.reverse_concat]
      rfl
    rw [declarationText, declarationText, beforeComment_trim_append_blank hfree hl hblank,
      beforeComment_trim hfree, hkept, Option.getD_none, String.ofList_inj] at heq
    have hmem : '#' ∈ trim l := by
      refine (prefix_dropEnd? [';'] (trim l)).mem ?_
      rw [← heq]
      exact List.mem_append_right _ List.mem_cons_self
    exact hfree ((mem_trim_iff (by decide)).mp hmem)

end DeclAtlas.Schema
