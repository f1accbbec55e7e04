import DeclAtlas.Proofs.Interface.Cuts
import DeclAtlas.Proofs.Nesting.BlockLines
import DeclAtlas.Proofs.Nesting.Loops

/-!
# The loops that read overrides

Two loops gather calls: the one over a registration block, and the one over the declaration of a value
struct.  Both are loops in the sense of `Nesting.Loop`, each with its own lines that begin a call
(`opensOverride`, `mentionsOverride`), and what is read of a file is what is read in their turns.  So
both end on every text, and no line is read twice or missed (`scanning_loops_end`), whether the
parentheses of a call are balanced, close too early or stay open to the end.

The loop over a declaration is bounded by its block, but a call that begins in the block is gathered
beyond it where it stays open; it still ends within the file.
-/

namespace DeclAtlas

open Text Nesting

/-! ### Lines that begin a call -/

/-- Whether a call is gathered on a line of a registration block. -/
def opensOverride (l : Line) : Bool := (overrideOn? l).isSome

/-- Whether a call is gathered on a line of a declaration. -/
def mentionsOverride (l : Line) : Bool := (structOverrideKind? l).isSome

theorem gathersOn_entryWith? : GathersOn opensOverride (entryWith? forms) where
  extra_gathered := by
    intro l hopens later
    obtain ⟨kind, hkind⟩ := Option.isSome_iff_exists.mp hopens
    exact ⟨_, entryWith?_of_overrideOn? hkind later⟩
  extra_passed := by
    intro l hopens later e extra hread
    obtain ⟨e?, he⟩ := exists_entryWith?_eq
      (Option.not_isSome_iff_eq_none.mp (Bool.eq_false_iff.mp hopens))
    rw [he, Option.map_eq_some_iff] at hread
    obtain ⟨e', -, heq⟩ := hread
    exact (Prod.mk.inj heq).2.symm

theorem gathersOn_structOverride? : GathersOn mentionsOverride structOverride? where
  extra_gathered := by
    intro l hopens later
    obtain ⟨kind, hkind⟩ := Option.isSome_iff_exists.mp hopens
    rw [structOverride?, hkind]
    exact ⟨_, rfl⟩
  extra_passed := by
    intro l hopens later a extra hread
    rw [structOverride?, Option.not_isSome_iff_eq_none.mp (Bool.eq_false_iff.mp hopens)] at hread
    cases hread

/-! ### The lines of a declaration -/

/-- The overrides of a declaration are looked for on lines of the file. -/
theorem add_bodyLength_le {ls : List Line} {owner : Nat} (howner : owner < ls.length) :
    owner + bodyLength ls owner ≤ ls.length := by
  rw [bodyLength]
  cases hblock : blockAt? ls owner with
  | none =>
    have hlength : ls.length - 1 + 1 = ls.length := Nat.sub_add_cancel (by omega)
    dsimp only
    omega
  | some b =>
    have hlast := (endsAt_of_blockAt? hblock).1.lt_length
    dsimp only
    omega

/-! ### Both loops -/

/-- A loop over the lines from `start` up to `bound`, that one not included, that ends on every
text, consumes the lines in order and reads `read` in its turns. -/
structure Scans {α : Type} (begins : Line → Bool) (read? : Line → List Line → Option (α × Nat))
    (ls : List Line) (start bound : Nat) (read : List α) : Prop where
  ends : ∃ ts stop, Loop begins ls bound start ts stop
  within : ∀ {ts stop}, Loop begins ls bound start ts stop → bound ≤ stop ∧ stop ≤ ls.length
  orderly : ∀ {ts stop}, Loop begins ls bound start ts stop → Orderly ls start stop ts
  reads : ∀ {ts stop}, Loop begins ls bound start ts stop →
    read = ts.filterMap fun t => readAt? read? ls t.first

theorem scans_readForms {α : Type} {begins : Line → Bool}
    {read? : Line → List Line → Option (α × Nat)} (hread : GathersOn begins read?)
    {ls : List Line} {start bound : Nat} (hstart : start ≤ ls.length) (hbound : bound ≤ ls.length) :
    Scans begins read? ls start bound (readForms read? (bound - start) 0 (ls.drop start)) where
  ends := exists_loop hbound start
  within := fun h => ⟨(h.bounds hstart).1, (h.bounds hstart).2.2⟩
  orderly := fun h => h.orderly hstart
  reads := fun h => h.readForms_eq hread

/-- **The loops that gather calls come to their end.**  A call that is gathered on a line of a text
ends on a line of the text: the first one from there on after which the balance of parentheses is at
most zero, or the last line if there is none.  So the loop over a registration block and the one over
the declaration of a value struct end on all lines; their turns begin on ever later lines, and each
line that a loop reaches is consumed in one turn, alone or with the lines of the call that is gathered
there.  What they read is what is recorded. -/
theorem scanning_loops_end :
    (∀ (ls : List Line) (i last : Nat), i < ls.length →
      (EndsAt parenDelta ls i last ↔ last = lastGathered ls i)) ∧
    (∀ block : List Line,
      Scans opensOverride (entryWith? forms) block 0 block.length (entries block)) ∧
    ∀ (ls : List Line) (owner : Nat), owner < ls.length →
      owner + bodyLength ls owner ≤ ls.length ∧
      Scans mentionsOverride structOverride? ls owner (owner + bodyLength ls owner)
        (structOverrides ls owner) := by
  refine ⟨fun ls i last hi => endsAt_iff hi, fun block => ?_, fun ls owner howner => ?_⟩
  · exact scans_readForms gathersOn_entryWith? (Nat.zero_le _) (Nat.le_refl _)
  · have hbound := add_bodyLength_le howner
    have hscans := scans_readForms gathersOn_structOverride? (Nat.le_of_lt howner) hbound
    rw [Nat.add_sub_cancel_left, ← structOverrides_eq] at hscans
    exact ⟨hbound, hscans⟩

/-- A call that stays open in a declaration: it is gathered beyond the block, up to the last line of
the file, and the loop ends there. -/
theorem scanning_loops_end_open :
    let ls := ["struct A \x7b".toList, "JSG_STRUCT_TS_OVERRIDE(".toList, "\x7d;".toList, ['b']]
    let ts : List Turn := [⟨0, 0, false⟩, ⟨1, 3, true⟩]
    (1 < ls.length ∧ EndsAt parenDelta ls 1 3) ∧
      0 + bodyLength ls 0 = 3 ∧ Loop mentionsOverride ls 3 0 ts 4 ∧ Orderly ls 0 4 ts := by
  intro ls ts
  have hgathered : lastGathered ls 1 = 3 := by decide +kernel
  have hbody : bodyLength ls 0 = 3 := by decide +kernel
  have hloop : Loop mentionsOverride ls 3 0 ts 4 := by
    refine .passed (by decide) rfl (by decide +kernel) ?_
    have hcall : Loop mentionsOverride ls 3 1 [⟨1, lastGathered ls 1, true⟩] 4 := by
      refine .gathered (by decide) rfl (by decide +kernel) ?_
      rw [hgathered]
      exact .ended (by decide)
    rwa [hgathered] at hcall
  obtain ⟨hends, -, hdeclaration⟩ := scanning_loops_end
  have hscans := (hdeclaration ls 0 (by decide)).2
  rw [hbody] at hscans
  exact ⟨⟨by decide, (hends ls 1 3 (by decide)).mpr hgathered.symm⟩, by rw [hbody], hloop,
    hscans.orderly hloop⟩

end DeclAtlas
