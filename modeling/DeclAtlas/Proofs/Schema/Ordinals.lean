import DeclAtlas.Proofs.Schema.Conservation

/-!
# Ordinals that are free

A record names one ordinal as the next one and some below it as gaps.  For records that were read
from a schema these are exactly the ordinals that no field uses: everything below the next ordinal
is either in use or a gap (`lt_nextOrdinal_iff`), and the next ordinal is the least number above
all that are in use.

The bound on written ordinals matters.  `nextOrdinal` stops at the largest 32-bit number, so a
record with a field there would be offered that field's own ordinal; a field that was read lies
below `fieldOrdinalBound` (`ordinal_lt_of_mem_parse`), so this never happens.
-/

namespace DeclAtlas.Schema

open Text

/-! ### Bounded ordinals -/

theorem asciiNatBelow?_lt {bound n : Nat} {s : List Char} (h : asciiNatBelow? bound s = some n) :
    n < bound := by
  simpa using (Option.filter_eq_some_iff.mp h).2

theorem ordinal_lt_of_field? {l : Line} {f : Field} (h : field? l = some f) :
    f.ordinal < fieldOrdinalBound := by
  simp only [field?, Option.bind_eq_bind, Option.bind_eq_some_iff, Option.some.injEq] at h
  obtain ⟨_, -, _, -, n, hn, rfl⟩ := h
  exact asciiNatBelow?_lt hn

/-- **Every field of a record that was read has a 16-bit ordinal.** -/
theorem ordinal_lt_of_mem_parse {text : String} {r : Record} (hr : r ∈ parse text) {f : Field}
    (hf : f ∈ r.fields) : f.ordinal < fieldOrdinalBound := by
  have hmem : f ∈ (parse text).flatMap Record.fields := List.mem_flatMap.mpr ⟨r, hr, hf⟩
  have hdeclared :=
    (Reading.perm_fields_foldl Reading.holdsTogether_start (linesOf text)).mem_iff.mp hmem
  rw [List.mem_append] at hdeclared
  rcases hdeclared with h | h
  · exact absurd h (by simp [Reading.records, Reading.start])
  · obtain ⟨p, -, hp⟩ := List.mem_filterMap.mp h
    unfold Reading.fieldInside? at hp
    split at hp
    · exact ordinal_lt_of_field? hp
    · exact absurd hp (by simp)

namespace Record

variable {r : Record}

/-! ### Next ordinal and gaps -/

/-- A record whose ordinals stay away from the limit. -/
def Small (r : Record) : Prop := ∀ n ∈ r.ordinals, n < fieldOrdinalBound

theorem nextOrdinal_of_max {m : Nat} (hr : r.Small) (hm : r.maxOrdinal? = some m) :
    r.nextOrdinal = m + 1 := by
  have hlt := hr m (List.max?_eq_some_iff.mp hm).1
  simp only [fieldOrdinalBound] at hlt
  rw [nextOrdinal, hm]
  exact Nat.min_eq_left (by rw [ordinalLimit]; omega)

theorem ordinals_eq_nil_of_max (hm : r.maxOrdinal? = none) : r.ordinals = [] :=
  List.max?_eq_none_iff.mp hm

theorem lt_nextOrdinal (hr : r.Small) {n : Nat} (hn : n ∈ r.ordinals) : n < r.nextOrdinal := by
  cases hm : r.maxOrdinal? with
  | none => rw [ordinals_eq_nil_of_max hm] at hn; exact absurd hn (by simp)
  | some m =>
    rw [nextOrdinal_of_max hr hm]
    exact Nat.lt_succ_of_le ((List.max?_eq_some_iff.mp hm).2 n hn)

/-- At the limit the number that is offered is in use. -/
example : let r : Record := ⟨"R", "R", [⟨"a", ordinalLimit, "Text", [], "a"⟩], [], []⟩
    r.nextOrdinal ∈ r.ordinals := by
  decide

/-- The next ordinal is the least above all in use. -/
theorem nextOrdinal_le (hr : r.Small) {n : Nat} (hn : ∀ k ∈ r.ordinals, k < n) :
    r.nextOrdinal ≤ n := by
  cases hm : r.maxOrdinal? with
  | none => rw [nextOrdinal, hm]; exact Nat.zero_le n
  | some m =>
    rw [nextOrdinal_of_max hr hm]
    exact hn m (List.max?_eq_some_iff.mp hm).1

theorem mem_gaps_iff (hr : r.Small) {n : Nat} :
    n ∈ r.gaps ↔ n < r.nextOrdinal ∧ n ∉ r.ordinals := by
  cases hm : r.maxOrdinal? with
  | none => simp [gaps, nextOrdinal, hm]
  | some m =>
    rw [nextOrdinal_of_max hr hm, gaps, hm]
    simp only [List.mem_filter, List.mem_range, Bool.not_eq_true', List.contains_eq_mem,
      decide_eq_false_iff_not]
    -- the largest ordinal itself is in use, so it makes no difference
    have hmax := (List.max?_eq_some_iff.mp hm).1
    constructor
    · rintro ⟨hlt, hn⟩
      exact ⟨Nat.lt_succ_of_lt hlt, hn⟩
    · rintro ⟨hlt, hn⟩
      refine ⟨Nat.lt_of_le_of_ne (Nat.le_of_lt_succ hlt) ?_, hn⟩
      rintro rfl
      exact hn hmax

/-- **Below the next ordinal everything is in use or a gap.** -/
theorem lt_nextOrdinal_iff (hr : r.Small) (n : Nat) :
    n < r.nextOrdinal ↔ n ∈ r.ordinals ∨ n ∈ r.gaps := by
  rw [mem_gaps_iff hr]
  constructor
  · intro h
    by_cases hn : n ∈ r.ordinals
    · exact .inl hn
    · exact .inr ⟨h, hn⟩
  · rintro (h | h)
    · exact lt_nextOrdinal hr h
    · exact h.1

theorem gaps_pairwise (r : Record) : r.gaps.Pairwise (· < ·) := by
  unfold gaps
  cases r.maxOrdinal? with
  | none => exact .nil
  | some m => exact List.pairwise_lt_range.filter _

theorem small_of_mem_parse {text : String} (hr : r ∈ parse text) : r.Small := by
  intro n hn
  obtain ⟨f, hf, rfl⟩ := List.mem_map.mp hn
  exact ordinal_lt_of_mem_parse hr hf

end Record

/-- **The ordinals a record offers are free, and all of them are offered.**  The next ordinal of a
record that was read lies above every ordinal in use, is the least number that does, and is never
cut off at the limit; the ordinals in use and the gaps share no number and make up all numbers below
it; and the gaps ascend. -/
theorem free_ordinals_of_parse (text : String) (r : Record) (hr : r ∈ parse text) :
    (∀ f ∈ r.fields, f.ordinal < r.nextOrdinal) ∧
    (∀ n, (∀ f ∈ r.fields, f.ordinal < n) → r.nextOrdinal ≤ n) ∧
    r.nextOrdinal ≤ 65536 ∧
    (∀ m, r.maxOrdinal? = some m → r.nextOrdinal = m + 1) ∧
    (∀ n, n < r.nextOrdinal ↔ (∃ f ∈ r.fields, f.ordinal = n) ∨ n ∈ r.gaps) ∧
    (∀ n ∈ r.gaps, ∀ f ∈ r.fields, f.ordinal ≠ n) ∧
    r.gaps.Pairwise (· < ·) := by
  have hsmall := Record.small_of_mem_parse hr
  have hmem : ∀ {n}, n ∈ r.ordinals ↔ ∃ f ∈ r.fields, f.ordinal = n := List.mem_map
  have hleast : ∀ n, (∀ f ∈ r.fields, f.ordinal < n) → r.nextOrdinal ≤ n := by
    intro n hn
    refine Record.nextOrdinal_le hsmall fun k hk => ?_
    obtain ⟨f, hf, rfl⟩ := hmem.mp hk
    exact hn f hf
  refine ⟨fun f hf => Record.lt_nextOrdinal hsmall (hmem.mpr ⟨f, hf, rfl⟩), hleast,
    hleast _ fun f hf => ordinal_lt_of_mem_parse hr hf,
    fun m hm => Record.nextOrdinal_of_max hsmall hm, fun n => ?_, fun n hn f hf e => ?_,
    r.gaps_pairwise⟩
  · rw [Record.lt_nextOrdinal_iff hsmall n, hmem]
  · exact ((Record.mem_gaps_iff hsmall).mp hn).2 (hmem.mpr ⟨f, hf, e⟩)

/-- A record with a retired ordinal, and with fields out of order. -/
theorem free_ordinals_of_flags :
    let r : Record := ⟨"Flags", "Flags",
      [⟨"b", 3, "Bool", [], "b @3 :Bool"⟩, ⟨"a", 0, "Bool", [], "a @0 :Bool"⟩,
        ⟨"c", 1, "Text", [], "c @1 :Text"⟩], [], []⟩
    let text := "struct Flags @0x1 \x7b\n  b @3 :Bool;\n  a @0 :Bool;\n  c @1 :Text;\n\x7d\n"
    r ∈ parse text ∧ r.nextOrdinal = 4 ∧ r.gaps = [2] ∧ ∀ n ∈ r.gaps, n < r.nextOrdinal := by
  intro r text
  have hr : r ∈ parse text := by decide +kernel
  have h := free_ordinals_of_parse text r hr
  exact ⟨hr, by decide, by decide, fun n hn => (h.2.2.2.2.1 n).mpr (.inr hn)⟩

end DeclAtlas.Schema
