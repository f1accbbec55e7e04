import DeclAtlas.Proofs.Nesting.Blocks

/-!
# The extent of a block

A block belongs to a marker, and its opening brace is looked for on the line of the marker and on
the next ones, `lookahead` lines altogether.  `opening_line` says that nothing else decides: there
is a block exactly if one of these lines holds an opening brace, and it starts on the first that
does.  The marker's own line counts, so that only `lookahead - 1` lines after it are looked at; a
brace on the line behind them opens no block (`blockAt?_eq_none_of_late_brace`).
-/

namespace DeclAtlas.Nesting

/-- Whether line `i` of a text holds an opening brace. -/
def Opens (ls : List Line) (i : Nat) : Prop := ∃ l, ls[i]? = some l ∧ '{' ∈ l

section Start

variable {ls : List Line} {marker n : Nat}

theorem opens_drop_iff {i : Nat} : Opens (ls.drop marker) i ↔ Opens ls (marker + i) := by
  rw [Opens, Opens, List.getElem?_drop]

theorem openingAt?_eq_none_iff {reach : Nat} :
    openingAt? reach ls = none ↔ ∀ i < reach, ¬ Opens ls i := by
  rw [openingAt?, List.findIdx?_eq_none_iff]
  constructor
  · rintro h i hi ⟨l, hl, hopen⟩
    have hmem : l ∈ ls.take reach := List.mem_of_getElem? (by rwa [List.getElem?_take_of_lt hi])
    exact absurd (List.contains_iff_mem.mpr hopen) (by rw [h l hmem]; exact Bool.false_ne_true)
  · intro h l hl
    obtain ⟨i, hi⟩ := List.mem_iff_getElem?.mp hl
    rw [List.getElem?_take, Option.ite_none_right_eq_some] at hi
    exact Bool.eq_false_iff.mpr fun hopen => h i hi.1 ⟨l, hi.2, List.contains_iff_mem.mp hopen⟩

/-- The opening line is the first one with an opening brace. -/
theorem opens_of_openingAt? {reach : Nat} (h : openingAt? reach ls = some n) :
    n < reach ∧ Opens ls n ∧ ∀ i < n, ¬ Opens ls i := by
  obtain ⟨hfound, hreach⟩ := openingAt?_eq_some.mp h
  obtain ⟨hlt, hopen, hfirst⟩ := List.findIdx?_eq_some_iff_getElem.mp hfound
  refine ⟨hreach, ⟨ls[n], List.getElem?_eq_getElem hlt, List.contains_iff_mem.mp hopen⟩, ?_⟩
  rintro i hi ⟨l, hl, hl'⟩
  obtain ⟨_, rfl⟩ := List.getElem?_eq_some_iff.mp hl
  exact hfirst i hi (List.contains_iff_mem.mpr hl')

theorem exists_blockAt?_append (above : List Line) {below : List Line}
    (hopen : ∃ i < lookahead, Opens below i) :
    ∃ block, blockAt? (above ++ below) above.length = some block := by
  obtain ⟨i, hi, hopens⟩ := hopen
  have hsome : openingAt? lookahead below ≠ none := fun hnone =>
    openingAt?_eq_none_iff.mp hnone i hi hopens
  obtain ⟨n, hn⟩ := Option.ne_none_iff_exists'.mp hsome
  rw [blockAt?, List.drop_left, hn]
  exact ⟨_, rfl⟩

/-- **Where a block starts.**  There is no block exactly if neither the line of the marker nor any
of the `lookahead - 1` lines after it holds an opening brace; otherwise the block starts on the first
of these lines that does. -/
theorem opening_line (ls : List Line) (marker : Nat) :
    (blockAt? ls marker = none ↔ ∀ i, marker ≤ i → i ≤ marker + (lookahead - 1) → ¬ Opens ls i) ∧
    ∀ b, blockAt? ls marker = some b →
      marker ≤ b.start ∧ b.start ≤ marker + (lookahead - 1) ∧ Opens ls b.start ∧
        ∀ i, marker ≤ i → i < b.start → ¬ Opens ls i := by
  have hshift : ∀ {m : Nat}, (∀ i < m, ¬ Opens (ls.drop marker) i) ↔
      ∀ i, marker ≤ i → i < marker + m → ¬ Opens ls i := by
    intro m
    constructor
    · intro h i hle hlt hopen
      refine h (i - marker) (by omega) (opens_drop_iff.mpr ?_)
      rwa [Nat.add_sub_cancel' hle]
    · intro h i hi hopen
      exact h (marker + i) (by omega) (by omega) (opens_drop_iff.mp hopen)
  have hreach : ∀ {i : Nat}, i ≤ marker + (lookahead - 1) ↔ i < marker + lookahead := by
    intro i
    rw [lookahead]
    omega
  constructor
  · simp only [hreach]
    rw [blockAt?, Option.map_eq_none_iff, openingAt?_eq_none_iff, hshift]
  · intro b hb
    obtain ⟨n, hn, rfl⟩ := Option.map_eq_some_iff.mp hb
    obtain ⟨hlt, hopen, hfirst⟩ := opens_of_openingAt? hn
    exact ⟨Nat.le_add_right marker n, hreach.mpr (Nat.add_lt_add_left hlt marker),
      opens_drop_iff.mp hopen, hshift.mp hfirst⟩

/-- A brace on the last line in reach, behind one before the marker. -/
theorem opening_line_last :
    let ls : List Line := [['{'], ['m'], [], [], [], ['{'], ['}']]
    blockAt? ls 1 = some ⟨5, [['{'], ['}']]⟩ ∧ Opens ls 5 ∧ ∀ i, 1 ≤ i → i < 5 → ¬ Opens ls i := by
  intro ls
  have hblock : blockAt? ls 1 = some ⟨5, [['{'], ['}']]⟩ := by decide
  obtain ⟨-, -, hopen, hfirst⟩ := (opening_line ls 1).2 _ hblock
  exact ⟨hblock, hopen, hfirst⟩

/-- **A brace `lookahead` lines after the marker opens no block.** -/
theorem blockAt?_eq_none_of_late_brace :
    let ls : List Line := ["JSG_RESOURCE_TYPE(Foo)".toList, [], [], [], [], ['{'], ['}']]
    Opens ls (0 + lookahead) ∧ blockAt? ls 0 = none := by
  intro ls
  exact ⟨⟨['{'], rfl, by decide⟩, by decide⟩

end Start

end DeclAtlas.Nesting
