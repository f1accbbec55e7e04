import DeclAtlas.Proofs.Nesting.Segments

/-!
# The lines of a block

A block is a segment of the text it is cut out of, and its last line is the first one after which the
balance of braces is at most zero, or the last line of the text.  This file joins that with what the
block depends on (`lines_of_block`): the lines from the marker to the end of the block, once its
braces are closed, and nothing else.  Lines above the marker and below the block may come and go.

In particular a block is cut out of its own lines as a whole, so cutting twice gives nothing new.
-/

namespace DeclAtlas.Nesting

variable {ls : List Line} {marker n : Nat} {b : Block}

/-! ### Cutting out -/

/-- A block is what is taken from its opening line on. -/
theorem exists_of_blockAt? (h : blockAt? ls marker = some b) :
    ∃ n, openingAt? lookahead (ls.drop marker) = some n ∧ b.start = marker + n ∧
      b.lines = takeBalanced braceDelta 0 (ls.drop b.start) := by
  obtain ⟨n, hn, rfl⟩ := Option.map_eq_some_iff.mp h
  exact ⟨n, hn, rfl, rfl⟩

/-- An opening line is one of the lines. -/
theorem lt_length_of_openingAt? {reach : Nat} (h : openingAt? reach ls = some n) :
    n < ls.length := by
  obtain ⟨hlt, -, -⟩ := List.findIdx?_eq_some_iff_getElem.mp (openingAt?_eq_some.mp h).1
  exact hlt

/-- From its opening line on, a block opens at once. -/
theorem openingAt?_drop {reach : Nat} (h : openingAt? reach ls = some n) :
    openingAt? reach (ls.drop n) = some 0 := by
  obtain ⟨hfound, hreach⟩ := openingAt?_eq_some.mp h
  obtain ⟨hlt, hopen, -⟩ := List.findIdx?_eq_some_iff_getElem.mp hfound
  have hzero : (ls.drop n).findIdx? (·.contains '{') = some 0 := by
    rw [List.drop_eq_getElem_cons hlt, List.findIdx?_cons, if_pos hopen]
  exact openingAt?_eq_some.mpr ⟨hzero, by omega⟩

/-- **A block is the segment from its opening line to the one where the balance of braces ends.** -/
theorem endsAt_of_blockAt? (h : blockAt? ls marker = some b) :
    EndsAt braceDelta ls b.start b.last ∧ b.lines = segment ls b.start b.last := by
  obtain ⟨n, hn, hstart, hlines⟩ := exists_of_blockAt? h
  have hlt : b.start < ls.length := by
    have hn' := lt_length_of_openingAt? hn
    rw [List.length_drop] at hn'
    omega
  obtain ⟨last, hends, htaken⟩ := exists_endsAt (d := braceDelta) hlt
  have hlast : b.last = last := by
    have hle := hends.first_le
    rw [Block.last, hlines, htaken, length_segment hends.lt_length]
    omega
  rw [hlast]
  exact ⟨hends, hlines.trans htaken⟩

/-- A block can be cut out of its own lines: what they take is all of them. -/
theorem takeBalanced_lines_of_blockAt? (h : blockAt? ls marker = some b) :
    takeBalanced braceDelta 0 b.lines = b.lines := by
  obtain ⟨-, -, -, hlines⟩ := exists_of_blockAt? h
  rw [hlines, takeBalanced_takeBalanced]

/-! ### What a block depends on -/

/-- A block opens on the line where it opened, if the lines from the marker to its end stay. -/
theorem openingAt?_segment (h : blockAt? ls marker = some b) (below : List Line) :
    openingAt? lookahead (segment ls marker b.last ++ below) = some (b.start - marker) := by
  obtain ⟨n, hn, hstart, -⟩ := exists_of_blockAt? h
  obtain ⟨hends, -⟩ := endsAt_of_blockAt? h
  have hle := hends.first_le
  have hlength := length_segment (i := marker) hends.lt_length
  rw [hstart, Nat.add_sub_cancel_left]
  refine openingAt?_of_take hn ?_
  rw [List.take_append_of_le_length (by omega), segment, List.take_take, Nat.min_eq_left (by omega)]

/-- **A block that is closed stays the same wherever its lines stand**, the lines from the marker on
included. -/
theorem blockAt?_segment (h : blockAt? ls marker = some b) (hclosed : total braceDelta b.lines ≤ 0)
    (above below : List Line) :
    blockAt? (above ++ (segment ls marker b.last ++ below)) above.length =
      some ⟨above.length + (b.start - marker), b.lines⟩ := by
  obtain ⟨n, -, hstart, -⟩ := exists_of_blockAt? h
  obtain ⟨hends, hlines⟩ := endsAt_of_blockAt? h
  have hle := hends.first_le
  have hlength := length_segment (i := marker) hends.lt_length
  have hrest : (segment ls marker b.last ++ below).drop (b.start - marker) = b.lines ++ below := by
    rw [List.drop_append_of_le_length (by omega), drop_segment, hlines]
    congr 2
    omega
  have hne : b.lines ≠ [] := by
    rw [hlines, Ne, ← List.length_eq_zero_iff, length_segment hends.lt_length]
    omega
  rw [blockAt?, List.drop_left, openingAt?_segment h, Option.map_some, ← List.drop_drop,
    List.drop_left, hrest, takeBalanced_append hne (by rwa [Int.zero_add]),
    takeBalanced_lines_of_blockAt? h]

/-- A block is cut out of its own lines as a whole. -/
theorem blockAt?_own_lines (h : blockAt? ls marker = some b) :
    blockAt? b.lines 0 = some ⟨0, b.lines⟩ := by
  obtain ⟨n, hn, hstart, -⟩ := exists_of_blockAt? h
  obtain ⟨hends, hlines⟩ := endsAt_of_blockAt? h
  have hle := hends.first_le
  have hopen : openingAt? lookahead (ls.drop b.start) = some 0 := by
    rw [hstart, ← List.drop_drop]
    exact openingAt?_drop hn
  have hopen' : openingAt? lookahead b.lines = some 0 := by
    refine openingAt?_of_take hopen ?_
    rw [hlines, segment, List.take_take, Nat.min_eq_left (by omega)]
  rw [blockAt?, List.drop_zero, hopen', Option.map_some, Nat.add_zero, List.drop_zero,
    takeBalanced_lines_of_blockAt? h]

/-- **The lines of a block.**  A block is the segment of the text from its opening line to its last
one, before which the running balance of braces is positive, and with which it is at most zero unless
the text ends there.  If the block is closed it depends on the lines from the marker to its end only:
it is the same in any text that agrees on these, and moves with them.  Cut out of its own lines it is
the same again. -/
theorem lines_of_block (h : blockAt? ls marker = some b) :
    b.lines = segment ls b.start b.last ∧ marker ≤ b.start ∧ b.start ≤ b.last ∧
    b.last < ls.length ∧
    (∀ i, b.start ≤ i → i < b.last → 0 < total braceDelta (segment ls b.start i)) ∧
    (total braceDelta (segment ls b.start b.last) ≤ 0 ∨ b.last + 1 = ls.length) ∧
    (total braceDelta (segment ls b.start b.last) ≤ 0 →
      (∀ ls', segment ls' marker b.last = segment ls marker b.last →
        blockAt? ls' marker = some b) ∧
      ∀ above below, blockAt? (above ++ (segment ls marker b.last ++ below)) above.length =
        some ⟨above.length + (b.start - marker), b.lines⟩) ∧
    blockAt? b.lines 0 = some ⟨0, b.lines⟩ := by
  obtain ⟨n, -, hstart, -⟩ := exists_of_blockAt? h
  obtain ⟨hends, hlines⟩ := endsAt_of_blockAt? h
  have hmarker : marker ≤ b.start := by omega
  refine ⟨hlines, hmarker, hends.first_le, hends.lt_length, hends.open_before,
    hends.closed_or_final, fun hclosed => ?_, blockAt?_own_lines h⟩
  rw [← hlines] at hclosed
  refine ⟨fun ls' hsame => ?_, blockAt?_segment h hclosed⟩
  -- a text with the same segment is that segment with lines above and below
  have hle := hends.first_le
  have habove : (ls'.take marker).length = marker := by
    have hlength := congrArg List.length hsame
    rw [length_segment hends.lt_length, segment, List.length_take, List.length_drop] at hlength
    rw [List.length_take]
    omega
  have hparts : ls'.take marker ++ (segment ls marker b.last ++ ls'.drop (b.last + 1)) = ls' := by
    rw [← hsame, segment_append_drop (by omega), List.take_append_drop]
  have hmoved := blockAt?_segment h hclosed (ls'.take marker) (ls'.drop (b.last + 1))
  rwa [hparts, habove, Nat.add_sub_cancel' hmarker] at hmoved

/-- A block with a nested one behind its opening line, cut out below other lines and above a brace
that it does not reach. -/
theorem lines_of_block_nested :
    let ls : List Line := [['}'], ['m'], ['x', '{'], ['{', '}'], ['}', ' '], ['{']]
    let b : Block := ⟨2, [['x', '{'], ['{', '}'], ['}', ' ']]⟩
    blockAt? ls 1 = some b ∧ total braceDelta (segment ls 2 4) ≤ 0 ∧
      blockAt? [['a'], ['b'], ['m'], ['x', '{'], ['{', '}'], ['}', ' ']] 2 = some ⟨3, b.lines⟩ ∧
      blockAt? b.lines 0 = some ⟨0, b.lines⟩ := by
  intro ls b
  have hblock : blockAt? ls 1 = some b := by decide
  have hclosed : total braceDelta (segment ls 2 4) ≤ 0 := by decide
  obtain ⟨-, -, -, -, -, -, hlocal, hown⟩ := lines_of_block hblock
  exact ⟨hblock, hclosed, (hlocal hclosed).2 [['a'], ['b']] [], hown⟩

end DeclAtlas.Nesting
