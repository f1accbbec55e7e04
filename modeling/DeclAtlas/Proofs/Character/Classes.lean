import DeclAtlas.Character.CharSet
import DeclAtlas.Text.CharClass

/-!
# Classes as sets and as tests

White space and word characters are there twice, as sets of characters in patterns (`CharSet.blank`,
`CharSet.word`) and as tests (`isBlank`, `isWord`).  They are the same characters.
-/

namespace DeclAtlas.CharSet

open Text

theorem contains_range {a b : Nat} {c : Char} :
    (range a b).contains c = true ↔ a ≤ c.toNat ∧ c.toNat ≤ b := by
  rw [range, contains_ofRanges]
  simp

/-- **White space.** -/
theorem contains_blank (c : Char) : CharSet.blank.contains c = isBlank c := by
  have hlt : ∀ d : Char, c = d ↔ c.toNat = d.toNat := fun d => Char.toNat_inj.symm
  rw [Bool.eq_iff_iff, blank, contains_ofRanges]
  simp only [isBlank, Bool.or_eq_true, Bool.and_eq_true, beq_iff_eq, decide_eq_true_eq, hlt,
    Char.le_def, UInt32.le_iff_toNat_le]
  change _ ↔ ((((((((((c.toNat = 32 ∨ 9 ≤ c.toNat ∧ c.toNat ≤ 13) ∨ c.toNat = 0x85) ∨
    c.toNat = 0xA0) ∨ c.toNat = 0x1680) ∨ 0x2000 ≤ c.toNat ∧ c.toNat ≤ 0x200A) ∨
    c.toNat = 0x2028) ∨ c.toNat = 0x2029) ∨ c.toNat = 0x202F) ∨ c.toNat = 0x205F) ∨
    c.toNat = 0x3000)
  simp only [List.mem_cons, List.not_mem_nil, or_false, exists_eq_or_imp, exists_eq_left]
  omega

/-- The word characters of ASCII. -/
theorem contains_asciiWord (c : Char) : asciiWord.contains c = (c.isAlphanum || c == '_') := by
  have hupper : c.isUpper = decide (c.val ≥ 'A'.val ∧ c.val ≤ 'Z'.val) := rfl
  have hlower : c.isLower = (decide (c.val ≥ 'a'.val) && decide (c.val ≤ 'z'.val)) := rfl
  have halpha : c.isAlpha = (c.isUpper || c.isLower) := rfl
  rw [Bool.eq_iff_iff, asciiWord, contains_unionOf]
  simp only [List.mem_cons, List.not_mem_nil, or_false, exists_eq_or_imp, exists_eq_left,
    asciiLetter, asciiDigit, ascii, contains_union, contains_range, contains_single,
    Char.isAlphanum, halpha, hupper, hlower, Char.isDigit, Bool.or_eq_true, Bool.and_eq_true, decide_eq_true_eq, beq_iff_eq, ge_iff_le, UInt32.le_iff_toNat_le]
  rw [or_comm (a := 'a'.toNat ≤ _ ∧ _), eq_comm (a := '_'), ← or_assoc]
  exact Iff.rfl

theorem lt_of_contains_asciiWord {c : Char} (h : asciiWord.contains c = true) : c.toNat < 128 := by
  obtain ⟨r, hr, -, hle⟩ := contains_iff.mp h
  have hranges : ∀ r ∈ asciiWord.ranges, r.2 < 128 := by decide
  exact Nat.lt_of_le_of_lt hle (hranges r hr)

/-- The table of word characters does not speak of ASCII. -/
theorem le_of_mem_wordRanges : ∀ r ∈ wordRanges, 128 ≤ r.1 := by decide +kernel

/-- **Word characters.** -/
theorem contains_word (c : Char) : CharSet.word.contains c = isWord c := by
  have htable : (ofRanges wordRanges).contains c = true ↔ wordRanges.contains c = true := by
    simp [contains_ofRanges, CodeRanges.contains]
  rw [Bool.eq_iff_iff, word, contains_union, htable, isWord]
  by_cases hc : c.toNat < 128
  · have hbeyond : ¬wordRanges.contains c = true := by
      intro h
      obtain ⟨r, hr, hle⟩ := List.any_eq_true.mp h
      have := le_of_mem_wordRanges r hr
      simp only [Bool.and_eq_true, decide_eq_true_eq] at hle
      omega
    rw [if_pos hc, contains_asciiWord, or_iff_left hbeyond]
  · rw [if_neg hc, or_iff_right fun h => hc (lt_of_contains_asciiWord h)]

end DeclAtlas.CharSet
