import DeclAtlas.Proofs.Text.Occurrences
import DeclAtlas.Proofs.Text.Parts
import DeclAtlas.Text.WordChar

/-!
# Words of written texts

A text comes apart into words wherever a character stands that is part of none.  So the words of a
line are those of its parts (`words_append_cons`, `Word.words_append`), and a word that nothing
extends on either side is one of them (`Word.mem_words`).  What consists of word characters stands
within one word (`infix_iff_exists_mem_words`).
-/

namespace DeclAtlas.Text

variable {c : Char} {a b s r : List Char}

theorem runsFrom_cons_of_not_word (hc : isWord c = false) (b : List Char) :
    runsFrom isWord (c :: b) = ([], words b) := by
  rw [runsFrom, words]
  by_cases hw : (runsFrom isWord b).1.isEmpty = true <;> simp [hc, hw]

theorem words_cons_of_not_word (hc : isWord c = false) (b : List Char) :
    words (c :: b) = words b := by
  rw [words, runsFrom_cons_of_not_word hc]
  rfl

theorem runsFrom_append_cons (hc : isWord c = false) (a b : List Char) :
    runsFrom isWord (a ++ c :: b) = ((runsFrom isWord a).1, (runsFrom isWord a).2 ++ words b) := by
  induction a with
  | nil => exact runsFrom_cons_of_not_word hc b
  | cons d a ih =>
    rw [List.cons_append, runsFrom, ih, runsFrom]
    by_cases hd : isWord d = true
    · simp [hd]
    · by_cases hw : (runsFrom isWord a).1.isEmpty = true <;> simp [hd, hw]

/-- **A character that is part of no word separates the words on its two sides.** -/
theorem words_append_cons (hc : isWord c = false) (a b : List Char) :
    words (a ++ c :: b) = words a ++ words b := by
  have ha : words a = if (runsFrom isWord a).1.isEmpty then (runsFrom isWord a).2
      else (runsFrom isWord a).1 :: (runsFrom isWord a).2 := rfl
  rw [words, runsFrom_append_cons hc, ha]
  by_cases hw : (runsFrom isWord a).1.isEmpty = true <;> simp [hw]

theorem words_eq_nil (hs : ∀ c ∈ s, isWord c = false) : words s = [] := by
  induction s with
  | nil => rfl
  | cons c s ih =>
    have hcs := List.forall_mem_cons.mp hs
    rw [words_cons_of_not_word hcs.1, ih hcs.2]

theorem runsFrom_eq_self (hs : ∀ c ∈ s, isWord c = true) : runsFrom isWord s = (s, []) := by
  induction s with
  | nil => rfl
  | cons c s ih =>
    have hcs := List.forall_mem_cons.mp hs
    rw [runsFrom, ih hcs.2, hcs.1]
    rfl

theorem Word.words_text (w : Word) : words w.text = [w.text] := by
  rw [words, runsFrom_eq_self w.word]
  simp [w.ne_nil]

/-- The first word of a text. -/
theorem Word.words_append (w : Word) (hr : StartsIn (isWord · = false) r) :
    words (w.text ++ r) = w.text :: words r := by
  cases r with
  | nil => rw [List.append_nil, w.words_text]; rfl
  | cons c r =>
    have hc : isWord c = false := hr c rfl
    rw [words_append_cons hc, w.words_text, words_cons_of_not_word hc]
    rfl

/-- Blanks around a text hold no words. -/
theorem words_trim (s : List Char) : words (trim s) = words s := by
  obtain ⟨a, b, hs⟩ := exists_blanks_trim s
  have hlead : ∀ (w : Blanks) (t : List Char), words (w.text ++ t) = words t := by
    rintro ⟨w, hw⟩ t
    induction w with
    | nil => rfl
    | cons c w ih =>
      have hcw := List.forall_mem_cons.mp hw
      rw [List.cons_append, words_cons_of_not_word (isWord_eq_false_of_isBlank hcw.1), ih hcw.2]
  have htail : ∀ (w : Blanks) (t : List Char), words (t ++ w.text) = words t := by
    rintro ⟨w, hw⟩ t
    cases w with
    | nil => rw [List.append_nil]
    | cons c w =>
      have hcw := List.forall_mem_cons.mp hw
      have hrest : ∀ d ∈ w, isWord d = false := fun d hd => isWord_eq_false_of_isBlank (hcw.2 d hd)
      rw [words_append_cons (isWord_eq_false_of_isBlank hcw.1), words_eq_nil hrest, List.append_nil]
  calc words (trim s) = words (a.text ++ (trim s ++ b.text)) := by rw [hlead, htail]
    _ = words s := by rw [← hs]

/-- **A word that nothing extends is a word of the text.** -/
theorem Word.mem_words (w : Word) (ha : ∀ c ∈ a.getLast?, isWord c = false)
    (hr : StartsIn (isWord · = false) r) : w.text ∈ words (a ++ (w.text ++ r)) := by
  rcases List.eq_nil_or_concat a with rfl | ⟨a, c, rfl⟩
  · rw [List.nil_append, w.words_append hr]
    exact List.mem_cons_self
  · have hc : isWord c = false := ha c (by simp)
    rw [List.concat_eq_append, List.append_assoc, List.singleton_append, words_append_cons hc,
      w.words_append hr]
    exact List.mem_append_right _ List.mem_cons_self

/-- **A part of a word stands in a text exactly if it stands in one of its words.** -/
theorem infix_iff_exists_mem_words {w : List Char} (hw : ∀ c ∈ w, isWord c = true) (hne : w ≠ [])
    (s : List Char) : w <:+: s ↔ ∃ v ∈ words s, w <:+: v := by
  induction hm : s.length using Nat.strong_induction_on generalizing s with
  | _ m ih =>
    subst hm
    by_cases hs : ∀ c ∈ s, isWord c = true
    · cases s with
      | nil => simp [words, runsFrom, hne]
      | cons c s =>
        have hwords : words (c :: s) = [c :: s] := Word.words_text ⟨c :: s, List.cons_ne_nil c s, hs⟩
        simp [hwords]
    · -- a character that is part of no word separates the text
      simp only [not_forall, Bool.not_eq_true] at hs
      obtain ⟨c, hc, hword⟩ := hs
      have hcw : c ∉ w := fun h => by simp [hw c h] at hword
      obtain ⟨a, b, rfl⟩ := List.append_of_mem hc
      have ha := ih a.length (by simp) a rfl
      have hb := ih b.length (by rw [List.length_append, List.length_cons]; omega) b rfl
      rw [infix_append_cons_iff hcw, words_append_cons hword, ha, hb]
      simp only [List.mem_append, or_and_right, exists_or]

end DeclAtlas.Text
