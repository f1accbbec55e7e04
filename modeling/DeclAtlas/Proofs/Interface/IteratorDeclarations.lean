import DeclAtlas.Interface.Resource
import DeclAtlas.Proofs.Interface.Calls
import DeclAtlas.Proofs.Interface.Markers
import DeclAtlas.Proofs.Text.Matches

/-!
# Iterator declarations as written

The declarations of iterator types are looked for in the whole text of a file.  What is recorded of one
is its head, as it is written, with a closing parenthesis put behind it
(`exists_of_mem_iteratorDeclarations`).  The head ends with a word, and between its parts stand the
blanks of the file.
-/

namespace DeclAtlas

open Text

/-! ### Heads -/

/-- The head of an iterator declaration: a macro, an opening parenthesis, parameters with their commas,
and the last parameter, up to the end of its name. -/
structure IteratorHead where
  macroName : String
  known : macroName ∈ iteratorMacros.map Prod.fst
  gap : Blanks
  earlier : List NameArgument
  lead : Blanks
  last : Word

namespace IteratorHead

/-- Parameters with a comma behind each. -/
def counted (as : List NameArgument) : List Char := as.flatMap fun a => a.text ++ [',']

/-- The head as written. -/
def text (h : IteratorHead) : List Char :=
  h.macroName.toList ++ (h.gap.text ++ '(' :: (counted h.earlier ++ (h.lead.text ++ h.last.text)))

/-- The blanks between the parts of a head. -/
def blanks (h : IteratorHead) : List Char :=
  h.gap.text ++ h.earlier.flatMap (fun a => a.before.text ++ a.after.text) ++ h.lead.text

end IteratorHead

theorem word_iteratorMacros : ∀ name ∈ iteratorMacros.map Prod.fst,
    name.toList.all isWord = true := by decide +kernel

namespace IteratorHead

/-- What is in a head and neither in a word nor a mark of its own is in its blanks. -/
theorem mem_text_iff (h : IteratorHead) {c : Char} (hword : isWord c = false) (hopen : c ≠ '(')
    (hcomma : c ≠ ',') : c ∈ h.text ↔ c ∈ h.blanks := by
  have hmacro : c ∉ h.macroName.toList := by
    intro hc
    have hall := List.all_eq_true.mp (word_iteratorMacros _ h.known) c hc
    exact absurd (hall.symm.trans hword) (by decide)
  have hlast := h.last.notMem hword
  have hearlier : ∀ a : NameArgument, c ∉ a.word.text := fun a => a.word.notMem hword
  simp [text, blanks, counted, NameArgument.text, hmacro, hlast, hearlier, hopen, hcomma]

theorem notMem_text (h : IteratorHead) {c : Char} (hblank : isBlank c = false)
    (hword : isWord c = false) (hopen : c ≠ '(') (hcomma : c ≠ ',') : c ∉ h.text := by
  have hearlier : ∀ a : NameArgument, c ∉ a.before.text ∧ c ∉ a.after.text :=
    fun a => ⟨a.before.notMem hblank, a.after.notMem hblank⟩
  rw [h.mem_text_iff hword hopen hcomma]
  simp [blanks, h.gap.notMem hblank, h.lead.notMem hblank, hearlier]

end IteratorHead

/-! ### Reading a head -/

theorem exists_of_parameter? {s r : List Char} (h : parameter? s = some r) :
    ∃ a : NameArgument, s = a.text ++ ',' :: r := by
  simp only [parameter?, Option.bind_eq_bind, Option.bind_eq_some_iff] at h
  obtain ⟨⟨w, t⟩, hw, hcomma⟩ := h
  have hcomma : trimStart t = ',' :: r := literal?_eq_some.mp hcomma
  obtain ⟨b, rfl⟩ := exists_of_trimStart hcomma
  obtain ⟨hs, hne, hword⟩ := run?_eq_some hw
  have hlead : s = s.takeWhile isBlank ++ trimStart s := List.takeWhile_append_dropWhile.symm
  refine ⟨⟨⟨s.takeWhile isBlank, List.all_eq_true.mp List.all_takeWhile⟩, ⟨w, hne, hword⟩, b⟩, ?_⟩
  rw [hs] at hlead
  simpa [NameArgument.text] using hlead

theorem exists_of_parameters? {n : Nat} {s r : List Char} (h : parameters? n s = some r) :
    ∃ as : List NameArgument, as.length = n ∧ s = IteratorHead.counted as ++ r := by
  induction n generalizing s with
  | zero => exact ⟨[], rfl, Option.some.inj h⟩
  | succ n ih =>
    obtain ⟨t, ht, hrest⟩ := Option.bind_eq_some_iff.mp h
    obtain ⟨a, rfl⟩ := exists_of_parameter? ht
    obtain ⟨as, rfl, rfl⟩ := ih hrest
    exact ⟨a :: as, rfl, by simp [IteratorHead.counted]⟩

theorem pos_of_mem_iteratorMacros : ∀ m ∈ iteratorMacros, 0 < m.2 := by decide

/-- The comma behind a text and the blanks before it give way to the parenthesis. -/
theorem closeDeclaration_append {s : List Char} (hlast : ∀ c ∈ s.getLast?, isBlank c = false)
    (b : Blanks) : closeDeclaration (s ++ (b.text ++ [','])) = String.ofList (s ++ [')']) := by
  have hcomma : trimEnd (s ++ (b.text ++ [','])) = s ++ b.text ++ [','] := by
    have hend := trimEnd_append_cons (c := ',') (by decide) (s ++ b.text) []
    have hnil : trimEnd [] = [] := rfl
    simpa [hnil] using hend
  have hdrop : dropEnd? [','] (s ++ b.text ++ [',']) = some (s ++ b.text) := by
    simp [dropEnd?, dropLead?]
  rw [closeDeclaration, hcomma, hdrop, Option.getD_some, trimEnd,
    dropEndWhile_append hlast b.blank]

/-- A head ends with the name of its last parameter. -/
theorem IteratorHead.last_not_blank (h : IteratorHead) :
    ∀ c ∈ h.text.getLast?, isBlank c = false := by
  obtain ⟨s, hs⟩ : ∃ s, h.text = s ++ h.last.text :=
    ⟨h.macroName.toList ++ (h.gap.text ++ '(' :: (counted h.earlier ++ h.lead.text)), by simp [text]⟩
  rw [hs, List.getLast?_append_of_ne_nil s h.last.ne_nil]
  intro c hc
  exact isBlank_eq_false_of_isWord (h.last.word c (List.mem_of_getLast? hc))

/-- What is read of a declaration is a head with a comma behind it. -/
theorem exists_of_iteratorDeclaration? {name : String} {n : Nat} (hm : (name, n) ∈ iteratorMacros)
    {s r : List Char} {x : Unit} (h : iteratorDeclaration? name n s = some (x, r)) :
    ∃ (k : IteratorHead) (b : Blanks), s = k.text ++ (b.text ++ [',']) ++ r := by
  simp only [iteratorDeclaration?, Option.bind_eq_bind, Option.bind_eq_some_iff, Option.some.injEq,
    Prod.mk.injEq] at h
  obtain ⟨t, ⟨u, hu, ht⟩, -, rfl⟩ := h
  obtain ⟨gap, rfl⟩ := opening?_eq_some_iff.mp hu
  obtain ⟨as, hn, rfl⟩ := exists_of_parameters? ht
  have hne : as ≠ [] := by
    rintro rfl
    exact absurd (pos_of_mem_iteratorMacros _ hm) (hn ▸ Nat.lt_irrefl 0)
  obtain ⟨earlier, a, rfl⟩ := List.eq_nil_or_concat as |>.resolve_left hne
  refine ⟨⟨name, List.mem_map_of_mem hm, gap, earlier, a.before, a.word⟩, a.after, ?_⟩
  simp [IteratorHead.text, IteratorHead.counted, NameArgument.text]

/-- **What is recorded of an iterator declaration** is a head that stands in the file, closed. -/
theorem exists_of_mem_iteratorDeclarations {content : List Char} {d : String}
    (hd : d ∈ iteratorDeclarations content) :
    ∃ h : IteratorHead, d = String.ofList (h.text ++ [')']) ∧ h.text <:+: content := by
  obtain ⟨⟨name, n⟩, hm, hd⟩ := List.mem_flatMap.mp hd
  obtain ⟨⟨u, x⟩, hu, rfl⟩ := List.mem_map.mp hd
  obtain ⟨b, v, r, hv, hread⟩ := exists_of_mem_matchesFrom hu
  unfold atWordStart at hread
  split at hread
  · exact nomatch hread
  · obtain ⟨⟨y, t⟩, ht, heq⟩ := Option.map_eq_some_iff.mp hread
    obtain ⟨htext, rfl⟩ := Prod.mk.inj heq
    obtain ⟨rfl, -⟩ := Prod.mk.inj htext
    obtain ⟨k, after, rfl⟩ := exists_of_iteratorDeclaration? hm ht
    refine ⟨k, ?_, ?_⟩
    · dsimp only
      rw [List.length_append, Nat.add_sub_cancel, List.take_left,
        closeDeclaration_append k.last_not_blank]
    · rw [List.append_assoc] at hv
      exact (List.prefix_append k.text _).isInfix.trans hv.isInfix

end DeclAtlas
