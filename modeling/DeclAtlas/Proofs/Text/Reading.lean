import DeclAtlas.Text.Reading

/-!
# What readers make of written texts

`Text/Reading.lean` reads from the left; this file says what its readers give on a text that is
known part by part.  A run is read back whole when the character after it is not of its class
(`run?_append`), and blanks and literals are passed over (`blanks?_append`, `literal?_append`).

A search has two sides.  What it finds stands somewhere in the text (`exists_of_firstMatch`), and a
stretch in which nothing reads can be skipped (`firstMatch_append`).

The classes that stand next to each other in the declaration files are disjoint:
`isWord_eq_false_of_isBlank` is all that is needed of the tables of word characters.
-/

namespace DeclAtlas.Text

/-! ### Classes of characters -/

/-- The white space characters, one by one. -/
def blankChars : List Char :=
  [' ', '\t', '\n', '\u000B', '\u000C', '\r', '\u0085', '\u00A0', '\u1680', '\u2000', '\u2001',
   '\u2002', '\u2003', '\u2004', '\u2005', '\u2006', '\u2007', '\u2008', '\u2009', '\u200A',
   '\u2028', '\u2029', '\u202F', '\u205F', '\u3000']

theorem mem_blankChars_of_isBlank {c : Char} (h : isBlank c = true) : c ∈ blankChars := by
  have hmem : c.toNat ∈ blankChars.map Char.toNat := by
    simp only [isBlank, Bool.or_eq_true, Bool.and_eq_true, beq_iff_eq, decide_eq_true_eq,
      Char.le_def, UInt32.le_iff_toNat_le] at h
    rcases h with (((((((((rfl | h) | rfl) | rfl) | rfl) | h) | rfl) | rfl) | rfl) | rfl) | rfl
    any_goals decide
    · change 9 ≤ c.toNat ∧ c.toNat ≤ 13 at h
      simp [blankChars]; omega
    · change 0x2000 ≤ c.toNat ∧ c.toNat ≤ 0x200A at h
      simp [blankChars]; omega
  obtain ⟨d, hd, e⟩ := List.mem_map.mp hmem
  exact Char.toNat_inj.mp e ▸ hd

/-- What holds of no white space character holds of no blank. -/
theorem eq_false_of_isBlank {p : Char → Bool} (hp : blankChars.any p = false) {c : Char}
    (h : isBlank c = true) : p c = false :=
  Bool.eq_false_iff.mpr (List.any_eq_false.mp hp c (mem_blankChars_of_isBlank h))

/-- **No blank is part of a word.** -/
theorem isWord_eq_false_of_isBlank {c : Char} (h : isBlank c = true) : isWord c = false :=
  eq_false_of_isBlank (by decide +kernel) h

theorem isBlank_eq_false_of_isWord {c : Char} (h : isWord c = true) : isBlank c = false := by
  cases hb : isBlank c with
  | false => rfl
  | true => rw [isWord_eq_false_of_isBlank hb] at h; exact h.symm

/-! ### Runs -/

section Runs

variable {p : Char → Bool} {w r : List Char}

theorem takeWhile_append_of_head (hw : ∀ c ∈ w, p c = true) (hr : ∀ c ∈ r.head?, p c = false) :
    (w ++ r).takeWhile p = w := by
  rw [List.takeWhile_append_of_pos hw]
  cases r with
  | nil => simp
  | cons c r => simp [hr c rfl]

theorem dropWhile_append_of_head (hw : ∀ c ∈ w, p c = true) (hr : ∀ c ∈ r.head?, p c = false) :
    (w ++ r).dropWhile p = r := by
  have hsplit := List.takeWhile_append_dropWhile (p := p) (l := w ++ r)
  rw [takeWhile_append_of_head hw hr] at hsplit
  exact List.append_cancel_left hsplit

theorem bne_of_notMem {c : Char} (h : c ∉ w) : ∀ x ∈ w, (x != c) = true := by
  intro x hx
  rw [bne_iff_ne]
  rintro rfl
  exact h hx

theorem takeWhile_bne_append {c : Char} (h : c ∉ w) (r : List Char) :
    (w ++ c :: r).takeWhile (· != c) = w :=
  takeWhile_append_of_head (bne_of_notMem h) (by rintro x ⟨⟩; exact bne_self_eq_false c)

theorem dropWhile_bne_append {c : Char} (h : c ∉ w) (r : List Char) :
    (w ++ c :: r).dropWhile (· != c) = c :: r :=
  dropWhile_append_of_head (bne_of_notMem h) (by rintro x ⟨⟩; exact bne_self_eq_false c)

/-- What stands before the first occurrence of a character is determined. -/
theorem eq_of_append_cons {c : Char} {a b d r : List Char} (ha : c ∉ a) (hd : c ∉ d)
    (h : a ++ c :: b = d ++ c :: r) : a = d := by
  have hsame := congrArg (List.takeWhile (· != c)) h
  rwa [takeWhile_bne_append ha, takeWhile_bne_append hd] at hsame

theorem dropEndWhile_append (hr : ∀ c ∈ r.getLast?, p c = false) (hw : ∀ c ∈ w, p c = true) :
    dropEndWhile p (r ++ w) = r := by
  unfold dropEndWhile
  rw [List.reverse_append, dropWhile_append_of_head (fun c hc => hw c (List.mem_reverse.mp hc))
    (by rwa [List.head?_reverse]), List.reverse_reverse]

/-- **A run is read back whole** when what follows does not extend it. -/
theorem run?_append (hne : w ≠ []) (hw : ∀ c ∈ w, p c = true) (hr : ∀ c ∈ r.head?, p c = false) :
    run? p (w ++ r) = some (w, r) := by
  unfold run?
  rw [takeWhile_append_of_head hw hr, dropWhile_append_of_head hw hr]
  cases w with
  | nil => exact absurd rfl hne
  | cons c w => rfl

theorem run?_eq_none (h : ∀ c ∈ r.head?, p c = false) : run? p r = none := by
  cases r with
  | nil => rfl
  | cons c r => simp [run?, h c rfl]

theorem trimStart_append (hw : ∀ c ∈ w, isBlank c = true) (hr : ∀ c ∈ r.head?, isBlank c = false) :
    trimStart (w ++ r) = r :=
  dropWhile_append_of_head hw hr

theorem blanks?_append (hne : w ≠ []) (hw : ∀ c ∈ w, isBlank c = true)
    (hr : ∀ c ∈ r.head?, isBlank c = false) : blanks? (w ++ r) = some r := by
  cases w with
  | nil => exact absurd rfl hne
  | cons c w =>
    rw [List.cons_append, blanks?, if_pos (hw c List.mem_cons_self),
      trimStart_append (fun d hd => hw d (List.mem_cons_of_mem c hd)) hr]

theorem blanks?_eq_none (h : ∀ c ∈ r.head?, isBlank c = false) : blanks? r = none := by
  cases r with
  | nil => rfl
  | cons c r => simp [blanks?, h c rfl]

end Runs

theorem literal?_append (w : String) (r : List Char) : literal? w (w.toList ++ r) = some r :=
  dropLead?_eq_some.mpr rfl

theorem literal?_eq_some {w : String} {s r : List Char} :
    literal? w s = some r ↔ s = w.toList ++ r :=
  dropLead?_eq_some

/-! ### What is left of a text

Every reader leaves an end of the text it was given. -/

theorem suffix_of_literal? {w : String} {s r : List Char} (h : literal? w s = some r) : r <:+ s :=
  ⟨w.toList, (literal?_eq_some.mp h).symm⟩

theorem suffix_trimStart (s : List Char) : trimStart s <:+ s := List.dropWhile_suffix _

theorem suffix_of_blanks? {s r : List Char} (h : blanks? s = some r) : r <:+ s := by
  cases s with
  | nil => simp [blanks?] at h
  | cons c s =>
    by_cases hc : isBlank c = true
    · rw [blanks?, if_pos hc, Option.some.injEq] at h
      exact h ▸ (suffix_trimStart s).trans (List.suffix_cons c s)
    · rw [blanks?, if_neg hc] at h
      exact absurd h (by simp)

theorem suffix_of_run? {p : Char → Bool} {s w r : List Char} (h : run? p s = some (w, r)) :
    r <:+ s :=
  ⟨w, (run?_eq_some h).1.symm⟩

/-- A place of two texts, one behind the other, stands in one of them. -/
theorem suffix_of_suffix_append {s t w : List Char} (h : w <:+ s ++ t) :
    w <:+ t ∨ ∃ v, v <:+ s ∧ v ≠ [] ∧ w = v ++ t := by
  obtain ⟨u, hu⟩ := h
  rcases List.append_eq_append_iff.mp hu with ⟨v, rfl, rfl⟩ | ⟨v, rfl, rfl⟩
  · cases v with
    | nil => exact .inl List.suffix_rfl
    | cons c v => exact .inr ⟨c :: v, List.suffix_append u _, List.cons_ne_nil c v, rfl⟩
  · exact .inl (List.suffix_append v w)

/-! ### Searches -/

section Searches

variable {α : Type} {p : PlacedReader α}

/-- What a search finds is read at some place of the text. -/
theorem exists_of_firstMatch {x : α × List Char} : ∀ {s : List Char} {before : Option Char},
    firstMatch p before s = some x →
      ∃ u v, s = u ++ v ∧ p (u.getLast?.or before) v = some x := by
  intro s
  induction s with
  | nil => intro before h; exact ⟨[], [], rfl, h⟩
  | cons c s ih =>
    intro before h
    rw [firstMatch, Option.or_eq_some_iff] at h
    rcases h with h | ⟨-, h⟩
    · exact ⟨[], c :: s, rfl, h⟩
    · obtain ⟨u, v, rfl, hv⟩ := ih h
      refine ⟨c :: u, v, rfl, ?_⟩
      rw [List.getLast?_cons]
      cases hu : u.getLast? with
      | none => simpa [hu] using hv
      | some d => simpa [hu] using hv

/-- A stretch in which nothing reads is skipped. -/
theorem firstMatch_append {r : List Char} : ∀ {a : List Char} {before : Option Char},
    (∀ u v, a = u ++ v → v ≠ [] → p (u.getLast?.or before) (v ++ r) = none) →
      firstMatch p before (a ++ r) = firstMatch p (a.getLast?.or before) r := by
  intro a
  induction a with
  | nil => intro before _; rfl
  | cons c a ih =>
    intro before h
    have hhead : p before (c :: (a ++ r)) = none := h [] (c :: a) rfl (by simp)
    have htail : firstMatch p (some c) (a ++ r) = firstMatch p (a.getLast?.or (some c)) r := by
      refine ih fun u v hv hne => ?_
      have := h (c :: u) v (by rw [hv, List.cons_append]) hne
      rw [List.getLast?_cons] at this
      cases hu : u.getLast? with
      | none => simpa [hu] using this
      | some d => simpa [hu] using this
    rw [List.cons_append, firstMatch, hhead, Option.none_or, htail, List.getLast?_cons]
    cases a.getLast? <;> rfl

/-- A search finds nothing where nothing reads at any place. -/
theorem firstMatch_eq_none {s : List Char} {before : Option Char}
    (h : ∀ u v, s = u ++ v → p (u.getLast?.or before) v = none) : firstMatch p before s = none := by
  cases hs : firstMatch p before s with
  | none => rfl
  | some x =>
    obtain ⟨u, v, e, hv⟩ := exists_of_firstMatch hs
    rw [h u v e] at hv
    exact hv.symm

/-- A search begins at the first place. -/
theorem firstMatch_of_head {s : List Char} {before : Option Char} {x : α × List Char}
    (h : p before s = some x) : firstMatch p before s = some x := by
  cases s with
  | nil => exact h
  | cons c s => rw [firstMatch, h, Option.some_or]

/-- A search finds something where something reads. -/
theorem isSome_firstMatch_append {u v : List Char} {before : Option Char}
    (h : (p (u.getLast?.or before) v).isSome = true) :
    (firstMatch p before (u ++ v)).isSome = true := by
  induction u generalizing before with
  | nil =>
    cases v with
    | nil => exact h
    | cons c v => rw [List.nil_append, firstMatch, Option.isSome_or, Bool.or_eq_true]; exact .inl h
  | cons c u ih =>
    rw [List.cons_append, firstMatch, Option.isSome_or, Bool.or_eq_true]
    refine .inr (ih ?_)
    rw [List.getLast?_cons] at h
    cases hu : u.getLast? with
    | none => simpa [hu] using h
    | some d => simpa [hu] using h

end Searches

section FreeSearches

variable {α : Type} {p : Reader α}

theorem exists_of_findMatch? {s : List Char} {a : α} (h : findMatch? p s = some a) :
    ∃ u v r, s = u ++ v ∧ p v = some (a, r) := by
  obtain ⟨⟨a', r⟩, hx, rfl⟩ := Option.map_eq_some_iff.mp h
  obtain ⟨u, v, e, hv⟩ := exists_of_firstMatch hx
  exact ⟨u, v, r, e, hv⟩

theorem isSome_findMatch?_iff {s : List Char} :
    (findMatch? p s).isSome = true ↔ ∃ u v, s = u ++ v ∧ (p v).isSome = true := by
  rw [findMatch?, Option.isSome_map]
  constructor
  · intro h
    obtain ⟨x, hx⟩ := Option.isSome_iff_exists.mp h
    obtain ⟨u, v, e, hv⟩ := exists_of_firstMatch hx
    exact ⟨u, v, e, Option.isSome_iff_exists.mpr ⟨x, hv⟩⟩
  · rintro ⟨u, v, rfl, hv⟩
    exact isSome_firstMatch_append hv

theorem findMatch?_append {a r : List Char}
    (h : ∀ u v, a = u ++ v → v ≠ [] → p (v ++ r) = none) :
    findMatch? p (a ++ r) = findMatch? p r := by
  unfold findMatch?
  rw [firstMatch_append h]
  cases r with
  | nil => rfl
  | cons c r => rfl

theorem findMatch?_of_head {s r : List Char} {a : α} (h : p s = some (a, r)) :
    findMatch? p s = some a := by
  rw [findMatch?, firstMatch_of_head h, Option.map_some]

end FreeSearches

end DeclAtlas.Text
