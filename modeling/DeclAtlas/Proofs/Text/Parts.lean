import DeclAtlas.Proofs.Text.Reading
import DeclAtlas.Text.Find

/-!
# Parts of written lines

Lines that are to be read are written from a few kinds of parts: blanks, words, and gaps, which are
blanks that must not be missing.  Each part carries what makes it one, and says how a reader passes
over it (`Word.read`, `Gap.read`, `Blanks.skip`).

`lines_endLines` is the same for whole texts: lines that are ended by line feeds are read back,
whatever they hold, as long as they are single lines (`IsLine`).  The other way round,
`eq_append_of_pieces` puts a text together again from the pieces between the occurrences of a
character.

Trimming takes blanks away at the ends only: a character that is not blank keeps what is trimmed on
its two sides apart (`trim_append_cons`).
-/

namespace DeclAtlas.Text

/-- White space, possibly none. -/
structure Blanks where
  text : List Char
  blank : ∀ c ∈ text, isBlank c = true

/-- White space that keeps two parts from each other. -/
structure Gap extends Blanks where
  ne_nil : text ≠ []

/-- A word. -/
structure Word where
  text : List Char
  ne_nil : text ≠ []
  word : ∀ c ∈ text, isWord c = true

/-- No blank. -/
def Blanks.none : Blanks := ⟨[], by simp⟩

/-- One space. -/
def Gap.space : Gap := ⟨⟨[' '], List.forall_mem_singleton.mpr rfl⟩, by decide⟩

/-- A word that is written out. -/
def Word.ofList (text : List Char) (hne : text ≠ []) (h : text.all isWord = true) : Word :=
  ⟨text, hne, List.all_eq_true.mp h⟩

/-- A word as a name. -/
def Word.name (w : Word) : String := String.ofList w.text

theorem Blanks.notMem (b : Blanks) {c : Char} (hc : isBlank c = false) : c ∉ b.text := fun h =>
  absurd ((b.blank c h).symm.trans hc) (by decide)

theorem Word.notMem (w : Word) {c : Char} (hc : isWord c = false) : c ∉ w.text := fun h =>
  absurd ((w.word c h).symm.trans hc) (by decide)

theorem isBlank_eq_false_of_any {s : List Char} (h : s.any isBlank = false) :
    ∀ c ∈ s, isBlank c = false := fun c hc => Bool.eq_false_iff.mpr (List.any_eq_false.mp h c hc)

/-! ### What a text begins with -/

/-- Whether a text is empty or begins with a character in `p`. -/
def StartsIn (p : Char → Prop) (s : List Char) : Prop := ∀ c ∈ s.head?, p c

section StartsIn

variable {p q : Char → Prop} {c : Char} {s r : List Char}

theorem startsIn_nil : StartsIn p [] := fun _ h => absurd h (by simp)

theorem startsIn_cons (h : p c) : StartsIn p (c :: s) := fun _ hd => Option.some.inj hd ▸ h

theorem StartsIn.imp (h : StartsIn p s) (hpq : ∀ c, p c → q c) : StartsIn q s :=
  fun c hc => hpq c (h c hc)

theorem startsIn_append (hs : ∀ c ∈ s, p c) (hr : StartsIn p r) : StartsIn p (s ++ r) := by
  cases s with
  | nil => exact hr
  | cons c s => exact startsIn_cons (hs c List.mem_cons_self)

theorem StartsIn.append (h : StartsIn p s) (hne : s ≠ []) : StartsIn p (s ++ r) := by
  cases s with
  | nil => exact absurd rfl hne
  | cons c s => exact h

theorem startsIn_append_of_ne_nil (hne : s ≠ []) (hs : ∀ c ∈ s, p c) : StartsIn p (s ++ r) :=
  StartsIn.append (fun c hc => hs c (List.mem_of_mem_head? hc)) hne

/-- A blank does not cut a stretch without blanks. -/
theorem exists_of_append_eq {a b : List Char} (hr : StartsIn (isBlank · = true) r)
    (ha : ∀ c ∈ a, isBlank c = false) (h : s ++ r = a ++ b) : ∃ u, s = a ++ u ∧ b = u ++ r := by
  rcases List.append_eq_append_iff.mp h with ⟨u, rfl, rfl⟩ | ⟨u, rfl, rfl⟩
  · cases u with
    | nil => exact ⟨[], by simp, rfl⟩
    | cons c u =>
      have hblank : isBlank c = true := hr c rfl
      have hnone := ha c (List.mem_append_right _ List.mem_cons_self)
      exact absurd (hblank.symm.trans hnone) (by decide)
  · exact ⟨u, rfl, rfl⟩

/-- A literal without blanks is read whatever follows a blank. -/
theorem literal?_append_startsIn {w : String} (hw : ∀ c ∈ w.toList, isBlank c = false)
    (hr : StartsIn (isBlank · = true) r) (s : List Char) :
    literal? w (s ++ r) = (literal? w s).map (· ++ r) := by
  cases h : literal? w s with
  | some t =>
    obtain rfl := literal?_eq_some.mp h
    rw [List.append_assoc, literal?_append]
    rfl
  | none =>
    cases hmore : literal? w (s ++ r) with
    | none => rfl
    | some t =>
      obtain ⟨u, rfl, -⟩ := exists_of_append_eq hr hw (literal?_eq_some.mp hmore)
      exact absurd (h.symm.trans (literal?_append w u)) nofun

/-- A run ends where it did, whatever follows a character that does not belong to it. -/
theorem run?_append_startsIn {f : Char → Bool} (hr : StartsIn (f · = false) r) (s : List Char) :
    run? f (s ++ r) = (run? f s).map fun x => (x.1, x.2 ++ r) := by
  have hsplit : (s ++ r).takeWhile f = s.takeWhile f ∧
      (s ++ r).dropWhile f = s.dropWhile f ++ r := by
    induction s with
    | nil =>
      constructor
      · exact takeWhile_append_of_head (w := []) nofun hr
      · exact dropWhile_append_of_head (w := []) nofun hr
    | cons c s ih =>
      by_cases hc : f c = true
      · simp [hc, ih.1, ih.2]
      · simp [hc]
  rw [run?, run?, hsplit.1, hsplit.2]
  cases s.takeWhile f <;> rfl

end StartsIn

/-- Characters that are neither blank nor part of a word. -/
def IsMark (c : Char) : Prop := isBlank c = false ∧ isWord c = false

/-! ### Passing over the parts -/

variable {r : List Char}

/-- A word ends where no character of a word follows. -/
theorem boundaryAfter_iff (w : Word) :
    boundaryAfter w.text r = true ↔ StartsIn (isWord · = false) r := by
  have hlast : w.text.getLast?.any isWord = true := by
    rw [List.getLast?_eq_some_getLast w.ne_nil]
    exact w.word _ (List.getLast_mem w.ne_nil)
  rw [boundaryAfter, hlast, StartsIn]
  cases r.head? with
  | none => simp
  | some c => simp

theorem Word.read (w : Word) (hr : StartsIn (isWord · = false) r) :
    word? (w.text ++ r) = some (w.text, r) :=
  run?_append w.ne_nil w.word hr

theorem Gap.read (g : Gap) (hr : StartsIn (isBlank · = false) r) : blanks? (g.text ++ r) = some r :=
  blanks?_append g.ne_nil g.blank hr

theorem Blanks.skip (b : Blanks) (hr : StartsIn (isBlank · = false) r) :
    trimStart (b.text ++ r) = r :=
  trimStart_append b.blank hr

/-- White space that is read off a text. -/
theorem exists_gap_of_blanks? {s : List Char} (h : blanks? s = some r) :
    ∃ g : Gap, s = g.text ++ r := by
  cases s with
  | nil => exact absurd h.symm (Option.some_ne_none r)
  | cons c s =>
    by_cases hc : isBlank c = true
    · rw [blanks?, if_pos hc, Option.some.injEq] at h
      have hall : ∀ d ∈ c :: s.takeWhile isBlank, isBlank d = true := by
        intro d hd
        rcases List.mem_cons.mp hd with rfl | hd
        · exact hc
        · exact List.all_eq_true.mp List.all_takeWhile d hd
      refine ⟨⟨⟨c :: s.takeWhile isBlank, hall⟩, List.cons_ne_nil _ _⟩, ?_⟩
      show c :: s = c :: s.takeWhile isBlank ++ r
      rw [← h, trimStart, List.cons_append, List.takeWhile_append_dropWhile]
    · rw [blanks?, if_neg hc] at h
      exact absurd h.symm (Option.some_ne_none r)

/-- Trimming takes away the blanks around a text and no more. -/
theorem trim_append {s : List Char} (a b : Blanks) (hne : s ≠ [])
    (hhead : StartsIn (isBlank · = false) s) (hlast : ∀ c ∈ s.getLast?, isBlank c = false) :
    trim (a.text ++ (s ++ b.text)) = s := by
  rw [trim, a.skip (hhead.append hne), trimEnd, dropEndWhile_append hlast b.blank]

/-- A text is what is left without its leading blanks, with blanks before it. -/
theorem exists_blanks_trimStart (s : List Char) : ∃ a : Blanks, s = a.text ++ trimStart s :=
  ⟨⟨s.takeWhile isBlank, List.all_eq_true.mp List.all_takeWhile⟩,
    List.takeWhile_append_dropWhile.symm⟩

/-- Without its leading blanks a text is what trimming leaves of it, and blanks. -/
theorem exists_trimStart_eq (s : List Char) : ∃ b : Blanks, trimStart s = trim s ++ b.text := by
  have hback : trim s ++ ((trimStart s).reverse.takeWhile isBlank).reverse = trimStart s := by
    rw [trim, trimEnd, dropEndWhile, ← List.reverse_append, List.takeWhile_append_dropWhile,
      List.reverse_reverse]
  refine ⟨⟨_, fun c hc => ?_⟩, hback.symm⟩
  exact List.all_eq_true.mp List.all_takeWhile c (List.mem_reverse.mp hc)

/-- A text is what trimming leaves of it, with blanks around it. -/
theorem exists_blanks_trim (s : List Char) : ∃ a b : Blanks, s = a.text ++ (trim s ++ b.text) := by
  obtain ⟨a, ha⟩ := exists_blanks_trimStart s
  obtain ⟨b, hb⟩ := exists_trimStart_eq s
  exact ⟨a, b, by rw [← hb, ← ha]⟩

theorem infix_trim (s : List Char) : trim s <:+: s := by
  obtain ⟨a, b, hs⟩ := exists_blanks_trim s
  exact ⟨a.text, b.text, by rw [List.append_assoc, ← hs]⟩

/-! ### Trimming around a character -/

section Trimming

variable {p : Char → Bool} {c : Char}

theorem dropWhile_append_cons (hc : p c = false) (a b : List Char) :
    (a ++ c :: b).dropWhile p = a.dropWhile p ++ c :: b := by
  induction a with
  | nil => exact List.dropWhile_cons_of_neg (Bool.eq_false_iff.mp hc)
  | cons d a ih =>
    by_cases hd : p d = true
    · rw [List.cons_append, List.dropWhile_cons_of_pos hd, List.dropWhile_cons_of_pos hd, ih]
    · rw [List.cons_append, List.dropWhile_cons_of_neg hd, List.dropWhile_cons_of_neg hd,
        List.cons_append]

theorem trimStart_append_cons (hc : isBlank c = false) (a b : List Char) :
    trimStart (a ++ c :: b) = trimStart a ++ c :: b :=
  dropWhile_append_cons hc a b

/-- Behind a character that is not blank nothing is trimmed away at the start. -/
theorem trimStart_append_of_mem {a : List Char} (ha : ∃ c ∈ a, isBlank c = false) (b : List Char) :
    trimStart (a ++ b) = trimStart a ++ b := by
  obtain ⟨c, hmem, hc⟩ := ha
  obtain ⟨u, v, rfl⟩ := List.append_of_mem hmem
  rw [List.append_assoc, List.cons_append, trimStart_append_cons hc, trimStart_append_cons hc,
    List.append_assoc, List.cons_append]

theorem trimEnd_append_cons (hc : isBlank c = false) (a b : List Char) :
    trimEnd (a ++ c :: b) = a ++ c :: trimEnd b := by
  have hrev : (a ++ c :: b).reverse = b.reverse ++ c :: a.reverse := by simp
  rw [trimEnd, dropEndWhile, hrev, dropWhile_append_cons hc]
  simp [trimEnd, dropEndWhile]

/-- **A character that is not blank keeps the trimming on its two sides apart.** -/
theorem trim_append_cons (hc : isBlank c = false) (a b : List Char) :
    trim (a ++ c :: b) = trimStart a ++ c :: trimEnd b := by
  rw [trim, trimStart_append_cons hc, trimEnd_append_cons hc]

theorem trimEnd_append_blanks (s : List Char) (b : Blanks) : trimEnd (s ++ b.text) = trimEnd s := by
  have hblank : ∀ c ∈ b.text.reverse, isBlank c = true :=
    fun c hc => b.blank c (List.mem_reverse.mp hc)
  rw [trimEnd, dropEndWhile, List.reverse_append, List.dropWhile_append_of_pos hblank]
  rfl

/-- Blanks around a text are trimmed away. -/
theorem trim_blanks_append (a b : Blanks) (s : List Char) :
    trim (a.text ++ (s ++ b.text)) = trim s := by
  have hlead : trimStart (a.text ++ (s ++ b.text)) = trimStart (s ++ b.text) :=
    List.dropWhile_append_of_pos a.blank
  rw [trim, trim, hlead]
  induction s with
  | nil =>
    have hnil : trimStart b.text = [] := by
      rw [← List.append_nil b.text]
      exact List.dropWhile_append_of_pos b.blank
    rw [List.nil_append, hnil]
    rfl
  | cons d s ih =>
    by_cases hd : isBlank d = true
    · have hdrop : ∀ r, trimStart (d :: r) = trimStart r := fun r => List.dropWhile_cons_of_pos hd
      rw [List.cons_append, hdrop, hdrop]
      exact ih (List.dropWhile_append_of_pos a.blank)
    · have hkeep : ∀ r, trimStart (d :: r) = d :: r := fun r => List.dropWhile_cons_of_neg hd
      rw [List.cons_append, hkeep, hkeep, ← List.cons_append, trimEnd_append_blanks]

/-- What trimming leaves does not end in a blank. -/
theorem getLast?_trim {s : List Char} (h : c ∈ (trim s).getLast?) : isBlank c = false := by
  rw [trim, trimEnd, dropEndWhile, List.getLast?_reverse] at h
  exact head_trimStart h

theorem trim_trim (s : List Char) : trim (trim s) = trim s := by
  obtain ⟨a, b, hs⟩ := exists_blanks_trim s
  rw [← trim_blanks_append a b (trim s), ← hs]

theorem exists_of_trimStart {s r : List Char} (h : trimStart s = c :: r) :
    ∃ a : Blanks, s = a.text ++ c :: r := by
  obtain ⟨a, ha⟩ := exists_blanks_trimStart s
  exact ⟨a, by rw [← h, ← ha]⟩

/-- Without its trailing blanks a text is blanks, and what trimming leaves of it. -/
theorem exists_trimEnd_eq (s : List Char) : ∃ a : Blanks, trimEnd s = a.text ++ trim s := by
  obtain ⟨a, b, hs⟩ := exists_blanks_trim s
  have htrim : trimEnd s = trimEnd (a.text ++ trim s) := by
    calc trimEnd s = trimEnd (a.text ++ trim s ++ b.text) := by rw [List.append_assoc, ← hs]
      _ = trimEnd (a.text ++ trim s) := trimEnd_append_blanks _ b
  rcases List.eq_nil_or_concat (trim s) with hnil | ⟨t, c, hlast⟩
  · refine ⟨.none, ?_⟩
    rw [htrim, hnil, List.append_nil, ← List.nil_append a.text, trimEnd_append_blanks]
    rfl
  · have hc : isBlank c = false := by
      refine head_trimStart (s := (trimStart s).reverse) ?_
      have hrev : trimStart (trimStart s).reverse = (trim s).reverse := by
        rw [trim, trimEnd, dropEndWhile, List.reverse_reverse]
        rfl
      rw [hrev, hlast, List.concat_eq_append, List.reverse_concat, List.head?_cons]
    refine ⟨a, ?_⟩
    rw [htrim, hlast, List.concat_eq_append, ← List.append_assoc, trimEnd_append_cons hc]
    rfl

/-- Trimming takes away no character that is not blank. -/
theorem count_trim (hc : isBlank c = false) (s : List Char) : (trim s).count c = s.count c := by
  obtain ⟨a, b, hs⟩ := exists_blanks_trim s
  have hcount := congrArg (List.count c) hs
  rw [List.count_append, List.count_append, List.count_eq_zero.mpr (a.notMem hc),
    List.count_eq_zero.mpr (b.notMem hc)] at hcount
  omega

theorem mem_trim_iff (hc : isBlank c = false) {s : List Char} : c ∈ trim s ↔ c ∈ s := by
  rw [← List.count_pos_iff, count_trim hc, List.count_pos_iff]

theorem trim_eq_nil_iff {s : List Char} : trim s = [] ↔ ∀ c ∈ s, isBlank c = true := by
  constructor
  · intro h c hc
    cases hblank : isBlank c with
    | true => rfl
    | false =>
      have hcount := count_trim hblank s
      rw [h, List.count_nil] at hcount
      exact absurd hc (List.count_eq_zero.mp hcount.symm)
  · intro h
    have hnil : trim (Blanks.text ⟨s, h⟩ ++ ([] ++ Blanks.none.text)) = trim [] :=
      trim_blanks_append _ _ []
    rwa [List.nil_append, Blanks.none, List.append_nil] at hnil

theorem count_flatten_map_trim (hc : isBlank c = false) (ls : List (List Char)) :
    (ls.map trim).flatten.count c = ls.flatten.count c := by
  have htrim : List.count c ∘ trim = List.count c := funext (count_trim hc)
  rw [List.count_flatten, List.map_map, htrim, ← List.count_flatten]

end Trimming

/-- After blanks nothing but a word can be read as one. -/
theorem word?_eq_none (hr : StartsIn (isWord · = false) r) : word? r = none := run?_eq_none hr

theorem Word.startsIn (w : Word) : StartsIn (isWord · = true) (w.text ++ r) :=
  startsIn_append_of_ne_nil w.ne_nil w.word

theorem Word.startsIn_not_blank (w : Word) : StartsIn (isBlank · = false) (w.text ++ r) :=
  w.startsIn.imp fun _ => isBlank_eq_false_of_isWord

theorem Gap.startsIn_not_word (g : Gap) : StartsIn (isWord · = false) (g.text ++ r) :=
  startsIn_append_of_ne_nil g.ne_nil fun c hc => isWord_eq_false_of_isBlank (g.blank c hc)

theorem Blanks.startsIn_not_word (b : Blanks) (hr : StartsIn (isWord · = false) r) :
    StartsIn (isWord · = false) (b.text ++ r) :=
  startsIn_append (fun c hc => isWord_eq_false_of_isBlank (b.blank c hc)) hr

/-! ### Lines of a text -/

/-- A single line: it holds no line feed and would not lose a carriage return at its end. -/
def IsLine (l : Line) : Prop := '\n' ∉ l ∧ l.getLast? ≠ some '\r'

instance (l : Line) : Decidable (IsLine l) := inferInstanceAs (Decidable (_ ∧ _))

/-- Lines as a text, each ended by a line feed. -/
def endLines (ls : List Line) : List Char := ls.flatMap (· ++ ['\n'])

theorem lines_append_of_isLine {l : Line} (h : IsLine l) (r : List Char) :
    lines (l ++ '\n' :: r) = l :: lines r := by
  obtain ⟨hn, hr⟩ := h
  induction l with
  | nil => rw [List.nil_append, lines]
  | cons c l ih =>
    simp only [List.mem_cons, not_or] at hn
    rw [List.cons_append, lines]
    · cases l with
      | nil => rw [List.nil_append, lines]
      | cons d l => rw [ih hn.2 (by rwa [List.getLast?_cons_cons] at hr)]
    · exact fun h => hn.1 h.symm
    · -- a carriage return does not stand directly before the line feed
      intro t hc ht
      cases l with
      | nil => exact hr (by rw [hc]; rfl)
      | cons d l =>
        rw [List.cons_append, List.cons.injEq] at ht
        exact hn.2 (ht.1 ▸ List.mem_cons_self)

/-- **Lines that are ended by line feeds are read back.** -/
theorem lines_endLines {ls : List Line} (h : ∀ l ∈ ls, IsLine l) : lines (endLines ls) = ls := by
  induction ls with
  | nil => rfl
  | cons l ls ih =>
    rw [endLines, List.flatMap_cons, List.append_assoc, List.singleton_append,
      lines_append_of_isLine (h l List.mem_cons_self)]
    exact congrArg (l :: ·) (ih fun x hx => h x (List.mem_cons_of_mem l hx))

/-- No line of a text holds a line feed. -/
theorem newline_notMem_of_mem_lines {s : List Char} {l : Line} (hl : l ∈ lines s) : '\n' ∉ l := by
  fun_induction lines s generalizing l with
  | case1 => exact absurd hl List.not_mem_nil
  | case2 r ih =>
    rcases List.mem_cons.mp hl with rfl | hl
    · exact List.not_mem_nil
    · exact ih hl
  | case3 r ih =>
    rcases List.mem_cons.mp hl with rfl | hl
    · exact List.not_mem_nil
    · exact ih hl
  | case4 c r hbreak _ hnone _ =>
    obtain rfl := List.mem_singleton.mp hl
    simpa using Ne.symm hbreak
  | case5 c r hbreak _ k ks hr ih =>
    rw [hr] at ih
    rcases List.mem_cons.mp hl with rfl | hl
    · rw [List.mem_cons, not_or]
      exact ⟨Ne.symm hbreak, ih List.mem_cons_self⟩
    · exact ih (List.mem_cons_of_mem k hl)

theorem lines_ne_nil {s : List Char} (h : s ≠ []) : lines s ≠ [] := by
  fun_cases lines s with
  | case1 => exact absurd rfl h
  | case2 => simp
  | case3 => simp
  | case4 => simp
  | case5 => simp

/-- **A text that ends with a line feed has its lines before those of what follows it.** -/
theorem lines_append {a : List Char} (h : ∀ c ∈ a.getLast?, c = '\n') (b : List Char) :
    lines (a ++ b) = lines a ++ lines b := by
  have htail : ∀ {c : Char} {s : List Char}, (∀ x ∈ (c :: s).getLast?, x = '\n') →
      ∀ x ∈ s.getLast?, x = '\n' := by
    intro c s hs x hx
    refine hs x ?_
    rw [List.getLast?_cons, Option.mem_def.mp hx]
    rfl
  fun_induction lines a with
  | case1 => rfl
  | case2 r ih => rw [List.cons_append, lines, ih (htail h), List.cons_append]
  | case3 r ih =>
    rw [List.cons_append, List.cons_append, lines, ih (htail (htail h)), List.cons_append]
  | case4 c r hbreak _ hnone _ =>
    cases r with
    | nil => exact absurd (h c rfl) hbreak
    | cons d s => exact absurd hnone (lines_ne_nil (List.cons_ne_nil d s))
  | case5 c r hbreak hreturn l ls hr ih =>
    obtain ⟨d, s, rfl⟩ : ∃ d s, r = d :: s := by
      cases r with
      | nil => exact absurd (h c rfl) hbreak
      | cons d s => exact ⟨d, s, rfl⟩
    rw [List.cons_append, lines, ih (htail h), hr]
    · rfl
    · exact hbreak
    · intro t hc ht
      exact hreturn s hc (by rw [(List.cons.inj ht).1])

theorem prefix_endLines {m n : Nat} (h : m ≤ n) (ls : List Line) :
    endLines (ls.take m) <+: endLines (ls.take n) := by
  obtain ⟨rest, hrest⟩ := List.take_prefix_take_left h
  exact ⟨endLines rest, by rw [← hrest, endLines, endLines, endLines, List.flatMap_append]⟩

/-! ### Pieces of a text -/

section Pieces

variable {c : Char} {s : List Char}

theorem pieces_ne_nil (c : Char) (s : List Char) : pieces c s ≠ [] := by
  cases s with
  | nil => exact List.cons_ne_nil _ _
  | cons d r =>
    rw [pieces]
    split
    · exact List.cons_ne_nil _ _
    · split
      · exact List.cons_ne_nil _ _
      · exact List.cons_ne_nil _ _

theorem pieces_eq_splitOn (c : Char) (s : List Char) : pieces c s = List.splitOn c s := by
  induction s with
  | nil => rfl
  | cons d r ih =>
    obtain ⟨p, ps, hr⟩ := List.exists_cons_of_ne_nil (pieces_ne_nil c r)
    rw [List.splitOn, List.splitOnP_cons_eq_if_modifyHead, ← List.splitOn, ← ih, pieces, hr]
    by_cases hd : d = c <;> simp [hd]

/-- The pieces, with the separator before each but the first, make up the text. -/
theorem eq_append_of_pieces {p : List Char} {ps : List (List Char)} (h : pieces c s = p :: ps) :
    s = p ++ ps.flatMap (c :: ·) := by
  induction s generalizing p ps with
  | nil =>
    obtain ⟨rfl, rfl⟩ := List.cons.inj h
    rfl
  | cons d r ih =>
    obtain ⟨q, qs, hr⟩ := List.exists_cons_of_ne_nil (pieces_ne_nil c r)
    simp only [pieces, hr] at h
    split at h
    · rename_i hd
      obtain ⟨rfl, rfl⟩ := List.cons.inj h
      rw [hd, ih hr, List.nil_append, List.flatMap_cons, List.cons_append]
    · obtain ⟨rfl, rfl⟩ := List.cons.inj h
      rw [ih hr, List.cons_append]

/-- A text without the separator is one piece. -/
theorem pieces_of_notMem (h : c ∉ s) : pieces c s = [s] := by
  induction s with
  | nil => rfl
  | cons d r ih =>
    rw [List.mem_cons, not_or] at h
    rw [pieces, ih h.2]
    exact if_neg (Ne.symm h.1)

/-- **A separator keeps the pieces on its two sides apart.** -/
theorem pieces_append_cons (c : Char) (a b : List Char) :
    pieces c (a ++ c :: b) = pieces c a ++ pieces c b := by
  obtain ⟨q, qs, hb⟩ := List.exists_cons_of_ne_nil (pieces_ne_nil c b)
  induction a with
  | nil => simp [pieces, hb]
  | cons d a ih =>
    obtain ⟨p, ps, ha⟩ := List.exists_cons_of_ne_nil (pieces_ne_nil c a)
    rw [List.cons_append, pieces, ih, pieces, ha]
    by_cases hd : d = c <;> simp [hd]

theorem pieces_replicate (c : Char) (k : Nat) :
    pieces c (List.replicate k c) = List.replicate (k + 1) [] := by
  induction k with
  | zero => rfl
  | succ k ih =>
    have hsplit := pieces_append_cons c [] (List.replicate k c)
    rw [List.nil_append, ih] at hsplit
    exact hsplit

/-- Separators at the end add empty pieces only. -/
theorem pieces_append_replicate (h : c ∉ s) (k : Nat) :
    pieces c (s ++ List.replicate k c) = s :: List.replicate k [] := by
  cases k with
  | zero =>
    rw [List.replicate_zero, List.append_nil]
    exact pieces_of_notMem h
  | succ k =>
    rw [List.replicate_succ, pieces_append_cons, pieces_of_notMem h, pieces_replicate]
    rfl

theorem joinWith_cons_eq_append (c : Char) (p : List Char) (ps : List (List Char)) :
    joinWith [c] (p :: ps) = p ++ ps.flatMap (c :: ·) := by
  induction ps generalizing p with
  | nil => exact (List.append_nil p).symm
  | cons q qs ih =>
    rw [joinWith, ih, List.flatMap_cons, List.append_assoc]
    · rfl
    · exact List.cons_ne_nil q qs

theorem count_flatMap_cons {x : Char} (hx : c ≠ x) (ps : List (List Char)) :
    (ps.flatMap (c :: ·)).count x = ps.flatten.count x := by
  induction ps with
  | nil => rfl
  | cons p ps ih =>
    rw [List.flatMap_cons, List.count_append, ih, List.count_cons_of_ne hx, List.flatten_cons,
      List.count_append]

/-- The pieces with the separator between them are the text. -/
theorem joinWith_pieces (c : Char) (s : List Char) : joinWith [c] (pieces c s) = s := by
  obtain ⟨p, ps, hs⟩ := List.exists_cons_of_ne_nil (pieces_ne_nil c s)
  rw [hs, joinWith_cons_eq_append, ← eq_append_of_pieces hs]

/-- Texts without the separator are the pieces of what they are joined to. -/
theorem pieces_joinWith {ps : List (List Char)} (hne : ps ≠ []) (h : ∀ p ∈ ps, c ∉ p) :
    pieces c (joinWith [c] ps) = ps := by
  induction ps with
  | nil => exact absurd rfl hne
  | cons p ps ih =>
    have hp : c ∉ p := h p List.mem_cons_self
    cases ps with
    | nil => exact pieces_of_notMem hp
    | cons q qs =>
      have hjoin : joinWith [c] (p :: q :: qs) = p ++ c :: joinWith [c] (q :: qs) := by
        rw [joinWith, List.append_assoc]
        · rfl
        · exact List.cons_ne_nil q qs
      rw [hjoin, pieces_append_cons, pieces_of_notMem hp,
        ih (List.cons_ne_nil q qs) fun x hx => h x (List.mem_cons_of_mem p hx)]
      rfl

theorem notMem_of_mem_pieces {p : List Char} (hp : p ∈ pieces c s) : c ∉ p := by
  induction s generalizing p with
  | nil =>
    rw [List.mem_singleton.mp hp]
    exact List.not_mem_nil
  | cons d r ih =>
    obtain ⟨q, qs, hr⟩ := List.exists_cons_of_ne_nil (pieces_ne_nil c r)
    simp only [pieces, hr] at hp
    have hq : c ∉ q := ih (hr ▸ List.mem_cons_self)
    have hqs : ∀ x ∈ qs, c ∉ x := fun x hx => ih (hr ▸ List.mem_cons_of_mem q hx)
    split at hp
    · rcases List.mem_cons.mp hp with rfl | hp
      · exact List.not_mem_nil
      · exact (List.mem_cons.mp hp).elim (fun h => h ▸ hq) (hqs p)
    · rename_i hd
      rcases List.mem_cons.mp hp with rfl | hp
      · rw [List.mem_cons, not_or]
        exact ⟨Ne.symm hd, hq⟩
      · exact hqs p hp

/-- The first piece is what precedes the first separator. -/
theorem takeWhile_ne_of_pieces {p : List Char} {ps : List (List Char)}
    (h : pieces c s = p :: ps) : s.takeWhile (· ≠ c) = p := by
  have hp : ∀ d ∈ p, decide (d ≠ c) = true := fun d hd =>
    decide_eq_true fun hdc => notMem_of_mem_pieces (h ▸ List.mem_cons_self) (hdc ▸ hd)
  have hrest : (ps.flatMap (c :: ·)).takeWhile (· ≠ c) = [] := by cases ps <;> simp
  rw [eq_append_of_pieces h, List.takeWhile_append_of_pos hp, hrest, List.append_nil]

end Pieces

end DeclAtlas.Text
