import DeclAtlas.Pattern.Reader
import DeclAtlas.Proofs.Pattern.Matching
import Mathlib.Algebra.GroupWithZero.Nat

/-!
# Texts in patterns

A text without signs stands for itself in a pattern.  This file follows such a text from the reading of
the pattern to its matches.

* `group?_letters`: it is read as its characters, one after another.
* `Frame.ofString?_text`: it is read so in its place in a larger pattern, too, whose size can only be a
  reason to refuse the whole.
* `spans_letters`, `spans_star`: the characters span the text itself, and a repeated set spans the runs of
  its members.
* `Frame.isAdmitted_of_length_le`, `Frame.not_isAdmitted_of_lt`: each character takes room, so a text that is
  too long is refused, and a short one is not.
-/

namespace DeclAtlas

namespace Pattern

open Text

/-! ### Reading -/

/-- The characters that do not stand for themselves. -/
def signs : List Char := [')', '|', '*', '+', '?', '{', '[', '(', '.', '^', '$', '\\']

/-- A text whose characters all stand for themselves. -/
def Plain (w : List Char) : Prop := ∀ c ∈ w, c ∉ signs

/-- The pattern of a character. -/
def letter (c : Char) : Pattern := .one (.single c)

/-- The patterns of the characters of a text. -/
def letters (w : List Char) : List Pattern := w.map letter

/-- Patterns as the items of a branch, which keeps the newest first. -/
def itemsOf (ps : List Pattern) : Branch := (ps.map fun p => Item.part ⟨p, 0⟩).reverse

/-- Switches under which characters stand for themselves. -/
structure Switches.Literal (f : Switches) : Prop where
  verbose : f.verbose = false
  caseless : f.caseless = false

section Reading

variable {f : Switches} {names : List (List Char)} {done : List (Nested Pattern)} {b : Branch}

theorem Switches.Literal.skip (hf : f.Literal) (s : List Char) : f.skip s = s := by
  rw [Switches.skip, hf.verbose]
  rfl

theorem Switches.Literal.char (hf : f.Literal) (c : Char) : f.char c = letter c := by
  rw [Switches.char, Switches.fold, hf.caseless]
  rfl

theorem group?_letter (hf : f.Literal) {c : Char} (hc : c ∉ signs) (fuel : Nat) (r : List Char) :
    group? (fuel + 1) f names done b (c :: r) =
      group? fuel f names done (.part ⟨letter c, 0⟩ :: b) r := by
  rw [group?, hf.skip, ← hf.char]
  simp only [signs, List.mem_cons, List.not_mem_nil, or_false, not_or] at hc
  split <;> simp_all

/-- **A text without signs is read character by character.** -/
theorem group?_letters (hf : f.Literal) {w : List Char} (hw : Plain w) (fuel : Nat)
    (r : List Char) :
    group? (fuel + w.length) f names done b (w ++ r) =
      group? fuel f names done (itemsOf (letters w) ++ b) r := by
  induction w generalizing b with
  | nil => rfl
  | cons c w ih =>
    rw [List.length_cons, ← Nat.add_assoc, List.cons_append,
      group?_letter hf (hw c List.mem_cons_self), ih fun d hd => hw d (List.mem_cons_of_mem c hd)]
    simp [letters, itemsOf]

end Reading

theorem dropReluctance_of_head? {r : List Char} (h : r.head? ≠ some '?') : dropReluctance r = r := by
  cases r with
  | nil => rfl
  | cons c r =>
    rw [dropReluctance.eq_2]
    rintro t hc
    obtain ⟨rfl, -⟩ := List.cons.inj hc
    exact h rfl

/-- The patterns of the items of a branch, the oldest first. -/
def partsOf (b : Branch) : List Pattern := b.reverse.map fun i => i.nested.value

theorem partsOf_append (a b : Branch) : partsOf (a ++ b) = partsOf b ++ partsOf a := by
  simp [partsOf]

theorem partsOf_itemsOf (ps : List Pattern) : partsOf (itemsOf ps) = ps := by
  simp [partsOf, itemsOf, Item.nested, Function.comp_def]

theorem value_branchPattern (b : Branch) : (branchPattern b).value = inOrder (partsOf b) := by
  simp only [branchPattern, partsOf, ← List.map_reverse, List.map_map]
  rfl

theorem foldl_max_depth_le {n m : Nat} {ps : List (Nested Pattern)} (hm : m ≤ n)
    (hps : ∀ p ∈ ps, p.depth ≤ n) : ps.foldl (fun d p => max d p.depth) m ≤ n := by
  induction ps generalizing m with
  | nil => exact hm
  | cons p ps ih =>
    obtain ⟨hp, hrest⟩ := List.forall_mem_cons.mp hps
    exact ih (Nat.max_le.mpr ⟨hm, hp⟩) hrest

theorem depth_branchPattern_le {n : Nat} {b : Branch} (h : ∀ i ∈ b, i.nested.depth ≤ n) :
    (branchPattern b).depth ≤ n + 1 := by
  have hmembers : ∀ p ∈ b.map Item.nested, p.depth ≤ n := by simpa using h
  have hdeepest := foldl_max_depth_le (Nat.zero_le n) hmembers
  simp only [branchPattern, depthTogether]
  split <;> omega

/-- Whether a pattern is not a sequence of others. -/
def isPart : Pattern → Bool
  | .seq _ _ => false
  | _ => true

/-- The text of a pattern with a place for a name, and what is read of it before and behind the
place. -/
structure Frame where
  /-- The text before the name. -/
  lead : String
  /-- The text behind the name. -/
  tail : String
  /-- The switches that hold for the name. -/
  switches : Switches
  /-- What is read before the name. -/
  before : Branch
  /-- What is read behind the name. -/
  after : Branch
  literal : switches.Literal
  /-- Groups that are closed before the name have to be read with the steps that are left. -/
  reads_lead : ∃ steps spare, steps + spare ≤ lead.toList.length ∧ ∀ fuel r, spare ≤ fuel →
    (∀ c ∈ r.head?, c ∉ signs) →
    group? (fuel + steps) {} [] [] [] (lead.toList ++ r) = group? fuel switches [] [] before r
  reads_tail : ∃ steps, steps ≤ tail.toList.length + 1 ∧ ∀ fuel b,
    group? (fuel + steps) switches [] [] b tail.toList = some (branchPattern (after ++ b), [], [])
  shallow : ∀ i ∈ after ++ before, i.nested.depth < depthLimit
  single : ∀ i ∈ after ++ before, i.nested.value.isPart = true

namespace Frame

/-- The text with a name in its place. -/
def text (F : Frame) (name : String) : String := F.lead ++ name ++ F.tail

/-- The parts of the pattern with a name in its place. -/
def parts (F : Frame) (name : String) : List Pattern :=
  partsOf F.before ++ (letters name.toList ++ partsOf F.after)

/-- **A name is read in its place.**  Only its size can be a reason to refuse the whole pattern. -/
theorem ofString?_text (F : Frame) {name : String} (hne : name.toList ≠ [])
    (hname : Plain name.toList) :
    ofString? (F.text name) =
      if (inOrder (F.parts name)).fits then some (inOrder (F.parts name)) else none := by
  obtain ⟨leadSteps, spare, hleadSteps, hlead⟩ := F.reads_lead
  obtain ⟨tailSteps, htailSteps, htail⟩ := F.reads_tail
  have htext : (F.text name).toList = F.lead.toList ++ (name.toList ++ F.tail.toList) := by
    rw [text, String.toList_append, String.toList_append, List.append_assoc]
  have hfuel : (F.text name).length + 1 = (F.lead.toList.length - leadSteps +
      (F.tail.toList.length + 1 - tailSteps) + tailSteps + name.toList.length) + leadSteps := by
    rw [← String.length_toList, htext]
    simp only [List.length_append]
    omega
  have hhead : ∀ c ∈ (name.toList ++ F.tail.toList).head?, c ∉ signs := by
    cases hcs : name.toList with
    | nil => exact absurd hcs hne
    | cons c cs =>
      intro d hd
      obtain rfl := Option.some.inj hd
      exact hname c (hcs ▸ List.mem_cons_self)
  let b := F.after ++ (itemsOf (letters name.toList) ++ F.before)
  have hread : group? ((F.text name).length + 1) {} [] [] [] (F.text name).toList =
      some (branchPattern b, [], []) := by
    rw [hfuel, htext, hlead _ _ (by omega) hhead, group?_letters F.literal hname, htail]
  have hvalue : (branchPattern b).value = inOrder (F.parts name) := by
    rw [value_branchPattern, partsOf_append, partsOf_append, partsOf_itemsOf, List.append_assoc,
      parts]
  have hdepth : (branchPattern b).depth ≤ depthLimit := by
    refine depth_branchPattern_le (n := depthLimit - 1) fun i hi => Nat.le_sub_one_of_lt ?_
    rcases List.mem_append.mp hi with hi | hi
    · exact F.shallow i (List.mem_append_left _ hi)
    rcases List.mem_append.mp hi with hi | hi
    · obtain ⟨p, -, rfl⟩ := List.mem_map.mp (List.mem_reverse.mp hi)
      exact Nat.zero_lt_succ _
    · exact F.shallow i (List.mem_append_right _ hi)
  rw [ofString?, hread, ← hvalue]
  simp only [hdepth, decide_true, Bool.true_and]

end Frame

/-- No sign is part of a word. -/
theorem plain_of_isWord {w : List Char} (h : ∀ c ∈ w, isWord c = true) : Plain w := by
  intro c hc hsign
  have hsigns : (signs.all fun c => !isWord c) = true := by decide +kernel
  have hc' := List.all_eq_true.mp hsigns c hsign
  rw [h c hc] at hc'
  exact Bool.false_ne_true hc'

/-! ### Matching -/

section Matching

variable {x y : Spot}

theorem spans_inOrder_append {ps qs : List Pattern} :
    (inOrder (ps ++ qs)).Spans x y ↔ ∃ z, (inOrder ps).Spans x z ∧ (inOrder qs).Spans z y := by
  induction ps generalizing x with
  | nil =>
    simp [inOrder, Spans]
  | cons p ps ih =>
    simp only [List.cons_append, inOrder, spans_andThen, ih]
    constructor
    · rintro ⟨w, hp, z, hps, hqs⟩
      exact ⟨z, ⟨w, hp, hps⟩, hqs⟩
    · rintro ⟨z, ⟨w, hp, hps⟩, hqs⟩
      exact ⟨w, hp, z, hps, hqs⟩

theorem ordered_inOrder {ps : List Pattern} (h : ∀ p ∈ ps, p.Ordered) : (inOrder ps).Ordered := by
  induction ps with
  | nil => exact trivial
  | cons p ps ih =>
    obtain ⟨hp, hps⟩ := List.forall_mem_cons.mp h
    exact hp.andThen (ih hps)

theorem spans_inOrder_nil : (inOrder []).Spans x y ↔ y = x := Iff.rfl

theorem spans_inOrder_cons {p : Pattern} {ps : List Pattern} :
    (inOrder (p :: ps)).Spans x y ↔ ∃ z, p.Spans x z ∧ (inOrder ps).Spans z y := spans_andThen

/-- The spot behind a text that has been passed over. -/
def Spot.after (x : Spot) (w r : List Char) : Spot := ⟨w.getLast?.or x.before, r⟩

theorem Spot.after_cons (x : Spot) (c : Char) (w r : List Char) :
    (Spot.mk (some c) (w ++ r)).after w r = x.after (c :: w) r := by
  rw [after, after, List.getLast?_cons]
  cases w.getLast? <;> rfl

/-- A character takes itself. -/
theorem spans_one {s : CharSet} :
    (Pattern.one s).Spans x y ↔ ∃ c r, s.contains c = true ∧ x.rest = c :: r ∧ y = ⟨some c, r⟩ := by
  constructor
  · rintro ⟨c, hc, hrest, hbefore⟩
    exact ⟨c, y.rest, hc, hrest, by rw [← hbefore]⟩
  · rintro ⟨c, r, hc, hrest, rfl⟩
    exact ⟨c, hc, hrest, rfl⟩

/-- **The characters of a text span the text.** -/
theorem spans_letters {w : List Char} :
    (inOrder (letters w)).Spans x y ↔ ∃ r, x.rest = w ++ r ∧ y = x.after w r := by
  induction w generalizing x with
  | nil => simp [letters, inOrder, Spans, Spot.after]
  | cons c w ih =>
    rw [letters, List.map_cons, spans_inOrder_cons]
    simp only [letter, spans_one, CharSet.contains_single]
    constructor
    · rintro ⟨_, ⟨_, r, rfl, hrest, rfl⟩, hw⟩
      obtain ⟨t, rfl, rfl⟩ := ih.mp hw
      exact ⟨t, hrest, Spot.after_cons x c w t⟩
    · rintro ⟨t, hrest, rfl⟩
      refine ⟨⟨some c, w ++ t⟩, ⟨c, w ++ t, rfl, hrest, rfl⟩, ih.mpr ⟨t, rfl, ?_⟩⟩
      rw [Spot.after_cons]

theorem times_spans_one {s : CharSet} {n : Nat} :
    Times (Pattern.one s).Spans n x y ↔
      ∃ w r, w.length = n ∧ (∀ c ∈ w, s.contains c = true) ∧ x.rest = w ++ r ∧
        y = x.after w r := by
  induction n generalizing x with
  | zero =>
    constructor
    · rintro rfl
      exact ⟨[], y.rest, rfl, by simp, rfl, rfl⟩
    · rintro ⟨w, r, hw, -, hrest, rfl⟩
      obtain rfl := List.eq_nil_of_length_eq_zero hw
      rw [Times, ← show x.rest = r from hrest]
      rfl
  | succ n ih =>
    rw [Times]
    simp only [spans_one, ih]
    constructor
    · rintro ⟨_, ⟨c, _, hc, hrest, rfl⟩, w, r, hw, hall, rfl, rfl⟩
      exact ⟨c :: w, r, congrArg (· + 1) hw, List.forall_mem_cons.mpr ⟨hc, hall⟩, hrest,
        Spot.after_cons x c w r⟩
    · rintro ⟨w, r, hw, hall, hrest, rfl⟩
      obtain ⟨c, w, rfl⟩ := List.exists_cons_of_length_eq_add_one hw
      obtain ⟨hc, hall⟩ := List.forall_mem_cons.mp hall
      exact ⟨⟨some c, w ++ r⟩, ⟨c, w ++ r, hc, hrest, rfl⟩, w, r, Nat.succ.inj hw, hall, rfl,
        (Spot.after_cons x c w r).symm⟩

/-- **A repeated set spans the runs of its members.** -/
theorem spans_star {s : CharSet} :
    (star (.one s)).Spans x y ↔
      ∃ w r, (∀ c ∈ w, s.contains c = true) ∧ x.rest = w ++ r ∧ y = x.after w r := by
  constructor
  · rintro ⟨n, -, -, h⟩
    obtain ⟨w, r, -, hw⟩ := times_spans_one.mp h
    exact ⟨w, r, hw⟩
  · rintro ⟨w, r, hw⟩
    exact ⟨w.length, Nat.zero_le _, by simp, times_spans_one.mpr ⟨w, r, rfl, hw⟩⟩

end Matching

/-! ### Room -/

theorem literal?_letter (c : Char) :
    literal? (letter c) = some (encode [Char.ofNat c.toNat]) := by
  have hranges : (CharSet.single c).ranges = [(c.toNat, c.toNat)] := by
    simp [CharSet.single, CharSet.range, CharSet.ofRanges, CharSet.setApart, CharSet.addRange]
  simp [letter, literal?, hranges]

theorem room_letter (d : Direction) (c : Char) :
    (letter c).room d = (encode [Char.ofNat c.toNat]).length * stateRoom := by
  have hliteral := literal?_letter c
  rw [letter] at hliteral ⊢
  rw [room, hliteral]

theorem stateRoom_le_room_letter (d : Direction) (c : Char) : stateRoom ≤ (letter c).room d := by
  have hpos : 0 < (encode [Char.ofNat c.toNat]).length := by
    rw [encode, List.flatMap_singleton, String.length_utf8EncodeChar]
    exact Char.utf8Size_pos _
  rw [room_letter]
  exact Nat.le_mul_of_pos_left _ hpos

theorem room_letter_le (d : Direction) (c : Char) : (letter c).room d ≤ 4 * stateRoom := by
  rw [room_letter, encode, List.flatMap_singleton, String.length_utf8EncodeChar]
  exact Nat.mul_le_mul_right _ (Char.utf8Size_le_four _)

theorem wayOut_le (d : Direction) (p : Pattern) : wayOut d p ≤ branchRoom := by
  rw [wayOut]
  split
  · exact Nat.le_refl _
  · exact Nat.zero_le _

theorem andThen_cases {p : Pattern} (hp : p.isPart = true) (q : Pattern) :
    p = .empty ∧ andThen p q = q ∨ q = .empty ∧ andThen p q = p ∨ andThen p q = .seq p q := by
  cases p with
  | seq => exact absurd hp Bool.false_ne_true
  | empty => exact .inl ⟨rfl, rfl⟩
  | _ =>
    cases q with
    | empty => exact .inr (.inl ⟨rfl, rfl⟩)
    | _ => exact .inr (.inr rfl)

theorem le_room_seq (d : Direction) (p q : Pattern) :
    p.room d + q.room d ≤ (Pattern.seq p q).room d := by
  rw [room.eq_def d (.seq p q)]
  exact Nat.le_add_right _ _

theorem room_seq_le (d : Direction) (p q : Pattern) :
    (Pattern.seq p q).room d ≤ p.room d + branchRoom + q.room d := by
  have hp := wayOut_le d p
  have hq := wayOut_le d q
  rw [room.eq_def d (.seq p q)]
  cases d <;> dsimp only <;> omega

/-- The room of parts of a sequence, with their ways out. -/
def partsRoom (d : Direction) (ps : List Pattern) : Nat :=
  (ps.map fun p => p.room d + branchRoom).sum

theorem partsRoom_nil (d : Direction) : partsRoom d [] = 0 := rfl

theorem partsRoom_cons (d : Direction) (p : Pattern) (ps : List Pattern) :
    partsRoom d (p :: ps) = p.room d + branchRoom + partsRoom d ps := rfl

theorem partsRoom_append (d : Direction) (ps qs : List Pattern) :
    partsRoom d (ps ++ qs) = partsRoom d ps + partsRoom d qs := by
  rw [partsRoom, List.map_append, List.sum_append_nat]
  rfl

theorem partsRoom_letters_le (d : Direction) (w : List Char) :
    partsRoom d (letters w) ≤ w.length * (4 * stateRoom + branchRoom) := by
  induction w with
  | nil => exact Nat.zero_le _
  | cons c w ih =>
    have hletter := room_letter_le d c
    rw [letters, List.map_cons, partsRoom_cons, List.length_cons, Nat.succ_mul]
    rw [letters] at ih
    omega

theorem room_inOrder_le (d : Direction) {ps : List Pattern} (h : ∀ p ∈ ps, p.isPart = true) :
    (inOrder ps).room d ≤ partsRoom d ps + stateRoom := by
  induction ps with
  | nil =>
    rw [inOrder, room]
    exact Nat.le_add_left _ _
  | cons p ps ih =>
    obtain ⟨hp, hps⟩ := List.forall_mem_cons.mp h
    have hrest := ih hps
    have hfirst : (inOrder (p :: ps)).room d ≤
        p.room d + branchRoom + (inOrder ps).room d := by
      rw [inOrder]
      rcases andThen_cases hp (inOrder ps) with ⟨-, hq⟩ | ⟨-, hp'⟩ | hseq
      · rw [hq]
        exact Nat.le_add_left _ _
      · rw [hp', Nat.add_assoc]
        exact Nat.le_add_right _ _
      · rw [hseq]
        exact room_seq_le d p _
    rw [partsRoom_cons]
    omega

/-- What stands before a sequence adds to its room. -/
theorem le_room_inOrder_append (d : Direction) {ps qs : List Pattern}
    (h : ∀ p ∈ ps, p.isPart = true) (hqs : inOrder qs ≠ .empty) :
    inOrder (ps ++ qs) ≠ .empty ∧ (inOrder qs).room d ≤ (inOrder (ps ++ qs)).room d := by
  induction ps with
  | nil => exact ⟨hqs, Nat.le_refl _⟩
  | cons p ps ih =>
    obtain ⟨hp, hps⟩ := List.forall_mem_cons.mp h
    obtain ⟨hne, hle⟩ := ih hps
    rw [List.cons_append, inOrder]
    rcases andThen_cases hp (inOrder (ps ++ qs)) with ⟨-, hq⟩ | ⟨hempty, -⟩ | hseq
    · rw [hq]
      exact ⟨hne, hle⟩
    · exact absurd hempty hne
    · rw [hseq]
      have hroom := le_room_seq d p (inOrder (ps ++ qs))
      exact ⟨Pattern.noConfusion, by omega⟩

theorem isPart_letters {w : List Char} : ∀ p ∈ letters w, p.isPart = true := by
  intro p hp
  obtain ⟨c, -, rfl⟩ := List.mem_map.mp hp
  rfl

/-- **Every character takes room.** -/
theorem le_room_letters (d : Direction) (w : List Char) {ps : List Pattern}
    (hps : inOrder ps ≠ .empty) :
    w.length * stateRoom ≤ (inOrder (letters w ++ ps)).room d := by
  induction w with
  | nil =>
    rw [List.length_nil, Nat.zero_mul]
    exact Nat.zero_le _
  | cons c w ih =>
    have hne := (le_room_inOrder_append d (isPart_letters (w := w)) hps).1
    have hletter := stateRoom_le_room_letter d c
    have hcons : inOrder (letters (c :: w) ++ ps) = .seq (letter c) (inOrder (letters w ++ ps)) := by
      rcases andThen_cases (p := letter c) rfl (inOrder (letters w ++ ps)) with
        ⟨hempty, -⟩ | ⟨hempty, -⟩ | hseq
      · exact nomatch hempty
      · exact absurd hempty hne
      · exact hseq
    have hseq := le_room_seq d (letter c) (inOrder (letters w ++ ps))
    rw [hcons, List.length_cons, Nat.succ_mul]
    omega

namespace Frame

variable {F : Frame} {name : String}

theorem isPart_before : ∀ p ∈ partsOf F.before, p.isPart = true := by
  intro p hp
  obtain ⟨i, hi, rfl⟩ := List.mem_map.mp hp
  exact F.single i (List.mem_append_right _ (List.mem_reverse.mp hi))

theorem isPart_after : ∀ p ∈ partsOf F.after, p.isPart = true := by
  intro p hp
  obtain ⟨i, hi, rfl⟩ := List.mem_map.mp hp
  exact F.single i (List.mem_append_left _ (List.mem_reverse.mp hi))

/-- **A short name is admitted.** -/
theorem isAdmitted_of_length_le (hne : name.toList ≠ []) (hname : Plain name.toList) {room : Nat}
    (hroom : ∀ d, partsRoom d (partsOf F.before) + partsRoom d (partsOf F.after) ≤ room)
    (hlength : room + name.toList.length * (4 * stateRoom + branchRoom) + 1000 ≤ roomLimit) :
    isAdmitted (F.text name) = true := by
  have hfits : (inOrder (F.parts name)).fits = true := by
    rw [fits, List.all_eq_true]
    intro d _
    have hparts : ∀ p ∈ F.parts name, p.isPart = true := by
      intro p hp
      rcases List.mem_append.mp hp with hp | hp
      · exact isPart_before p hp
      rcases List.mem_append.mp hp with hp | hp
      · exact isPart_letters p hp
      · exact isPart_after p hp
    have hinOrder := room_inOrder_le d hparts
    have hsum : partsRoom d (F.parts name) = partsRoom d (partsOf F.before) +
        (partsRoom d (letters name.toList) + partsRoom d (partsOf F.after)) := by
      rw [parts, partsRoom_append, partsRoom_append]
    have hletters := partsRoom_letters_le d name.toList
    have hframe : stateRoom + branchRoom + frameRoom d ≤ 1000 := by cases d <;> decide
    have hout := wayOut_le d (inOrder (F.parts name))
    have haround := hroom d
    rw [decide_eq_true_eq]
    omega
  rw [isAdmitted, ofString?_text F hne hname, if_pos hfits]
  rfl

/-- **A name that is too long is not admitted.** -/
theorem not_isAdmitted_of_lt (hne : name.toList ≠ []) (hname : Plain name.toList)
    (hafter : inOrder (partsOf F.after) ≠ .empty)
    (hlength : roomLimit < name.toList.length * stateRoom) : isAdmitted (F.text name) = false := by
  have hfits : ¬ (inOrder (F.parts name)).fits = true := by
    rw [fits, List.all_eq_true]
    intro h
    have hroom := of_decide_eq_true (h .forward List.mem_cons_self)
    have hletters := le_room_letters .forward name.toList hafter
    have hlater := (le_room_inOrder_append .forward (isPart_letters (w := name.toList)) hafter).1
    have hbefore := (le_room_inOrder_append .forward (isPart_before (F := F)) hlater).2
    rw [parts] at hroom
    omega
  rw [isAdmitted, ofString?_text F hne hname, if_neg hfits]
  rfl

end Frame

/-- A single character stands for itself. -/
theorem ofString?_singleton {c : Char} (hc : c ∉ signs) :
    ofString? (String.singleton c) = some (letter c) := by
  have hfits : (letter c).fits = true := by
    rw [fits, List.all_eq_true]
    intro d _
    have hroom := room_letter_le d c
    have hway := wayOut_le d (letter c)
    have hframe : frameRoom d + 4 * stateRoom + branchRoom ≤ roomLimit := by cases d <;> decide
    exact decide_eq_true (by omega)
  have hread : group? ((String.singleton c).length + 1) {} [] [] [] (String.singleton c).toList =
      some (⟨letter c, 0⟩, [], []) := by
    rw [String.length_singleton, String.toList_singleton, group?_letter ⟨rfl, rfl⟩ hc]
    rfl
  rw [ofString?, hread]
  simp only [hfits, Bool.and_true]
  rfl

end Pattern

end DeclAtlas
