import DeclAtlas.Pattern.Match

/-!
# What a pattern matches

`Pattern/Match.lean` goes through a text once and keeps the patterns that the rest may still have to
match.  This file says what a pattern matches without such a run, and proves that the run finds just
that.

A place in a text is a `Spot`, the character before it with the text behind it, and `Spans p x y` says
that the pattern `p` matches the text between the spots `x` and `y`.

* `acceptsEmpty_iff`: the empty text at a spot.
* `exists_mem_afterChar_iff`: one character.  What remains of a pattern after a character spans what the
  pattern itself spans, if it gets any further.
* `isMatch_iff`: a whole run, by induction on the text.

A repetition must not have to be made more often than it may be (`Ordered`).  It can begin with empty
times, so the lemma for one character looks for the first time that takes a character
(`exists_first_of_times`) and puts empty ones in front where some are still owed
(`times_of_stays`).
-/

namespace DeclAtlas

namespace Pattern

/-- A place in a text. -/
structure Spot where
  /-- The character before it. -/
  before : Option Char
  /-- The text behind it. -/
  rest : List Char

/-- Whether `n` steps of a relation lead from one spot to another. -/
def Times (R : Spot → Spot → Prop) : Nat → Spot → Spot → Prop
  | 0, x, y => y = x
  | n + 1, x, y => ∃ z, R x z ∧ Times R n z y

/-- Whether a pattern matches the text between two spots. -/
def Spans : Pattern → Spot → Spot → Prop
  | .never, _, _ => False
  | .empty, x, y => y = x
  | .one s, x, y => ∃ c, s.contains c = true ∧ x.rest = c :: y.rest ∧ y.before = some c
  | .place p, x, y => y = x ∧ p.holds x.before x.rest.head? = true
  | .seq p q, x, y => ∃ z, Spans p x z ∧ Spans q z y
  | .alt p q, x, y => Spans p x y ∨ Spans q x y
  | .again least most p, x, y =>
    ∃ n, least ≤ n ∧ (∀ m ∈ most, n ≤ m) ∧ Times (Spans p) n x y
  | .group p, x, y => Spans p x y

/-- Whether no repetition must be made more often than it may be. -/
def Ordered : Pattern → Prop
  | .never | .empty | .one _ | .place _ => True
  | .seq p q | .alt p q => p.Ordered ∧ q.Ordered
  | .again least most p => (∀ m ∈ most, least ≤ m) ∧ p.Ordered
  | .group p => p.Ordered

/-! ### Spots move forward -/

section Forward

variable {R : Spot → Spot → Prop} {x y z : Spot}

theorem times_forward (hR : ∀ x y, R x y → y = x ∨ y.rest.length < x.rest.length) {n : Nat}
    (h : Times R n x y) : y = x ∨ y.rest.length < x.rest.length := by
  induction n generalizing x with
  | zero => exact .inl h
  | succ n ih =>
    obtain ⟨z, hz, hn⟩ := h
    rcases ih hn with rfl | hlt
    · exact hR x y hz
    · rcases hR x z hz with rfl | hxz
      · exact .inr hlt
      · exact .inr (Nat.lt_trans hlt hxz)

/-- A pattern leads to its own spot or further on. -/
theorem Spans.forward {p : Pattern} (h : p.Spans x y) : y = x ∨ y.rest.length < x.rest.length := by
  induction p generalizing x y with
  | never => exact h.elim
  | empty => exact .inl h
  | one s =>
    obtain ⟨c, -, hrest, -⟩ := h
    right
    rw [hrest]
    exact Nat.lt_succ_self _
  | place p => exact .inl h.1
  | seq p q ihp ihq =>
    obtain ⟨z, hp, hq⟩ := h
    rcases ihq hq with rfl | hlt
    · exact ihp hp
    · rcases ihp hp with rfl | hxz
      · exact .inr hlt
      · exact .inr (Nat.lt_trans hlt hxz)
  | alt p q ihp ihq =>
    rcases h with h | h
    · exact ihp h
    · exact ihq h
  | again least most p ih =>
    obtain ⟨n, -, -, h⟩ := h
    exact times_forward (fun _ _ => ih) h
  | group p ih => exact ih h

/-- There is no way back. -/
theorem eq_of_forward (hy : y = x ∨ y.rest.length < x.rest.length)
    (hx : x = y ∨ x.rest.length < y.rest.length) : y = x := by
  rcases hy with rfl | hy
  · rfl
  · rcases hx with rfl | hx
    · rfl
    · omega

end Forward

/-! ### Repetitions -/

section Repetitions

variable {R : Spot → Spot → Prop} {x y : Spot}

theorem times_self (h : R x x) (n : Nat) : Times R n x x := by
  induction n with
  | zero => rfl
  | succ n ih => exact ⟨x, h, ih⟩

/-- Times that stay at a spot can be put in front. -/
theorem times_of_stays (h : R x x) {n : Nat} (hn : Times R n x y) (k : Nat) :
    Times R (k + n) x y := by
  induction k with
  | zero => rwa [Nat.zero_add]
  | succ k ih =>
    rw [Nat.succ_add]
    exact ⟨x, h, ih⟩

/-- Times that lead on begin with some that stay, of which there are none unless staying is
possible, and one that leads on. -/
theorem exists_first_of_times {n : Nat} (h : Times R n x y) (hne : y ≠ x) :
    ∃ j k z, n = j + (k + 1) ∧ (j ≠ 0 → R x x) ∧ R x z ∧ z ≠ x ∧ Times R k z y := by
  induction n with
  | zero => exact absurd h hne
  | succ n ih =>
    obtain ⟨z, hz, hn⟩ := h
    by_cases hzx : z = x
    · subst hzx
      obtain ⟨j, k, w, rfl, -, hw, hwz, hk⟩ := ih hn
      exact ⟨j + 1, k, w, by omega, fun _ => hz, hw, hwz, hk⟩
    · exact ⟨0, n, z, by omega, fun h => absurd rfl h, hz, hzx, hn⟩

end Repetitions

/-! ### Leading on -/

/-- What leads on and goes further does not come back. -/
theorem ne_of_leads {x y z : Spot} (hz : z = x ∨ z.rest.length < x.rest.length) (hzx : z ≠ x)
    (hy : y = z ∨ y.rest.length < z.rest.length) : y ≠ x := by
  rintro rfl
  exact hzx (eq_of_forward hz hy)

/-- A sequence leads on by its first part, or by its second one if the first can stay. -/
theorem seq_leads_iff {p q : Pattern} {x y : Spot} :
    (p.seq q).Spans x y ∧ y ≠ x ↔
      (∃ z, (p.Spans x z ∧ z ≠ x) ∧ q.Spans z y) ∨ p.Spans x x ∧ q.Spans x y ∧ y ≠ x := by
  constructor
  · rintro ⟨⟨z, hz, hy⟩, hne⟩
    by_cases hzx : z = x
    · subst hzx
      exact .inr ⟨hz, hy, hne⟩
    · exact .inl ⟨z, ⟨hz, hzx⟩, hy⟩
  · rintro (⟨z, ⟨hz, hzx⟩, hy⟩ | ⟨hx, hy, hne⟩)
    · exact ⟨⟨z, hz, hy⟩, ne_of_leads hz.forward hzx hy.forward⟩
    · exact ⟨⟨x, hx, hy⟩, hne⟩

/-- A repetition leads on by a time that does.  Of the other times `owed` are still to be made; none is
if the pattern can stay. -/
theorem again_leads_iff {least owed : Nat} {most : Option Nat} {p : Pattern} {x y : Spot}
    (hmost : ∀ m ∈ most, least ≤ m) (hstay : p.Spans x x → owed = 0)
    (hmove : ¬p.Spans x x → owed = least - 1) :
    (again least most p).Spans x y ∧ y ≠ x ↔
      ∃ z, (p.Spans x z ∧ z ≠ x) ∧
        ∃ k, owed ≤ k ∧ (∀ m ∈ most, k + 1 ≤ m) ∧ Times p.Spans k z y := by
  constructor
  · rintro ⟨⟨n, hleast, hn, h⟩, hne⟩
    obtain ⟨j, k, z, rfl, hj, hz, hzx, hk⟩ := exists_first_of_times h hne
    refine ⟨z, ⟨hz, hzx⟩, k, ?_, fun m hm => ?_, hk⟩
    · by_cases hx : p.Spans x x
      · rw [hstay hx]
        exact Nat.zero_le k
      · have hj0 : j = 0 := by
          by_cases hj0 : j = 0
          · exact hj0
          · exact absurd (hj hj0) hx
        rw [hmove hx]
        omega
    · have := hn m hm
      omega
  · rintro ⟨z, ⟨hz, hzx⟩, k, howed, hk, hy⟩
    refine ⟨?_, ne_of_leads hz.forward hzx (times_forward (fun _ _ => Spans.forward) hy)⟩
    have hone : Times p.Spans (k + 1) x y := ⟨z, hz, hy⟩
    by_cases hx : p.Spans x x
    · -- times that stay make up for those that are missing
      refine ⟨(least - (k + 1)) + (k + 1), by omega, fun m hm => ?_, times_of_stays hx hone _⟩
      have := hmost m hm
      have := hk m hm
      omega
    · rw [hmove hx] at howed
      exact ⟨k + 1, by omega, hk, hone⟩

/-! ### The empty text -/

theorem Spans.stays_of_times {p : Pattern} {n : Nat} {x : Spot} (h : Times p.Spans n x x)
    (hn : n ≠ 0) : p.Spans x x := by
  obtain ⟨n, rfl⟩ := Nat.exists_eq_succ_of_ne_zero hn
  obtain ⟨z, hz, hrest⟩ := h
  obtain rfl := eq_of_forward hz.forward (times_forward (fun _ _ => Spans.forward) hrest)
  exact hz

/-- **The empty text at a spot.** -/
theorem acceptsEmpty_iff {p : Pattern} (hp : p.Ordered) (x : Spot) :
    p.acceptsEmpty x.before x.rest.head? = true ↔ p.Spans x x := by
  induction p with
  | never => simp [acceptsEmpty, Spans]
  | empty => simp [acceptsEmpty, Spans]
  | one t =>
    simp only [acceptsEmpty, Spans, Bool.false_eq_true, false_iff]
    rintro ⟨c, -, hrest, -⟩
    exact absurd (congrArg List.length hrest) (by simp)
  | place p => simp [acceptsEmpty, Spans]
  | seq p q ihp ihq =>
    rw [acceptsEmpty, Bool.and_eq_true, ihp hp.1, ihq hp.2]
    constructor
    · rintro ⟨hp, hq⟩
      exact ⟨_, hp, hq⟩
    · rintro ⟨z, hp, hq⟩
      obtain rfl := eq_of_forward hp.forward hq.forward
      exact ⟨hp, hq⟩
  | alt p q ihp ihq => rw [acceptsEmpty, Bool.or_eq_true, ihp hp.1, ihq hp.2, Spans]
  | again least most p ih =>
    rw [acceptsEmpty, Bool.or_eq_true, ih hp.2, beq_iff_eq]
    constructor
    · rintro (rfl | h)
      · exact ⟨0, Nat.le_refl 0, fun m _ => Nat.zero_le m, rfl⟩
      · exact ⟨least, Nat.le_refl least, hp.1, times_self h least⟩
    · rintro ⟨n, hn, -, h⟩
      by_cases h0 : n = 0
      · exact .inl (Nat.eq_zero_of_le_zero (h0 ▸ hn))
      · exact .inr (Spans.stays_of_times h h0)
  | group p ih => exact ih hp

/-! ### One character -/

theorem spans_andThen {p q : Pattern} {x y : Spot} :
    (andThen p q).Spans x y ↔ ∃ z, p.Spans x z ∧ q.Spans z y := by
  fun_induction andThen p q generalizing x with
  | case1 => simp [Spans]
  | case2 p r ih =>
    simp only [Spans, ih]
    constructor
    · rintro ⟨z, hp, w, hr, hq⟩
      exact ⟨w, ⟨z, hp, hr⟩, hq⟩
    · rintro ⟨w, ⟨z, hp, hr⟩, hq⟩
      exact ⟨z, hp, w, hr, hq⟩
  | case3 p _ _ hq => simp [hq, Spans]
  | case4 => rfl

theorem exists_mem_map_andThen_iff {ps : List Pattern} {q : Pattern} {x y : Spot} :
    (∃ p ∈ ps.map (andThen · q), p.Spans x y) ↔ ∃ z, (∃ p ∈ ps, p.Spans x z) ∧ q.Spans z y := by
  constructor
  · rintro ⟨_, hmem, h⟩
    obtain ⟨p, hp, rfl⟩ := List.mem_map.mp hmem
    obtain ⟨z, hz, hq⟩ := spans_andThen.mp h
    exact ⟨z, ⟨p, hp, hz⟩, hq⟩
  · rintro ⟨z, ⟨p, hp, hz⟩, hq⟩
    exact ⟨_, List.mem_map_of_mem hp, spans_andThen.mpr ⟨z, hz, hq⟩⟩

theorem Ordered.andThen {p q : Pattern} (hp : p.Ordered) (hq : q.Ordered) :
    (andThen p q).Ordered := by
  fun_induction Pattern.andThen p q with
  | case1 => exact hq
  | case2 p r ih => exact ⟨hp.1, ih hp.2⟩
  | case3 => exact hp
  | case4 => exact ⟨hp, hq⟩

/-- What remains of a repetition after a time that leads on. -/
theorem spans_remaining {least : Nat} {most : Option Nat} {p : Pattern}
    (hmost : ∀ m ∈ most, m ≠ 0 ∧ least < m) {x y : Spot} :
    (remaining least most p).Spans x y ↔
      ∃ k, least ≤ k ∧ (∀ m ∈ most, k + 1 ≤ m) ∧ Times p.Spans k x y := by
  cases most with
  | none => simp [remaining, Spans]
  | some m =>
    obtain ⟨h0, hlt⟩ := hmost m rfl
    by_cases hm : m ≤ 1
    · rw [remaining, if_pos hm]
      constructor
      · rintro rfl
        refine ⟨0, by omega, fun m' e => ?_, rfl⟩
        obtain rfl := Option.some.inj e
        omega
      · rintro ⟨k, -, hk, h⟩
        have hk0 : k = 0 := by have := hk m rfl; omega
        subst hk0
        exact h
    · rw [remaining, if_neg hm]
      simp only [Spans, Option.mem_def, Option.some.injEq, forall_eq']
      constructor
      · rintro ⟨k, hl, hk, h⟩
        exact ⟨k, hl, by omega, h⟩
      · rintro ⟨k, hl, hk, h⟩
        exact ⟨k, hl, by omega, h⟩

theorem Ordered.remaining {least : Nat} {most : Option Nat} {p : Pattern} (hp : p.Ordered)
    (hmost : ∀ m ∈ most, least < m) : (remaining least most p).Ordered := by
  cases most with
  | none => exact ⟨by simp, hp⟩
  | some m =>
    have hlt := hmost m rfl
    by_cases hm : m ≤ 1
    · rw [Pattern.remaining, if_pos hm]
      exact trivial
    · rw [Pattern.remaining, if_neg hm]
      refine ⟨fun k hk => ?_, hp⟩
      obtain rfl := Option.some.inj hk
      omega

theorem Ordered.afterChar {p : Pattern} (hp : p.Ordered) (b : Option Char) (c : Char) :
    ∀ q ∈ p.afterChar b c, q.Ordered := by
  induction p with
  | never => simp [Pattern.afterChar]
  | empty => simp [Pattern.afterChar]
  | one s =>
    intro q hq
    rw [Pattern.afterChar] at hq
    split at hq
    · obtain rfl := List.mem_singleton.mp hq
      exact trivial
    · exact absurd hq List.not_mem_nil
  | place => simp [Pattern.afterChar]
  | seq p₁ p₂ ih₁ ih₂ =>
    have hfirst : ∀ q ∈ (p₁.afterChar b c).map (Pattern.andThen · p₂), q.Ordered := by
      intro q hq
      obtain ⟨q, hmem, rfl⟩ := List.mem_map.mp hq
      exact (ih₁ hp.1 q hmem).andThen hp.2
    intro q hq
    rw [Pattern.afterChar] at hq
    split at hq
    · rcases List.mem_append.mp hq with hq | hq
      · exact hfirst q hq
      · exact ih₂ hp.2 q hq
    · exact hfirst q hq
  | alt p₁ p₂ ih₁ ih₂ =>
    intro q hq
    rcases List.mem_append.mp hq with hq | hq
    · exact ih₁ hp.1 q hq
    · exact ih₂ hp.2 q hq
  | again least most p ih =>
    intro q hq
    rw [Pattern.afterChar] at hq
    split at hq
    · exact absurd hq List.not_mem_nil
    · rename_i hzero
      obtain ⟨q, hmem, rfl⟩ := List.mem_map.mp hq
      refine (ih hp.2 q hmem).andThen (hp.2.remaining fun m hm => ?_)
      have hle := hp.1 m hm
      have hpos : m ≠ 0 := by
        rintro rfl
        exact hzero (by simpa using hm)
      split <;> omega
  | group p ih => exact ih hp

theorem exists_mem_afterChar_one_iff {s : CharSet} (b : Option Char) (c : Char) (r : List Char)
    (y : Spot) : (∃ q ∈ (Pattern.one s).afterChar b c, q.Spans ⟨some c, r⟩ y) ↔
      (Pattern.one s).Spans ⟨b, c :: r⟩ y ∧ y ≠ ⟨b, c :: r⟩ := by
  by_cases hc : s.contains c = true
  · rw [Pattern.afterChar, if_pos hc]
    constructor
    · rintro ⟨q, hq, hy⟩
      obtain rfl := List.mem_singleton.mp hq
      obtain rfl := hy
      refine ⟨⟨c, hc, rfl, rfl⟩, fun h => ?_⟩
      exact absurd (congrArg (List.length ∘ Spot.rest) h) (by simp)
    · rintro ⟨⟨d, -, hrest, hbefore⟩, -⟩
      obtain ⟨rfl, rfl⟩ := List.cons.inj hrest
      refine ⟨.empty, List.mem_singleton.mpr rfl, ?_⟩
      rw [Spans, ← hbefore]
  · rw [Pattern.afterChar, if_neg hc]
    simp only [List.not_mem_nil, false_and, exists_false, false_iff]
    rintro ⟨⟨d, hd, hrest, -⟩, -⟩
    obtain ⟨rfl, -⟩ := List.cons.inj hrest
    exact hc hd

/-- **One character.**  After the character behind a spot the patterns that remain lead wherever the
pattern itself leads from there on. -/
theorem exists_mem_afterChar_iff {p : Pattern} (hp : p.Ordered) (b : Option Char) (c : Char)
    (r : List Char) (y : Spot) :
    (∃ q ∈ p.afterChar b c, q.Spans ⟨some c, r⟩ y) ↔ p.Spans ⟨b, c :: r⟩ y ∧ y ≠ ⟨b, c :: r⟩ := by
  induction p generalizing y with
  | never => simp [Pattern.afterChar, Spans]
  | empty => simp [Pattern.afterChar, Spans]
  | one s => exact exists_mem_afterChar_one_iff b c r y
  | place p =>
    simp only [Pattern.afterChar, List.not_mem_nil, false_and, exists_false, false_iff]
    rintro ⟨⟨h, -⟩, hne⟩
    exact hne h
  | seq p₁ p₂ ih₁ ih₂ =>
    have hempty : p₁.acceptsEmpty b (some c) = true ↔ p₁.Spans ⟨b, c :: r⟩ ⟨b, c :: r⟩ :=
      acceptsEmpty_iff hp.1 ⟨b, c :: r⟩
    rw [seq_leads_iff, ← hempty, ← ih₂ hp.2]
    simp only [← ih₁ hp.1]
    rw [← exists_mem_map_andThen_iff, Pattern.afterChar]
    by_cases hacc : p₁.acceptsEmpty b (some c) = true
    · simp only [hacc, if_true, List.mem_append, or_and_right, exists_or, true_and]
    · simp only [hacc, if_false, false_and, or_false, Bool.false_eq_true]
  | alt p₁ p₂ ih₁ ih₂ =>
    simp only [Pattern.afterChar, List.mem_append, or_and_right, exists_or, ih₁ hp.1, ih₂ hp.2,
      Spans]
  | again least most p ih =>
    have hempty : p.acceptsEmpty b (some c) = true ↔ p.Spans ⟨b, c :: r⟩ ⟨b, c :: r⟩ :=
      acceptsEmpty_iff hp.2 ⟨b, c :: r⟩
    rw [Pattern.afterChar]
    by_cases hzero : most = some 0
    · subst hzero
      simp only [beq_self_eq_true, if_true, List.not_mem_nil, false_and, exists_false, false_iff]
      rintro ⟨⟨n, -, hn, h⟩, hne⟩
      obtain rfl : n = 0 := Nat.eq_zero_of_le_zero (hn 0 rfl)
      exact hne h
    · rw [if_neg (by simpa using hzero)]
      generalize howed : (if p.acceptsEmpty b (some c) = true then 0 else least - 1) = owed
      have hmost : ∀ m ∈ most, m ≠ 0 ∧ owed < m := by
        intro m hm
        have hle := hp.1 m hm
        have hpos : m ≠ 0 := fun h0 => hzero (h0 ▸ hm)
        rw [← howed]
        refine ⟨hpos, ?_⟩
        split <;> omega
      have hstay : p.Spans ⟨b, c :: r⟩ ⟨b, c :: r⟩ → owed = 0 := fun h => by
        rw [← howed, if_pos (hempty.mpr h)]
      have hmove : ¬p.Spans ⟨b, c :: r⟩ ⟨b, c :: r⟩ → owed = least - 1 := fun h => by
        rw [← howed, if_neg fun hacc => h (hempty.mp hacc)]
      rw [exists_mem_map_andThen_iff, again_leads_iff hp.1 hstay hmove]
      simp only [ih hp.2, spans_remaining hmost]
  | group p ih => exact ih hp y

/-! ### Whole runs -/

/-- Whether some part of a text behind a character matches. -/
def Within (p : Pattern) (b : Option Char) (s : List Char) : Prop :=
  ∃ u v y, s = u ++ v ∧ p.Spans ⟨u.getLast?.or b, v⟩ y

theorem within_nil {p : Pattern} {b : Option Char} : p.Within b [] ↔ ∃ y, p.Spans ⟨b, []⟩ y := by
  constructor
  · rintro ⟨u, v, y, h, hy⟩
    obtain ⟨rfl, rfl⟩ := List.append_eq_nil_iff.mp h.symm
    exact ⟨y, hy⟩
  · rintro ⟨y, hy⟩
    exact ⟨[], [], y, rfl, hy⟩

theorem within_cons {p : Pattern} {b : Option Char} {c : Char} {r : List Char} :
    p.Within b (c :: r) ↔ (∃ y, p.Spans ⟨b, c :: r⟩ y) ∨ p.Within (some c) r := by
  have hlast : ∀ u : List Char, (c :: u).getLast?.or b = u.getLast?.or (some c) := by
    intro u
    rw [List.getLast?_cons]
    cases u.getLast? <;> rfl
  constructor
  · rintro ⟨u, v, y, h, hy⟩
    cases u with
    | nil =>
      obtain rfl : c :: r = v := h
      exact .inl ⟨y, hy⟩
    | cons d u =>
      obtain ⟨rfl, rfl⟩ := List.cons.inj h
      exact .inr ⟨u, v, y, rfl, hlast u ▸ hy⟩
  · rintro (⟨y, hy⟩ | ⟨u, v, y, rfl, hy⟩)
    · exact ⟨[], c :: r, y, rfl, hy⟩
    · exact ⟨c :: u, v, y, rfl, (hlast u).symm ▸ hy⟩

/-- At the end of a text only the empty text is left. -/
theorem exists_spans_nil_iff {ps : List Pattern} (h : ∀ p ∈ ps, p.Ordered) (b : Option Char) :
    (∃ p ∈ ps, ∃ y, p.Spans ⟨b, []⟩ y) ↔ ps.any (acceptsEmpty b none) = true := by
  rw [List.any_eq_true]
  constructor
  · rintro ⟨p, hp, y, hy⟩
    rcases hy.forward with rfl | hlt
    · exact ⟨p, hp, (acceptsEmpty_iff (h p hp) _).mpr hy⟩
    · exact absurd hlt (Nat.not_lt_zero _)
  · rintro ⟨p, hp, hacc⟩
    exact ⟨p, hp, _, (acceptsEmpty_iff (h p hp) ⟨b, []⟩).mp hacc⟩

/-- Before a character either the empty text is accepted or the character is taken. -/
theorem exists_spans_cons_iff {ps : List Pattern} (h : ∀ p ∈ ps, p.Ordered) (b : Option Char)
    (c : Char) (r : List Char) :
    (∃ p ∈ ps, ∃ y, p.Spans ⟨b, c :: r⟩ y) ↔
      ps.any (acceptsEmpty b (some c)) = true ∨
        ∃ q ∈ advance ps b c, ∃ y, q.Spans ⟨some c, r⟩ y := by
  constructor
  · rintro ⟨p, hp, y, hy⟩
    by_cases hne : y = ⟨b, c :: r⟩
    · subst hne
      exact .inl (List.any_eq_true.mpr ⟨p, hp, (acceptsEmpty_iff (h p hp) _).mpr hy⟩)
    · obtain ⟨q, hq, hspan⟩ := (exists_mem_afterChar_iff (h p hp) b c r y).mpr ⟨hy, hne⟩
      exact .inr ⟨q, mem_distinct.mpr (List.mem_flatMap.mpr ⟨p, hp, hq⟩), y, hspan⟩
  · rintro (hacc | ⟨q, hq, y, hy⟩)
    · obtain ⟨p, hp, hacc⟩ := List.any_eq_true.mp hacc
      exact ⟨p, hp, _, (acceptsEmpty_iff (h p hp) ⟨b, c :: r⟩).mp hacc⟩
    · obtain ⟨p, hp, hmem⟩ := List.mem_flatMap.mp (mem_distinct.mp hq)
      exact ⟨p, hp, y, ((exists_mem_afterChar_iff (h p hp) b c r y).mp ⟨q, hmem, hy⟩).1⟩

theorem ordered_of_mem_advance {ps : List Pattern} (h : ∀ p ∈ ps, p.Ordered) (b : Option Char)
    (c : Char) : ∀ q ∈ advance ps b c, q.Ordered := by
  intro q hq
  obtain ⟨p, hp, hmem⟩ := List.mem_flatMap.mp (mem_distinct.mp hq)
  exact (h p hp).afterChar b c q hmem

/-- What is found from a place on: one of the patterns at hand at this place, or `p` anywhere. -/
theorem findFrom_iff {p : Pattern} (hp : p.Ordered) {ps : List Pattern} (h : ∀ q ∈ ps, q.Ordered)
    (b : Option Char) (s : List Char) :
    p.findFrom ps b s = true ↔ (∃ q ∈ ps, ∃ y, q.Spans ⟨b, s⟩ y) ∨ p.Within b s := by
  have hfirst : ∀ (qs : List Pattern) (x : Spot), (∃ q ∈ p :: qs, ∃ y, q.Spans x y) ↔
      (∃ y, p.Spans x y) ∨ ∃ q ∈ qs, ∃ y, q.Spans x y := by
    intro qs x
    simp only [List.mem_cons, or_and_right, exists_or, exists_eq_left]
  induction s generalizing ps b with
  | nil =>
    have hall : ∀ q ∈ p :: ps, q.Ordered := List.forall_mem_cons.mpr ⟨hp, h⟩
    rw [findFrom, ← exists_spans_nil_iff hall, hfirst, within_nil, or_comm]
  | cons c r ih =>
    have hall : ∀ q ∈ p :: ps, q.Ordered := List.forall_mem_cons.mpr ⟨hp, h⟩
    have hlater : p.findFrom (advance (p :: ps) b c) (some c) r = true ↔
        (∃ q ∈ advance (p :: ps) b c, ∃ y, q.Spans ⟨some c, r⟩ y) ∨ p.Within (some c) r :=
      ih (ordered_of_mem_advance hall b c) (some c)
    rw [findFrom, Bool.or_eq_true, hlater, ← or_assoc, ← exists_spans_cons_iff hall, hfirst,
      within_cons, or_assoc]
    exact or_left_comm

/-- **A pattern is found in a text exactly if it spans some part of it.** -/
theorem isMatch_iff {p : Pattern} (hp : p.Ordered) (s : List Char) :
    p.isMatch s = true ↔ ∃ u v y, s = u ++ v ∧ p.Spans ⟨u.getLast?, v⟩ y := by
  rw [isMatch, findFrom_iff hp (by simp)]
  simp [Within]

end Pattern

end DeclAtlas
