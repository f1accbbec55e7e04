import DeclAtlas.Proofs.Nesting.Blocks
import DeclAtlas.Proofs.Text.Occurrences
import DeclAtlas.Proofs.Text.Parts
import Mathlib.Data.List.Infix
import Mathlib.Data.List.TakeWhile

/-!
# Calls that span lines

A call is written as a macro, an opening parenthesis, an argument whose own parentheses match, and
the closing one; the argument may run over several lines, and other text may stand before the macro
and behind the call (`SpannedCall`).

What is gathered for it is whole lines, until their balance is back: those of the call, unless what
stands before the macro closes more than it opens, and if they leave a parenthesis open, some after
them.  Of the lines joined, what stands between the first opening and the last closing parenthesis is
taken for the argument.  The first one is the call's own, but the last one need not be.  So the
argument is read back exactly if the lines of the call stay open up to the last (`StaysOpen`) and
nothing that is gathered closes behind the call (`ClosesLast`); otherwise not even the numbers of the
parentheses are those of the argument (`argumentOf_gather`, `standsAlone_of_count`).  The first of the
two conditions can only fail for what stands before the macro (`staysOpen_of_nonneg`).

The last part is about the reading of forms.  A form takes lines with it, and reading goes on behind
them; `Reaches` says to which lines it comes, and from such a line on a block is read like a block of
its own (`Reaches.readForms_eq`).
-/

namespace DeclAtlas.Nesting

open Text

/-! ### Matching parentheses -/

/-- A text whose parentheses match: none closes before it is opened, and none stays open. -/
def Balanced (s : List Char) : Prop := parenDelta s = 0 ∧ ∀ p ∈ s.inits, 0 ≤ parenDelta p

instance (s : List Char) : Decidable (Balanced s) := inferInstanceAs (Decidable (_ ∧ _))

theorem parenDelta_eq_count (s : Line) : parenDelta s = (s.count '(' : Int) - s.count ')' := by
  induction s with
  | nil => rfl
  | cons c s ih =>
    have hcons : parenDelta (c :: s) = charDelta '(' ')' c + parenDelta s := delta_cons c s
    rw [hcons, ih, List.count_cons, List.count_cons, charDelta]
    by_cases hopen : c = '('
    · subst hopen
      simp
      omega
    · by_cases hclose : c = ')'
      · subst hclose
        simp
        omega
      · simp [hopen, hclose]

/-- Lines that close nothing are all taken while a parenthesis is open. -/
theorem takeBalanced_eq_self {depth : Int} {ls : List Line} (hd : 0 < depth)
    (h : ∀ l ∈ takeBalanced parenDelta depth ls, ')' ∉ l) :
    takeBalanced parenDelta depth ls = ls := by
  induction ls generalizing depth with
  | nil => rfl
  | cons l ls ih =>
    have hl : ')' ∉ l := by
      refine h l ?_
      rw [takeBalanced]
      split <;> exact List.mem_cons_self
    have hdelta : 0 ≤ parenDelta l := by
      rw [parenDelta_eq_count, List.count_eq_zero.mpr hl]
      omega
    rw [takeBalanced, if_neg (by omega)] at h ⊢
    rw [ih (by omega) fun m hm => h m (List.mem_cons_of_mem l hm)]

theorem total_delta (o c : Char) (ls : List Line) : total (delta o c) ls = delta o c ls.flatten := by
  induction ls with
  | nil => rfl
  | cons l ls ih => rw [total_cons, ih, List.flatten_cons, delta_append]

theorem total_parenDelta (ls : List Line) : total parenDelta ls = parenDelta ls.flatten :=
  total_delta '(' ')' ls

theorem Balanced.total_take_nonneg {ls : List Line} (h : Balanced ls.flatten) (k : Nat) :
    0 ≤ total parenDelta (ls.take k) := by
  rw [total_parenDelta]
  refine h.2 _ ((List.mem_inits _ _).mpr ⟨(ls.drop k).flatten, ?_⟩)
  rw [← List.flatten_append, List.take_append_drop]

/-- Of several closing parentheses the last is left out of an argument. -/
theorem count_outerArgument {a s : List Char} (ha : '(' ∉ a) (hs : ')' ∈ s) :
    (outerArgument (a ++ '(' :: s)).count ')' + 1 = s.count ')' := by
  obtain ⟨v, u, hrev, hv⟩ := List.eq_append_cons_of_mem (List.mem_reverse.mpr hs)
  obtain rfl : s = u.reverse ++ ')' :: v.reverse := by
    rw [← List.reverse_reverse s, hrev]
    simp
  have hlast : ')' ∉ v.reverse := mt List.mem_reverse.mp hv
  rw [outerArgument_append ha hlast, count_trim (by decide), List.count_append,
    List.count_cons_self, List.count_eq_zero.mpr hlast]

/-- Where nothing closes, the whole text is taken. -/
theorem outerArgument_of_notMem {a s : List Char} (ha : '(' ∉ a) (hs : ')' ∉ s) :
    outerArgument (a ++ '(' :: s) = trim (a ++ '(' :: s) := by
  have hcut : s.reverse.dropWhile (· != ')') = [] :=
    List.dropWhile_eq_nil_iff.mpr (bne_of_notMem (mt List.mem_reverse.mp hs))
  rw [outerArgument, dropWhile_bne_append ha]
  simp only [cutLast?, hcut]

/-! ### Joined lines -/

/-- Lines joined as a call is, but for the blanks before the first of them. -/
def joinedAfter (l : Line) (ls : List Line) : List Char :=
  trimEnd l ++ (ls.map trim).flatMap (' ' :: ·)

section Joined

variable {x : Char} {l : Line} {ls : List Line}

theorem joinWith_trim_append_cons (hx : isBlank x = false) (a l : List Char) (ls : List Line) :
    joinWith [' '] (((a ++ x :: l) :: ls).map trim) = trimStart a ++ x :: joinedAfter l ls := by
  rw [List.map_cons, joinWith_cons_eq_append, trim_append_cons hx, List.append_assoc,
    List.cons_append, joinedAfter]

theorem trim_joinedAfter (l : Line) (ls : List Line) (b : Blanks) :
    trim (joinedAfter l ls ++ b.text) = trim (joinWith [' '] ((l :: ls).map trim)) := by
  obtain ⟨a, ha⟩ := exists_trimEnd_eq l
  rw [List.map_cons, joinWith_cons_eq_append, joinedAfter, ha, List.append_assoc, List.append_assoc,
    ← List.append_assoc (trim l), trim_blanks_append]

/-- Joining lines takes away no character that is not blank. -/
theorem count_joinedAfter (hx : isBlank x = false) (l : Line) (ls : List Line) :
    (joinedAfter l ls).count x = (l :: ls).flatten.count x := by
  have hspace : ' ' ≠ x := by
    rintro rfl
    exact absurd hx (by decide)
  obtain ⟨a, ha⟩ := exists_trimEnd_eq l
  rw [joinedAfter, List.count_append, count_flatMap_cons hspace, count_flatten_map_trim hx, ha,
    List.count_append, List.count_eq_zero.mpr (a.notMem hx), Nat.zero_add, count_trim hx,
    List.flatten_cons, List.count_append]

theorem count_trim_joinWith (hx : isBlank x = false) (l : Line) (ls : List Line) :
    (trim (joinWith [' '] ((l :: ls).map trim))).count x = (l :: ls).flatten.count x := by
  rw [← trim_joinedAfter l ls .none, count_trim hx, List.count_append, count_joinedAfter hx]
  rfl

end Joined

/-! ### Written calls -/

/-- The name of a macro: a word whose first character does not come again in it. -/
structure IsMacro (name : List Char) : Prop where
  ne_nil : name ≠ []
  word : ∀ c ∈ name, isWord c = true
  first_once : ∀ c ∈ name.head?, c ∉ name.tail

theorem isMacro_cons {c : Char} {r : List Char} (hword : (c :: r).all isWord = true)
    (hfirst : c ∉ r) : IsMacro (c :: r) where
  ne_nil := List.cons_ne_nil c r
  word := List.all_eq_true.mp hword
  first_once := by rintro _ ⟨⟩; exact hfirst

theorem IsMacro.trimStart_append {name : List Char} (h : IsMacro name) (a r : List Char) :
    trimStart (a ++ (name ++ r)) = trimStart a ++ (name ++ r) := by
  obtain ⟨x, xs, rfl⟩ := List.exists_cons_of_ne_nil h.ne_nil
  exact trimStart_append_cons (isBlank_eq_false_of_isWord (h.word x List.mem_cons_self)) a (xs ++ r)

/-- The lines of an argument that has been opened, with its closing parenthesis and what follows it. -/
def closed (rest : List Char) : Line → List Line → List Line
  | l, [] => [l ++ ')' :: rest]
  | l, m :: ms => l :: closed rest m ms

/-- A call of a macro, written over one or more lines. -/
structure SpannedCall (name : List Char) where
  /-- What stands before the macro on its line. -/
  before : List Char
  /-- The blanks before the opening parenthesis. -/
  gap : Blanks
  /-- What stands on the first line of the argument. -/
  first : Line
  /-- What stands on its further lines. -/
  later : List Line
  /-- What follows the closing parenthesis on its line. -/
  rest : List Char
  /-- The macro is not mentioned before. -/
  unnamed : contains name before = false
  /-- The parentheses of the argument match. -/
  balanced : Balanced (first :: later).flatten

namespace SpannedCall

variable {name : List Char} (c : SpannedCall name)

/-- What stands before the opening parenthesis on its line. -/
def lead : List Char := c.before ++ (name ++ c.gap.text)

/-- The lines of the call. -/
def lines : List Line := closed c.rest (c.lead ++ '(' :: c.first) c.later

/-- The first line of the call. -/
def head : Line := c.lines.headD []

/-- The argument, its lines trimmed and joined by single spaces. -/
def argument : List Char := trim (joinWith [' '] ((c.first :: c.later).map trim))

/-- **The call stays open** on each of its lines but the last, whatever is closed before the macro. -/
def StaysOpen : Prop := ∀ k < c.later.length,
  0 < parenDelta c.before + 1 + total parenDelta ((c.first :: c.later).take (k + 1))

/-- **Nothing closes behind the call**: no closing parenthesis follows it on its last line, nor on the
lines after it if its own leave a parenthesis open. -/
def ClosesLast (after : List Line) : Prop :=
  ')' ∉ c.rest ∧ (0 < parenDelta c.before + parenDelta c.rest → ∀ l ∈ after, ')' ∉ l)

/-- Whether the argument can be told from the lines of the call and those after it. -/
def StandsAlone (after : List Line) : Prop := c.StaysOpen ∧ c.ClosesLast after

instance : Decidable c.StaysOpen := inferInstanceAs (Decidable (∀ _ < _, _))

instance (after : List Line) : Decidable (c.ClosesLast after) :=
  inferInstanceAs (Decidable (_ ∧ (_ → _)))

instance (after : List Line) : Decidable (c.StandsAlone after) :=
  inferInstanceAs (Decidable (_ ∧ _))

theorem lines_eq : c.lines = c.head :: c.lines.tail := by
  rw [head, lines]
  cases c.later <;> rfl

theorem exists_head_eq : ∃ s, c.head = c.lead ++ '(' :: (c.first ++ s) ∧
    (s = [] ∨ s = ')' :: c.rest) := by
  rw [head, lines]
  cases c.later with
  | nil => exact ⟨')' :: c.rest, by rw [closed, List.headD_cons, List.append_assoc, List.cons_append], .inr rfl⟩
  | cons l later => exact ⟨[], by rw [List.append_nil]; rfl, .inl rfl⟩

/-- A call stays open if what stands before it does not close more than it opens. -/
theorem staysOpen_of_nonneg (h : 0 ≤ parenDelta c.before) : c.StaysOpen := fun k _ => by
  have hpart := c.balanced.total_take_nonneg (k + 1)
  omega

theorem count_argument {x : Char} (hx : isBlank x = false) :
    c.argument.count x = (c.first :: c.later).flatten.count x :=
  count_trim_joinWith hx c.first c.later

/-! ### What is gathered -/

/-- The lines of a call joined: what follows the argument holds a closing parenthesis besides the
call's own exactly if something behind the call does. -/
theorem exists_joined_closed (rest l : List Char) (later more : List Line) :
    ∃ (b : Blanks) (r : List Char), joinWith [' '] ((closed rest l later ++ more).map trim) =
        joinWith [' '] ((l :: later).map trim) ++ (b.text ++ ')' :: r) ∧
      (')' ∈ r ↔ ')' ∈ rest ∨ ∃ m ∈ more, ')' ∈ m) := by
  have hmem : ∀ s : List Char, ')' ∈ trim s ↔ ')' ∈ s := by
    intro s
    rw [← List.count_pos_iff, count_trim (by decide), List.count_pos_iff]
  induction later generalizing l with
  | nil =>
    obtain ⟨b, hb⟩ := exists_trimStart_eq l
    obtain ⟨a, ha⟩ := exists_trimEnd_eq rest
    refine ⟨b, trimEnd rest ++ (more.map trim).flatMap (' ' :: ·), ?_, ?_⟩
    · rw [closed, List.singleton_append, List.map_cons, joinWith_cons_eq_append,
        trim_append_cons (by decide), hb]
      simp [joinWith]
    · have hrest : ')' ∈ trimEnd rest ↔ ')' ∈ rest := by
        rw [ha, List.mem_append, or_iff_right (a.notMem (by decide)), hmem]
      have hmore : ')' ∈ (more.map trim).flatMap (' ' :: ·) ↔ ∃ m ∈ more, ')' ∈ m := by
        simp [List.mem_flatMap, hmem]
      rw [List.mem_append, hrest, hmore]
  | cons m ms ih =>
    obtain ⟨b, r, hjoined, hr⟩ := ih m
    refine ⟨b, r, ?_, hr⟩
    have hjoin : ∀ {x : Line} {xs : List Line}, xs ≠ [] →
        joinWith [' '] (x :: xs) = x ++ ' ' :: joinWith [' '] xs := by
      intro x xs hne
      rw [joinWith, List.append_assoc, List.singleton_append]
      exact hne
    have hne : (closed rest m ms ++ more).map trim ≠ [] := by
      cases ms <;> exact List.cons_ne_nil _ _
    rw [closed, List.cons_append, List.map_cons, hjoin hne, hjoined, List.map_cons (l := m :: ms),
      hjoin (mt List.map_eq_nil_iff.mp (List.cons_ne_nil m ms)), List.append_assoc,
      List.cons_append]

section Taken

variable {depth : Int} {rest l : List Char} {later : List Line}

theorem takeBalanced_closed
    (h : ∀ k < later.length, 0 < depth + total parenDelta ((l :: later).take (k + 1)))
    (after : List Line) :
    takeBalanced parenDelta depth (closed rest l later ++ after) = closed rest l later ++
      if depth + total parenDelta (l :: later) + parenDelta (')' :: rest) ≤ 0 then []
      else takeBalanced parenDelta
        (depth + total parenDelta (l :: later) + parenDelta (')' :: rest)) after := by
  induction later generalizing depth l with
  | nil =>
    have hline : parenDelta (l ++ ')' :: rest) = parenDelta l + parenDelta (')' :: rest) :=
      delta_append l (')' :: rest)
    rw [total_cons, total_nil, Int.add_zero, closed, List.singleton_append, takeBalanced, hline,
      ← Int.add_assoc]
    split <;> rfl
  | cons m ms ih =>
    have hl := h 0 (Nat.zero_lt_succ _)
    rw [List.take_succ_cons, List.take_zero, total_cons, total_nil, Int.add_zero] at hl
    have htotal : depth + total parenDelta (l :: m :: ms) =
        depth + parenDelta l + total parenDelta (m :: ms) := by
      rw [total_cons, ← Int.add_assoc]
    rw [closed, List.cons_append, takeBalanced, if_neg (by omega), ih, htotal]
    · rfl
    · intro k hk
      have hnext := h (k + 1) (Nat.succ_lt_succ hk)
      rwa [List.take_succ_cons, total_cons, ← Int.add_assoc] at hnext

/-- Lines that bring the balance back before the argument is closed are all that is taken. -/
theorem exists_takeBalanced_closed
    (h : ¬ ∀ k < later.length, 0 < depth + total parenDelta ((l :: later).take (k + 1)))
    (after : List Line) : ∃ k, takeBalanced parenDelta depth (closed rest l later ++ after) =
      l :: later.take k := by
  induction later generalizing depth l with
  | nil => exact absurd (fun k hk => absurd hk (Nat.not_lt_zero k)) h
  | cons m ms ih =>
    rw [closed, List.cons_append, takeBalanced]
    by_cases hl : depth + parenDelta l ≤ 0
    · exact ⟨0, by rw [if_pos hl, List.take_zero]⟩
    · rw [if_neg hl]
      have hnext : ¬ ∀ k < ms.length,
          0 < depth + parenDelta l + total parenDelta ((m :: ms).take (k + 1)) := by
        refine fun hms => h fun k hk => ?_
        rw [List.take_succ_cons, total_cons, ← Int.add_assoc]
        cases k with
        | zero => rw [List.take_zero, total_nil, Int.add_zero]; omega
        | succ k => exact hms k (Nat.lt_of_succ_lt_succ hk)
      obtain ⟨k, hk⟩ := ih hnext
      exact ⟨k + 1, by rw [hk, List.take_succ_cons]⟩

end Taken

/-- The lines that are gathered with a call though they stand behind it. -/
def trail (after : List Line) : List Line :=
  if parenDelta c.before + parenDelta c.rest ≤ 0 then []
  else takeBalanced parenDelta (parenDelta c.before + parenDelta c.rest) after

theorem closesLast_iff {after : List Line} :
    c.ClosesLast after ↔ ')' ∉ c.rest ∧ ∀ m ∈ c.trail after, ')' ∉ m := by
  refine and_congr_right fun _ => ?_
  rw [trail]
  split
  · rename_i hle
    exact ⟨fun _ m hm => absurd hm List.not_mem_nil, fun _ hlt => absurd hlt (by omega)⟩
  · rename_i hlt
    have hpos : 0 < parenDelta c.before + parenDelta c.rest := Int.not_le.mp hlt
    constructor
    · exact fun h m hm => h hpos m ((takeBalanced_isPrefix _ _ _).subset hm)
    · intro h _
      rwa [takeBalanced_eq_self hpos h] at h

section Gathered

variable {c} (hname : IsMacro name)

include hname

theorem notMem_opening {x : Char} (hw : isWord x = false) (hb : isBlank x = false) :
    x ∉ name ++ c.gap.text := by
  rw [List.mem_append, not_or]
  refine ⟨fun h => ?_, c.gap.notMem hb⟩
  exact absurd ((hname.word x h).symm.trans hw) (by decide)

theorem parenDelta_opened : parenDelta (c.lead ++ '(' :: c.first) =
    parenDelta c.before + 1 + parenDelta c.first := by
  have hmacro : delta '(' ')' (name ++ c.gap.text) = 0 :=
    delta_eq_zero (notMem_opening hname (by decide) (by decide))
      (notMem_opening hname (by decide) (by decide))
  have hopen : charDelta '(' ')' '(' = 1 := by decide
  simp only [parenDelta, lead, delta_append, delta_cons, hopen] at hmacro ⊢
  omega

theorem total_opened (ls : List Line) : 0 + total parenDelta ((c.lead ++ '(' :: c.first) :: ls) =
    parenDelta c.before + 1 + total parenDelta (c.first :: ls) := by
  rw [total_cons, total_cons, parenDelta_opened hname]
  omega

/-- **The lines of a call are taken**, and lines after them only if they leave a parenthesis open. -/
theorem takeBalanced_lines (h : c.StaysOpen) (after : List Line) :
    takeBalanced parenDelta 0 (c.lines ++ after) = c.lines ++ c.trail after := by
  have hzero : total parenDelta (c.first :: c.later) = 0 := by
    rw [total_parenDelta]
    exact c.balanced.1
  have hend : 0 + total parenDelta ((c.lead ++ '(' :: c.first) :: c.later) +
      parenDelta (')' :: c.rest) = parenDelta c.before + parenDelta c.rest := by
    have hclose : parenDelta (')' :: c.rest) = -1 + parenDelta c.rest := rfl
    rw [total_opened hname, hzero, hclose]
    omega
  rw [lines, takeBalanced_closed, hend, trail]
  intro k hk
  rw [List.take_succ_cons, total_opened hname, ← List.take_succ_cons]
  exact h k hk

theorem joined_gather (h : c.StaysOpen) (after : List Line) :
    (gather (c.lines ++ after)).joined = joinWith [' '] ((c.lines ++ c.trail after).map trim) := by
  rw [gather, takeBalanced_lines hname h]

/-- A call that leaves no parenthesis open takes its own lines. -/
theorem extra_gather (h : c.StaysOpen) (hclosed : parenDelta c.before + parenDelta c.rest ≤ 0)
    (after : List Line) : (gather (c.lines ++ after)).extra = c.lines.tail.length := by
  rw [gather, takeBalanced_lines hname h, trail, if_pos hclosed, List.append_nil, List.length_tail]

/-- Of a call that does not stay open, only some lines of the argument are gathered. -/
theorem exists_joined_gather (h : ¬ c.StaysOpen) (after : List Line) :
    ∃ k, (gather (c.lines ++ after)).joined =
      trimStart c.lead ++ '(' :: joinedAfter c.first (c.later.take k) := by
  have hopen : ¬ ∀ k < c.later.length,
      0 < 0 + total parenDelta (((c.lead ++ '(' :: c.first) :: c.later).take (k + 1)) := by
    refine fun hall => h fun k hk => ?_
    rw [List.take_succ_cons, ← total_opened hname, ← List.take_succ_cons]
    exact hall k hk
  obtain ⟨k, hk⟩ := exists_takeBalanced_closed hopen after
  exact ⟨k, by rw [gather, lines, hk, joinWith_trim_append_cons (by decide)]⟩

/-! ### What is read of it -/

theorem argumentOf_lead (s : List Char) : argumentOf name (trimStart c.lead ++ '(' :: s) =
    outerArgument ((name ++ c.gap.text) ++ '(' :: s) := by
  have hlead : trimStart c.lead = trimStart c.before ++ (name ++ c.gap.text) :=
    hname.trimStart_append c.before c.gap.text
  have hbefore : contains name (trimStart c.before) = false := by
    have h := contains_eq_false_iff.mp c.unnamed
    exact contains_eq_false_iff.mpr fun hin => h (hin.trans (suffix_trimStart c.before).isInfix)
  rw [argumentOf, hlead, List.append_assoc, List.append_assoc,
    findFrom?_append_append hname.first_once _ _ hbefore]
  rfl

/-- What is read of a call that stays open: besides the closing parenthesis of the call there is one
behind it exactly if something gathered closes there. -/
theorem exists_argumentOf_gather (h : c.StaysOpen) (after : List Line) :
    ∃ (b : Blanks) (r : List Char), argumentOf name (gather (c.lines ++ after)).joined =
        outerArgument ((name ++ c.gap.text) ++
          '(' :: ((joinedAfter c.first c.later ++ b.text) ++ ')' :: r)) ∧
      (')' ∉ r ↔ c.ClosesLast after) := by
  obtain ⟨b, r, hjoined, hr⟩ := exists_joined_closed c.rest (c.lead ++ '(' :: c.first) c.later
    (c.trail after)
  refine ⟨b, r, ?_, ?_⟩
  · rw [joined_gather hname h, lines, hjoined, joinWith_trim_append_cons (by decide),
      List.append_assoc, List.cons_append, argumentOf_lead hname, ← List.append_assoc _ b.text]
  · rw [hr, closesLast_iff, not_or]
    simp only [not_exists, not_and]

/-- **The argument of a call that stands alone is read back.** -/
theorem argumentOf_gather {after : List Line} (h : c.StandsAlone after) :
    argumentOf name (gather (c.lines ++ after)).joined = c.argument := by
  obtain ⟨b, r, hread, hr⟩ := exists_argumentOf_gather hname h.1 after
  have hfirst : '(' ∉ name ++ c.gap.text := notMem_opening hname (by decide) (by decide)
  rw [hread, outerArgument_append hfirst (hr.mpr h.2), trim_joinedAfter]
  rfl

theorem closesLast_of_count {after : List Line} (h : c.StaysOpen)
    (hclose : (argumentOf name (gather (c.lines ++ after)).joined).count ')' =
      c.argument.count ')') :
    c.ClosesLast after := by
  obtain ⟨b, r, hread, hr⟩ := exists_argumentOf_gather hname h after
  have hfirst : '(' ∉ name ++ c.gap.text := notMem_opening hname (by decide) (by decide)
  have hlast := count_outerArgument hfirst
    (List.mem_append_right (joinedAfter c.first c.later ++ b.text)
      (List.mem_cons_self : ')' ∈ ')' :: r))
  rw [← hread, hclose, c.count_argument (by decide), List.count_append, List.count_append,
    count_joinedAfter (by decide), List.count_cons_self] at hlast
  exact hr.mp (List.count_eq_zero.mp (by omega))

theorem staysOpen_of_count {after : List Line}
    (hopen : (argumentOf name (gather (c.lines ++ after)).joined).count '(' = c.argument.count '(')
    (hclose : (argumentOf name (gather (c.lines ++ after)).joined).count ')' =
      c.argument.count ')') :
    c.StaysOpen := by
  by_contra hstays
  obtain ⟨k, hjoined⟩ := exists_joined_gather hname hstays after
  rw [hjoined, argumentOf_lead hname] at hopen hclose
  have hfirst : '(' ∉ name ++ c.gap.text := notMem_opening hname (by decide) (by decide)
  by_cases hmem : ')' ∈ joinedAfter c.first (c.later.take k)
  · -- the argument holds all closing parentheses that are gathered, and one of them is left out
    have hlast := count_outerArgument hfirst hmem
    have hsplit : (c.first :: c.later).flatten =
        (c.first :: c.later.take k).flatten ++ (c.later.drop k).flatten := by
      rw [← List.flatten_append, List.cons_append, List.take_append_drop]
    rw [count_joinedAfter (by decide)] at hlast
    rw [c.count_argument (by decide), hsplit, List.count_append] at hclose
    omega
  · -- the whole text is taken, which opens more than it closes
    have hmacro : ')' ∉ name ++ c.gap.text := notMem_opening hname (by decide) (by decide)
    have hmatch := c.balanced.1
    rw [parenDelta_eq_count, ← c.count_argument (by decide), ← c.count_argument (by decide)]
      at hmatch
    rw [outerArgument_of_notMem hfirst hmem, count_trim (by decide), List.count_append]
      at hopen hclose
    rw [List.count_cons_self] at hopen
    rw [List.count_cons_of_ne (by decide), List.count_eq_zero.mpr hmem,
      List.count_eq_zero.mpr hmacro] at hclose
    omega

/-- **What is read of any other call differs from its argument**, even in its parentheses. -/
theorem standsAlone_of_count {after : List Line}
    (hopen : (argumentOf name (gather (c.lines ++ after)).joined).count '(' = c.argument.count '(')
    (hclose : (argumentOf name (gather (c.lines ++ after)).joined).count ')' =
      c.argument.count ')') :
    c.StandsAlone after :=
  have hstays := staysOpen_of_count hname hopen hclose
  ⟨hstays, closesLast_of_count hname hstays hclose⟩

end Gathered

end SpannedCall

/-! ### Lines that are reached -/

section Forms

variable {α : Type} {read? : Line → List Line → Option (α × Nat)} {ls : List Line}

/-- The reading of forms comes to the line that has `n` lines before it, and has read `as` by then. -/
inductive Reaches (read? : Line → List Line → Option (α × Nat)) : List Line → List α → Nat → Prop
  | start (ls : List Line) : Reaches read? ls [] 0
  | pass {l : Line} {ls : List Line} {as : List α} {n : Nat} (h : read? l ls = none) :
    Reaches read? ls as n → Reaches read? (l :: ls) as (n + 1)
  | form {l : Line} {ls : List Line} {a : α} {extra : Nat} {as : List α} {n : Nat}
    (h : read? l ls = some (a, extra)) :
    Reaches read? (ls.drop extra) as n → Reaches read? (l :: ls) (a :: as) (extra + n + 1)

/-- A call that the reading of forms comes to in a block. -/
structure ReachedCall (read? : Line → List Line → Option (α × Nat)) (block : List Line)
    (name : List Char) where
  call : SpannedCall name
  /-- The number of lines before the call. -/
  line : Nat
  after : List Line
  /-- What has been read before. -/
  earlier : List α
  drop_eq : block.drop line = call.lines ++ after
  reaches : Reaches read? block earlier line

theorem readForms_zero (taken : Nat) (ls : List Line) : readForms read? 0 taken ls = [] := by
  cases ls <;> rfl

/-- Lines that a form has taken with it are passed over. -/
theorem readForms_taken (within taken : Nat) (ls : List Line) :
    readForms read? within taken ls = readForms read? (within - taken) 0 (ls.drop taken) := by
  induction taken generalizing within ls with
  | zero => rfl
  | succ n ih =>
    cases within with
    | zero => rw [Nat.zero_sub, readForms_zero, readForms_zero]
    | succ w =>
      cases ls with
      | nil => rw [readForms, List.drop_nil, readForms]
      | cons l ls => rw [readForms, ih, Nat.add_sub_add_right, List.drop_succ_cons]

/-- **From a line that is reached on, a block is read like a block of its own.** -/
theorem Reaches.readForms_eq {as : List α} {n : Nat} (h : Reaches read? ls as n) {within : Nat}
    (hn : n ≤ within) :
    readForms read? within 0 ls = as ++ readForms read? (within - n) 0 (ls.drop n) := by
  induction h generalizing within with
  | start ls => rfl
  | pass hread _ ih =>
    obtain ⟨w, rfl⟩ := Nat.exists_eq_add_of_le' (Nat.le_trans (Nat.le_add_left 1 _) hn)
    rw [readForms, hread, ih (Nat.le_of_succ_le_succ hn), Nat.add_sub_add_right,
      List.drop_succ_cons]
  | @form l ls a extra as n hread _ ih =>
    obtain ⟨w, rfl⟩ := Nat.exists_eq_add_of_le' (Nat.le_trans (Nat.le_add_left 1 _) hn)
    have hle : n ≤ w - extra := by omega
    rw [readForms, hread]
    dsimp only
    rw [readForms_taken, ih hle, List.drop_drop, Nat.sub_sub, Nat.add_sub_add_right,
      List.drop_succ_cons, List.cons_append]

theorem ReachedCall.line_lt {name : List Char} (r : ReachedCall read? ls name) :
    r.line < ls.length := by
  have hlength := congrArg List.length r.drop_eq
  rw [r.call.lines_eq, List.length_drop, List.cons_append, List.length_cons] at hlength
  omega

/-- What is read of a call that is reached comes next. -/
theorem ReachedCall.exists_readForms_eq {name : List Char} (r : ReachedCall read? ls name)
    {within : Nat} (hline : r.line < within) {a : α} {extra : Nat}
    (hread : read? r.call.head (r.call.lines.tail ++ r.after) = some (a, extra)) :
    ∃ later, readForms read? within 0 ls = r.earlier ++ a :: later := by
  obtain ⟨w, hw⟩ := Nat.exists_eq_add_of_lt hline
  have hrest : within - r.line = w + 1 := by omega
  rw [r.reaches.readForms_eq (Nat.le_of_lt hline), r.drop_eq, r.call.lines_eq, List.cons_append,
    hrest, readForms, hread]
  exact ⟨_, rfl⟩

end Forms

end DeclAtlas.Nesting
