import DeclAtlas.Text.CharClass
import DeclAtlas.Text.LowerCase
import DeclAtlas.Text.WordChar

/-!
# Sets of characters

A set of characters is kept as ranges of code points that lie in order with a gap between
neighbours, so equal sets have equal ranges.  The operations are those of sets (`contains_union`,
`contains_unionOf`).  A complement never holds a surrogate, which is no character.
-/

namespace DeclAtlas

open Text

/-- Ranges that hold something and lie in order, with a gap between neighbours. -/
def Apart (t : CodeRanges) : Prop := (∀ r ∈ t, r.1 ≤ r.2) ∧ t.Pairwise fun r s => r.2 + 1 < s.1

/-- A set of characters. -/
structure CharSet where
  /-- The code points, as ranges. -/
  ranges : CodeRanges
  apart : Apart ranges
  deriving DecidableEq

namespace CharSet

instance : Repr CharSet := ⟨fun s => reprPrec s.ranges⟩

/-- Whether ranges in order hold a number. -/
def holds (n : Nat) : CodeRanges → Bool
  | [] => false
  | r :: t => !(n < r.1) && (n ≤ r.2 || holds n t)

/-- Whether a character is in a set. -/
def contains (s : CharSet) (c : Char) : Bool := holds c.toNat s.ranges

/-- Ranges with one more, which joins those that it touches. -/
def addRange (r : Nat × Nat) : CodeRanges → CodeRanges
  | [] => [r]
  | s :: t =>
    if r.2 + 1 < s.1 then r :: s :: t
    else if s.2 + 1 < r.1 then s :: addRange r t
    else addRange (min r.1 s.1, max r.2 s.2) t

theorem lt_of_mem_addRange {b : Nat} {r : Nat × Nat} {t : CodeRanges} (hr : b < r.1)
    (ht : ∀ s ∈ t, b < s.1) : ∀ q ∈ addRange r t, b < q.1 := by
  induction t generalizing r with
  | nil => simpa [addRange] using hr
  | cons s t ih =>
    have hs := ht s (by simp)
    have hrest : ∀ q ∈ t, b < q.1 := fun q hq => ht q (by simp [hq])
    intro q hq
    simp only [addRange] at hq
    split at hq
    · grind
    · split at hq
      · rcases List.mem_cons.1 hq with rfl | hq
        · exact hs
        · exact ih hr hrest q hq
      · exact ih (r := (min r.1 s.1, max r.2 s.2)) (by simp; omega) hrest q hq

theorem apart_addRange {r : Nat × Nat} {t : CodeRanges} (hr : r.1 ≤ r.2) (ht : Apart t) :
    Apart (addRange r t) := by
  induction t generalizing r with
  | nil => simpa [addRange, Apart] using hr
  | cons s t ih =>
    obtain ⟨hle, hgap⟩ := ht
    have hs := hle s (by simp)
    obtain ⟨hfirst, hgap'⟩ := List.pairwise_cons.1 hgap
    have hrest : Apart t := ⟨fun q hq => hle q (by simp [hq]), hgap'⟩
    simp only [addRange]
    split
    case isTrue h =>
      refine ⟨fun q hq => ?_, List.pairwise_cons.2 ⟨fun q hq => ?_, hgap⟩⟩
      · rcases List.mem_cons.1 hq with rfl | hq
        · exact hr
        · exact hle q hq
      rcases List.mem_cons.1 hq with rfl | hq
      · exact h
      · have := hfirst q hq; omega
    case isFalse =>
      split
      case isTrue h =>
        obtain ⟨hle', hgap''⟩ := ih hr hrest
        refine ⟨fun q hq => ?_, List.pairwise_cons.2 ⟨lt_of_mem_addRange h hfirst, hgap''⟩⟩
        rcases List.mem_cons.1 hq with rfl | hq
        · exact hs
        · exact hle' q hq
      case isFalse => exact ih (r := (min r.1 s.1, max r.2 s.2)) (by simp; omega) hrest

/-- Ranges in any order, set apart; empty ones do not count. -/
def setApart (t : CodeRanges) : CodeRanges :=
  t.foldr (fun r u => if r.1 ≤ r.2 then addRange r u else u) []

theorem apart_setApart (t : CodeRanges) : Apart (setApart t) := by
  induction t with
  | nil => exact ⟨by simp [setApart], by simp [setApart]⟩
  | cons r t ih =>
    simp only [setApart, List.foldr_cons] at ih ⊢
    split
    case isTrue h => exact apart_addRange h ih
    case isFalse => exact ih

/-- The set of the characters in some ranges. -/
def ofRanges (t : CodeRanges) : CharSet := ⟨setApart t, apart_setApart t⟩

/-- The characters from one code point to another. -/
def range (first last : Nat) : CharSet := ofRanges [(first, last)]

/-- The set of one character. -/
def single (c : Char) : CharSet := range c.toNat c.toNat

/-- The empty set. -/
def nothing : CharSet := ofRanges []

/-- The set of all characters. -/
def anything : CharSet := range 0 0x10FFFF

/-- The characters of either set. -/
def union (s t : CharSet) : CharSet := ofRanges (s.ranges ++ t.ranges)

/-- The characters in one of some sets. -/
def unionOf (ss : List CharSet) : CharSet := ofRanges (ss.flatMap ranges)

/-- What two ranges share. -/
def shared (r q : Nat × Nat) : Nat × Nat := (max r.1 q.1, min r.2 q.2)

/-- The characters of both sets. -/
def inter (s t : CharSet) : CharSet :=
  ofRanges (s.ranges.flatMap fun r => (t.ranges.map (shared r)).filter fun q => q.1 ≤ q.2)

/-- The ranges between others, from `next` on. -/
def gaps (next : Nat) : CodeRanges → CodeRanges
  | [] => [(next, 0x10FFFF)]
  | r :: t => if next < r.1 then (next, r.1 - 1) :: gaps (r.2 + 1) t else gaps (r.2 + 1) t

/-- The code points of no character. -/
def surrogates : CodeRanges := [(0xD800, 0xDFFF)]

/-- The characters that are not in a set. -/
def except (s : CharSet) : CharSet :=
  ofRanges (gaps 0 (setApart (surrogates ++ s.ranges)))

/-- The characters in the first set and not in the second. -/
def difference (s t : CharSet) : CharSet := inter s (except t)

/-- The characters in exactly one of two sets. -/
def symmetric (s t : CharSet) : CharSet := union (difference s t) (difference t s)

/-- Whether a set has no member. -/
def isEmpty (s : CharSet) : Bool := s.ranges.isEmpty

/-- Whether a set has exactly one member. -/
def isSingle (s : CharSet) : Bool :=
  match s.ranges with
  | [r] => r.1 == r.2
  | _ => false

/-- Whether all members of a set are ASCII. -/
def isAscii (s : CharSet) : Bool := s.ranges.all (·.2 < 128)

/-- The characters that are the same letter as one in the set; `ascii` restricts the letters to
those of ASCII. -/
def caseless (ascii : Bool) (s : CharSet) : CharSet :=
  let pairs := foldPairs ascii
  let folded := ((pairs.filter fun p => s.contains p.1).map Prod.snd).filter (!s.contains ·)
  let s := union (unionOf (folded.map single)) s
  let capitals := ((pairs.filter fun p => s.contains p.2).map Prod.fst).filter (!s.contains ·)
  union (unionOf (capitals.map single)) s

/-- The ASCII characters between two. -/
def ascii (first last : Char) : CharSet := range first.toNat last.toNat

/-- The decimal digits of ASCII. -/
def asciiDigit : CharSet := ascii '0' '9'

/-- The letters of ASCII. -/
def asciiLetter : CharSet := union (ascii 'a' 'z') (ascii 'A' 'Z')

/-- The word characters of ASCII. -/
def asciiWord : CharSet := unionOf [asciiLetter, asciiDigit, single '_']

/-- The white space of ASCII. -/
def asciiBlank : CharSet := union (single ' ') (ascii '\t' '\r')

/-- The word characters. -/
def word : CharSet := union asciiWord (ofRanges wordRanges)

/-- The decimal digits. -/
def digit : CharSet := union asciiDigit (ofRanges digitRanges)

/-- White space. -/
def blank : CharSet :=
  ofRanges
    [(0x09, 0x0D), (0x20, 0x20), (0x85, 0x85), (0xA0, 0xA0), (0x1680, 0x1680), (0x2000, 0x200A),
     (0x2028, 0x2029), (0x202F, 0x202F), (0x205F, 0x205F), (0x3000, 0x3000)]

/-! ### Membership -/

theorem holds_eq_true_iff {t : CodeRanges} (h : Apart t) (n : Nat) :
    holds n t = true ↔ ∃ r ∈ t, r.1 ≤ n ∧ n ≤ r.2 := by
  induction t with
  | nil => simp [holds]
  | cons r t ih =>
    obtain ⟨hle, hgap⟩ := h
    obtain ⟨hfirst, hgap'⟩ := List.pairwise_cons.1 hgap
    have ih := ih ⟨fun q hq => hle q (by simp [hq]), hgap'⟩
    have hr := hle r (by simp)
    simp only [holds, Bool.and_eq_true, Bool.or_eq_true, Bool.not_eq_true', decide_eq_true_eq,
      decide_eq_false_iff_not, ih, List.mem_cons, exists_eq_or_imp]
    constructor
    · rintro ⟨h1, h2 | h2⟩
      · exact .inl ⟨by omega, h2⟩
      · exact .inr h2
    · rintro (⟨h1, h2⟩ | ⟨q, hq, h1, h2⟩)
      · exact ⟨by omega, .inl h2⟩
      · have := hfirst q hq
        exact ⟨by omega, .inr ⟨q, hq, h1, h2⟩⟩

theorem exists_mem_addRange {r : Nat × Nat} {t : CodeRanges} (hr : r.1 ≤ r.2) (ht : Apart t)
    (n : Nat) : (∃ q ∈ addRange r t, q.1 ≤ n ∧ n ≤ q.2) ↔
      (r.1 ≤ n ∧ n ≤ r.2) ∨ ∃ q ∈ t, q.1 ≤ n ∧ n ≤ q.2 := by
  induction t generalizing r with
  | nil => simp [addRange]
  | cons s t ih =>
    obtain ⟨hle, hgap⟩ := ht
    have hs := hle s (by simp)
    have hrest : Apart t :=
      ⟨fun q hq => hle q (by simp [hq]), (List.pairwise_cons.1 hgap).2⟩
    simp only [addRange]
    split
    case isTrue => simp
    case isFalse =>
      split
      case isTrue => simp [ih hr hrest]; grind
      case isFalse =>
        rw [ih (r := (min r.1 s.1, max r.2 s.2)) (by simp; omega) hrest]
        simp only [List.mem_cons, exists_eq_or_imp]
        constructor
        · rintro (h | h)
          · have : (r.1 ≤ n ∧ n ≤ r.2) ∨ (s.1 ≤ n ∧ n ≤ s.2) := by omega
            exact this.elim .inl (fun h => .inr (.inl h))
          · exact .inr (.inr h)
        · rintro (h | h | h)
          · exact .inl (by omega)
          · exact .inl (by omega)
          · exact .inr h

theorem exists_mem_setApart (t : CodeRanges) (n : Nat) :
    (∃ q ∈ setApart t, q.1 ≤ n ∧ n ≤ q.2) ↔ ∃ q ∈ t, q.1 ≤ n ∧ n ≤ q.2 := by
  induction t with
  | nil => simp [setApart]
  | cons r t ih =>
    have h : setApart (r :: t) = if r.1 ≤ r.2 then addRange r (setApart t) else setApart t := rfl
    simp only [h, List.mem_cons, exists_eq_or_imp]
    split
    case isTrue hr => rw [exists_mem_addRange hr (apart_setApart t), ih]
    case isFalse hr =>
      rw [ih]
      constructor
      · exact .inr
      · rintro (h | h)
        · omega
        · exact h

theorem contains_iff {s : CharSet} {c : Char} :
    s.contains c = true ↔ ∃ r ∈ s.ranges, r.1 ≤ c.toNat ∧ c.toNat ≤ r.2 :=
  holds_eq_true_iff s.apart c.toNat

theorem contains_ofRanges {t : CodeRanges} {c : Char} :
    (ofRanges t).contains c = true ↔ ∃ r ∈ t, r.1 ≤ c.toNat ∧ c.toNat ≤ r.2 :=
  contains_iff.trans (exists_mem_setApart t c.toNat)

theorem contains_single {c d : Char} : (single c).contains d = true ↔ c = d := by
  rw [single, range, contains_ofRanges]
  simp only [List.mem_singleton, exists_eq_left]
  constructor
  · intro h
    exact Char.ext (UInt32.toNat_inj.1 (Nat.le_antisymm h.1 h.2))
  · rintro rfl
    exact ⟨Nat.le_refl _, Nat.le_refl _⟩

theorem contains_union {s t : CharSet} {c : Char} :
    (union s t).contains c = true ↔ s.contains c = true ∨ t.contains c = true := by
  rw [union, contains_ofRanges]
  simp only [contains_iff, List.mem_append, or_and_right, exists_or]

theorem contains_unionOf {ss : List CharSet} {c : Char} :
    (unionOf ss).contains c = true ↔ ∃ s ∈ ss, s.contains c = true := by
  rw [unionOf, contains_ofRanges]
  simp only [contains_iff, List.mem_flatMap]
  constructor
  · rintro ⟨r, ⟨s, hs, hr⟩, h⟩
    exact ⟨s, hs, r, hr, h⟩
  · rintro ⟨s, hs, r, hr, h⟩
    exact ⟨r, ⟨s, hs, hr⟩, h⟩

end CharSet

end DeclAtlas
