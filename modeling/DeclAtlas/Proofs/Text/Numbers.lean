import DeclAtlas.Text.CharClass
import Mathlib.Tactic.Ring

/-!
# Numbers in the digits of any script

A digit belongs to ten consecutive characters, the digits of its script, and its value is its place
among them.  So a text of digits writes a number whatever its script is.

Texts are compared character by character.  For two texts of digits of one length this is the order
of their numbers, as long as the digits at each place are of one script
(`append_lt_append_iff`).  Digits of different scripts compare by their scripts and not by their
values, so the condition cannot be left out.
-/

namespace DeclAtlas.Text

/-- The ranges of the decimal digits.  Each holds the digits of one script or of several, ten by
ten. -/
def decimalRanges : CodeRanges := (0x30, 0x39) :: digitRanges

/-- The code of the zero of the script that a digit belongs to. -/
def zeroCode (c : Char) : Nat :=
  match decimalRanges.find? fun r => r.1 ≤ c.toNat && c.toNat ≤ r.2 with
  | some r => c.toNat - (c.toNat - r.1) % 10
  | none => c.toNat

/-- The value of a digit. -/
def digitValue (c : Char) : Nat := c.toNat - zeroCode c

/-- The number that a text of digits writes. -/
def number : List Char → Nat
  | [] => 0
  | c :: s => digitValue c * 10 ^ s.length + number s

example : number "٢٠٢٤".toList = 2024 := by decide +kernel

/-- Whether two texts are written in digits of the same script at each place. -/
def SameScripts (s r : List Char) : Prop := s.map zeroCode = r.map zeroCode

instance (s r : List Char) : Decidable (SameScripts s r) :=
  inferInstanceAs (Decidable (s.map zeroCode = r.map zeroCode))

/-! ### Digits -/

theorem zeroCode_add_digitValue (c : Char) : zeroCode c + digitValue c = c.toNat := by
  have hle : zeroCode c ≤ c.toNat := by
    unfold zeroCode
    split
    · exact Nat.sub_le _ _
    · exact Nat.le_refl _
  rw [digitValue]
  omega

theorem digitValue_lt (c : Char) : digitValue c < 10 := by
  have hmod : ∀ n, n % 10 < 10 := fun n => Nat.mod_lt n (by decide)
  unfold digitValue zeroCode
  split
  · rename_i r _
    have := hmod (c.toNat - r.1)
    omega
  · omega

section Digits

variable {c d : Char}

theorem lt_iff_digitValue_lt (h : zeroCode c = zeroCode d) :
    c < d ↔ digitValue c < digitValue d := by
  have hc := zeroCode_add_digitValue c
  have hd := zeroCode_add_digitValue d
  have hlt : c < d ↔ c.toNat < d.toNat := Iff.rfl
  rw [hlt]
  omega

theorem eq_iff_digitValue_eq (h : zeroCode c = zeroCode d) :
    c = d ↔ digitValue c = digitValue d := by
  have hc := zeroCode_add_digitValue c
  have hd := zeroCode_add_digitValue d
  have heq : c = d ↔ c.toNat = d.toNat := Char.toNat_inj.symm
  rw [heq]
  omega

end Digits

/-! ### Scripts of texts -/

section Scripts

variable {a b r s : List Char}

theorem sameScripts_cons {c : Char} : SameScripts (c :: r) (c :: s) ↔ SameScripts r s :=
  List.cons_inj_right _

theorem sameScripts_append (h : a.length = b.length) :
    SameScripts (a ++ r) (b ++ s) ↔ SameScripts a b ∧ SameScripts r s := by
  have hmap : (a.map zeroCode).length = (b.map zeroCode).length := by
    rw [List.length_map, List.length_map, h]
  rw [SameScripts, List.map_append, List.map_append]
  exact ⟨fun heq => List.append_inj heq hmap, fun ⟨hab, hrs⟩ => congrArg₂ (· ++ ·) hab hrs⟩

theorem zeroCode_of_ascii {c : Char} (hc : isDigit c = true) (h : c.toNat < 128) :
    zeroCode c = 0x30 := by
  rw [isDigit, if_pos h] at hc
  have hlow : 0x30 ≤ c.toNat ∧ c.toNat ≤ 0x39 := by
    simpa [Char.isDigit, UInt32.le_iff_toNat_le] using hc
  have hfind : decimalRanges.find? (fun r => r.1 ≤ c.toNat && c.toNat ≤ r.2) =
      some (0x30, 0x39) := by
    rw [decimalRanges, List.find?_cons_of_pos]
    simpa using hlow
  rw [zeroCode, hfind]
  simp only
  omega

/-- Texts of ASCII digits are of one script. -/
theorem sameScripts_of_ascii (hlength : a.length = b.length)
    (ha : ∀ c ∈ a, isDigit c = true ∧ c.toNat < 128)
    (hb : ∀ c ∈ b, isDigit c = true ∧ c.toNat < 128) : SameScripts a b := by
  have hzeros : ∀ l : List Char, (∀ c ∈ l, isDigit c = true ∧ c.toNat < 128) →
      l.map zeroCode = List.replicate l.length 0x30 := fun l hl =>
    List.map_eq_replicate_iff.mpr fun c hc => zeroCode_of_ascii (hl c hc).1 (hl c hc).2
  rw [SameScripts, hzeros a ha, hzeros b hb, hlength]

end Scripts

/-! ### Numbers -/

theorem number_lt (s : List Char) : number s < 10 ^ s.length := by
  induction s with
  | nil => exact Nat.one_pos
  | cons c s ih =>
    have hc : digitValue c ≤ 9 := Nat.le_of_lt_succ (digitValue_lt c)
    calc number (c :: s) = digitValue c * 10 ^ s.length + number s := rfl
      _ < 9 * 10 ^ s.length + 10 ^ s.length :=
        Nat.add_lt_add_of_le_of_lt (Nat.mul_le_mul_right _ hc) ih
      _ = 10 ^ (c :: s).length := by rw [List.length_cons, Nat.pow_succ]; ring

/-- The higher place decides first. -/
theorem place_lt_iff {p a b x y : Nat} (hx : x < p) (hy : y < p) :
    a * p + x < b * p + y ↔ a < b ∨ a = b ∧ x < y := by
  rcases Nat.lt_trichotomy a b with h | rfl | h
  · have hmul : (a + 1) * p ≤ b * p := Nat.mul_le_mul_right p h
    rw [Nat.add_mul, Nat.one_mul] at hmul
    exact ⟨fun _ => .inl h, fun _ => by omega⟩
  · simp
  · have hmul : (b + 1) * p ≤ a * p := Nat.mul_le_mul_right p h
    rw [Nat.add_mul, Nat.one_mul] at hmul
    refine ⟨fun hlt => by omega, fun hor => by omega⟩

theorem place_eq_iff {p a b x y : Nat} (hx : x < p) (hy : y < p) :
    a * p + x = b * p + y ↔ a = b ∧ x = y := by
  have hlt := place_lt_iff (a := a) (b := b) hx hy
  have hgt := place_lt_iff (a := b) (b := a) hy hx
  omega

/-- **Digits of the same scripts compare as numbers do**, and only where the numbers are equal does
it matter what follows. -/
theorem append_lt_append_iff {a b : List Char} (h : SameScripts a b) (r s : List Char) :
    a ++ r < b ++ s ↔ number a < number b ∨ number a = number b ∧ r < s := by
  induction a generalizing b with
  | nil =>
    obtain rfl : b = [] := List.map_eq_nil_iff.mp h.symm
    simp
  | cons c a ih =>
    cases b with
    | nil => exact absurd h (List.cons_ne_nil _ _)
    | cons d b =>
      obtain ⟨hcd, hab⟩ := List.cons.inj h
      have hlength : a.length = b.length := by
        rw [← List.length_map zeroCode, hab, List.length_map]
      -- the first digit outweighs all the others together
      have ha := number_lt a
      have hb := number_lt b
      rw [hlength] at ha
      rw [List.cons_append, List.cons_append, List.cons_lt_cons_iff, ih hab,
        lt_iff_digitValue_lt hcd, eq_iff_digitValue_eq hcd, number, number, hlength,
        place_lt_iff ha hb, place_eq_iff ha hb]
      tauto

end DeclAtlas.Text
