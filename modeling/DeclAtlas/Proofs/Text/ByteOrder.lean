import Mathlib.Tactic.SplitIfs

/-!
# The order of bytes

Texts are compared character by character.  Written in UTF-8 they compare in the same way byte by
byte (`utf8Bytes_le_iff`).  This is because the bytes of a character lie before those of a later one
at the first place where they differ, and they always differ before either of them ends
(`utf8EncodeChar_append_lt`).
-/

namespace DeclAtlas.Text

/-- The bytes of a text in UTF-8. -/
def utf8Bytes (s : String) : List UInt8 := s.toByteArray.data.toList

theorem utf8Bytes_eq_flatMap (s : String) :
    utf8Bytes s = s.toList.flatMap String.utf8EncodeChar := by
  rw [utf8Bytes, ← String.utf8Encode_toList, List.utf8Encode, List.toList_data_toByteArray]

theorem utf8EncodeChar_append_lt {c d : Char} (h : c < d) (x y : List UInt8) :
    String.utf8EncodeChar c ++ x < String.utf8EncodeChar d ++ y := by
  have hlt : c.val.toNat < d.val.toNat := UInt32.lt_iff_toNat_lt.mp h
  have hbound : d.val.toNat < 0x110000 := by
    rcases d.valid with hd | hd <;> omega
  -- a byte after the first holds six bits, so every further shift is by six
  have htwice : ∀ n, n / 4096 = n / 64 / 64 := by intro n; omega
  have hthrice : ∀ n, n / 262144 = n / 64 / 64 / 64 := by intro n; omega
  simp only [String.utf8EncodeChar, htwice, hthrice]
  generalize c.val.toNat = v at *
  generalize d.val.toNat = w at *
  split_ifs <;>
  · simp only [List.cons_append, List.nil_append, List.cons_lt_cons_iff, UInt8.lt_iff_toNat_lt,
      ← UInt8.toNat_inj, UInt8.toNat_ofNat']
    omega

theorem flatMap_utf8EncodeChar_lt {s t : List Char} (h : s < t) :
    s.flatMap String.utf8EncodeChar < t.flatMap String.utf8EncodeChar := by
  induction s generalizing t with
  | nil =>
    cases t with
    | nil => exact absurd h (List.lt_irrefl [])
    | cons d t =>
      have hne : (d :: t).flatMap String.utf8EncodeChar ≠ [] := by
        simp [List.flatMap_cons, String.utf8EncodeChar_ne_nil]
      obtain ⟨b, bs, hbytes⟩ := List.exists_cons_of_ne_nil hne
      rw [hbytes]
      exact List.nil_lt_cons b bs
  | cons c s ih =>
    cases t with
    | nil => exact absurd h (List.not_lt_nil _)
    | cons d t =>
      rw [List.flatMap_cons, List.flatMap_cons]
      rcases List.cons_lt_cons_iff.mp h with hcd | ⟨rfl, hst⟩
      · exact utf8EncodeChar_append_lt hcd _ _
      · exact List.append_left_lt (ih hst)

theorem utf8Bytes_lt {a b : String} (h : a < b) : utf8Bytes a < utf8Bytes b := by
  rw [utf8Bytes_eq_flatMap, utf8Bytes_eq_flatMap]
  exact flatMap_utf8EncodeChar_lt (String.lt_iff.mp h)

/-- **Texts compare as their bytes do.** -/
theorem utf8Bytes_le_iff {a b : String} : utf8Bytes a ≤ utf8Bytes b ↔ a ≤ b := by
  rw [← List.not_lt, ← String.not_lt]
  refine not_congr ⟨fun h => ?_, utf8Bytes_lt⟩
  by_cases hba : b < a
  · exact hba
  · by_cases hab : a < b
    · exact absurd h (List.lt_asymm (utf8Bytes_lt hab))
    · obtain rfl : a = b := String.le_antisymm (String.not_lt.mp hba) (String.not_lt.mp hab)
      exact absurd h (List.lt_irrefl _)

end DeclAtlas.Text
