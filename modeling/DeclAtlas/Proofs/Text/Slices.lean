import DeclAtlas.Proofs.Text.ByteOrder

/-!
# Slices of texts

Texts are stored as bytes, and a slice is named by the number of bytes before it.  A number that falls
inside a character names no slice (`cutAt?_eq_some_iff`).

Two texts agree up to the case of ASCII letters if their bytes do (`sameBytes_iff`): the bytes of any
other character are above the ASCII range, so no byte of theirs is taken for a letter
(`map_lowerByte_utf8EncodeChar`).  In particular such texts are equally long, in bytes as well
(`SameLetters.utf8ByteSize_eq`).
-/

namespace DeclAtlas.Text

/-! ### Cutting at a byte -/

/-- A text cut before byte `n`, unless that byte is inside a character or beyond the text. -/
def cutAt? (n : Nat) (s : String) : Option (String × String) :=
  if h : (⟨n⟩ : String.Pos.Raw).IsValid s then
    let p : s.Pos := ⟨⟨n⟩, h⟩
    some ((s.sliceTo p).copy, (s.sliceFrom p).copy)
  else none

/-- The first `n` bytes of a text, if they are a text. -/
def sliceTo? (n : Nat) (s : String) : Option String := (cutAt? n s).map Prod.fst

/-- A text without its first `n` bytes, if these are a text. -/
def sliceFrom? (n : Nat) (s : String) : Option String := (cutAt? n s).map Prod.snd

/-- **A text is cut between two texts, and nowhere else.** -/
theorem cutAt?_eq_some_iff {n : Nat} {s a b : String} :
    cutAt? n s = some (a, b) ↔ s = a ++ b ∧ n = a.utf8ByteSize := by
  have hvalid : (⟨n⟩ : String.Pos.Raw).IsValid s ↔ ∃ a b, s = a ++ b ∧ n = a.utf8ByteSize := by
    rw [String.Pos.Raw.isValid_iff_exists_append]
    simp only [String.Pos.Raw.ext_iff, String.byteIdx_rawEndPos]
  constructor
  · intro h
    unfold cutAt? at h
    split at h
    · rename_i hn
      obtain ⟨rfl, rfl⟩ := Prod.mk.inj (Option.some.inj h)
      have hsplits := String.Pos.splits (⟨⟨n⟩, hn⟩ : s.Pos)
      refine ⟨hsplits.eq_append, ?_⟩
      exact congrArg String.Pos.Raw.byteIdx hsplits.offset_eq_rawEndPos
    · exact nomatch h
  · rintro ⟨hs, hn⟩
    have hpos := hvalid.mpr ⟨a, b, hs, hn⟩
    have hsplits : (⟨⟨n⟩, hpos⟩ : s.Pos).Splits a b := ⟨hs, String.Pos.Raw.ext hn⟩
    obtain ⟨hleft, hright⟩ := (String.Pos.splits (⟨⟨n⟩, hpos⟩ : s.Pos)).eq hsplits
    rw [cutAt?, dif_pos hpos]
    dsimp only
    rw [hleft, hright]

/-! ### Letters without their case -/

/-- The byte of a lower case letter for that of an upper case one. -/
def lowerByte (b : UInt8) : UInt8 := if 65 ≤ b ∧ b ≤ 90 then b + 32 else b

/-- Whether the bytes of two texts agree up to the case of ASCII letters. -/
def sameBytes (a b : String) : Bool :=
  (utf8Bytes a).map lowerByte == (utf8Bytes b).map lowerByte

/-- The texts agree up to the case of ASCII letters. -/
def SameLetters (a b : List Char) : Prop := a.map Char.toLower = b.map Char.toLower

/-- A character above the ASCII range has no byte within it. -/
theorem le_of_mem_utf8EncodeChar {c : Char} (h : 128 ≤ c.toNat) {b : UInt8}
    (hb : b ∈ String.utf8EncodeChar c) : 128 ≤ b.toNat := by
  have hval : 128 ≤ c.val.toNat := h
  unfold String.utf8EncodeChar at hb
  dsimp only at hb
  split_ifs at hb
  · omega
  all_goals
    simp only [List.mem_cons, List.not_mem_nil, or_false] at hb
    rcases hb with rfl | rfl | rfl | rfl <;> rw [UInt8.toNat_ofNat'] <;> omega

theorem lowerByte_of_le {b : UInt8} (h : 128 ≤ b.toNat) : lowerByte b = b := by
  rw [lowerByte, if_neg]
  rintro ⟨-, hle⟩
  have hle' : b.toNat ≤ 90 := hle
  omega

theorem toLower_of_le {c : Char} (h : 128 ≤ c.toNat) : c.toLower = c := by
  refine dif_neg ?_
  rintro ⟨-, hle⟩
  have hle' : c.toNat ≤ 90 := hle
  omega

theorem map_lowerByte_of_ascii : ∀ n < 128,
    (String.utf8EncodeChar (Char.ofNat n)).map lowerByte =
      String.utf8EncodeChar (Char.ofNat n).toLower := by
  decide +kernel

/-- **Lower-casing the bytes of a character gives the bytes of the lower case character.** -/
theorem map_lowerByte_utf8EncodeChar (c : Char) :
    (String.utf8EncodeChar c).map lowerByte = String.utf8EncodeChar c.toLower := by
  by_cases h : c.toNat < 128
  · have hascii := map_lowerByte_of_ascii c.toNat h
    rwa [Char.ofNat_toNat] at hascii
  · have hle : 128 ≤ c.toNat := Nat.not_lt.mp h
    have hbytes : ∀ b ∈ String.utf8EncodeChar c, lowerByte b = b := fun b hb =>
      lowerByte_of_le (le_of_mem_utf8EncodeChar hle hb)
    rw [toLower_of_le hle, List.map_congr_left hbytes, List.map_id']

theorem map_lowerByte_utf8Bytes (s : String) :
    (utf8Bytes s).map lowerByte = utf8Bytes (String.ofList (s.toList.map Char.toLower)) := by
  rw [utf8Bytes_eq_flatMap, utf8Bytes_eq_flatMap, String.toList_ofList, List.map_flatMap,
    List.flatMap_map]
  simp only [map_lowerByte_utf8EncodeChar]

theorem utf8Bytes_injective : Function.Injective utf8Bytes := by
  intro a b h
  have hdata : a.toByteArray.data = b.toByteArray.data := Array.toList_inj.mp h
  exact String.toByteArray_inj.mp (ByteArray.ext hdata)

/-- **Texts agree up to the case of ASCII letters exactly if their bytes do.** -/
theorem sameBytes_iff {a b : String} : sameBytes a b = true ↔ SameLetters a.toList b.toList := by
  rw [sameBytes, beq_iff_eq, map_lowerByte_utf8Bytes, map_lowerByte_utf8Bytes,
    utf8Bytes_injective.eq_iff, String.ofList_inj, SameLetters]

/-- Texts that agree up to the case of ASCII letters are equally long. -/
theorem SameLetters.utf8ByteSize_eq {a b : String} (h : SameLetters a.toList b.toList) :
    a.utf8ByteSize = b.utf8ByteSize := by
  have hsize : ∀ s : String, s.utf8ByteSize = ((utf8Bytes s).map lowerByte).length := by
    intro s
    rw [List.length_map, utf8Bytes, Array.length_toList]
    exact s.size_toByteArray.symm
  have hbytes := beq_iff_eq.mp (sameBytes_iff.mpr h)
  rw [hsize, hsize, hbytes]

end DeclAtlas.Text
