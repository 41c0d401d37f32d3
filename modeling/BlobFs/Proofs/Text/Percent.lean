import BlobFs.Proofs.Text.Order
import BlobFs.Text.Percent

/-!
# Percent encoding can be undone

Whatever characters may stand as they are, `%` not among them, decoding gives the bytes of the text
that was encoded (`percentDecode_percentEncode`), and no encoding has a `/` that the text does not
have.
-/

set_option autoImplicit false

namespace BlobFs.Text

/-- An upper-case digit is read as what it stands for, and it is no `/`. -/
private theorem hexValue?_upperHexDigit : ∀ n : Fin 16,
    Bytes.hexValue? (upperHexDigit n.val) = some n.val ∧ upperHexDigit n.val ≠ '/' := by
  decide

theorem percentDecode_percentByte (b : UInt8) (rest : List Char) :
    percentDecode (percentByte b ++ rest) = b :: percentDecode rest := by
  have hb : b.toNat < 256 := b.toNat_lt
  have hhigh := (hexValue?_upperHexDigit ⟨b.toNat / 16, by omega⟩).1
  have hlow := (hexValue?_upperHexDigit ⟨b.toNat % 16, by omega⟩).1
  rw [percentByte, List.cons_append, List.cons_append, List.cons_append, List.nil_append,
    percentDecode, hhigh, hlow]
  simp only [Nat.div_add_mod, UInt8.ofNat_toNat]

theorem percentDecode_flatMap_percentByte (bytes : Bytes) (rest : List Char) :
    percentDecode (bytes.flatMap percentByte ++ rest) = bytes ++ percentDecode rest := by
  induction bytes with
  | nil => rfl
  | cons b bytes ih =>
    rw [List.flatMap_cons, List.append_assoc, percentDecode_percentByte, ih, List.cons_append]

theorem percentDecode_percentChar {stands : Char → Bool} (h : stands '%' = false) (c : Char)
    (rest : List Char) :
    percentDecode (percentChar stands c ++ rest) =
      Bytes.ofText (String.ofList [c]) ++ percentDecode rest := by
  rw [percentChar]
  by_cases hc : stands c = true
  · have hne : c ≠ '%' := by
      rintro rfl
      rw [h] at hc
      cases hc
    rw [if_pos hc, List.cons_append, List.nil_append, percentDecode]
    exact fun _ _ _ he _ ↦ hne he
  · rw [if_neg hc, percentDecode_flatMap_percentByte]

/-- **Decoding gives the bytes of what was encoded.** -/
theorem percentDecode_percentEncode {stands : Char → Bool} (h : stands '%' = false)
    (s : List Char) : percentDecode (percentEncode stands s) = Bytes.ofText (String.ofList s) := by
  rw [Bytes.ofText_eq_flatMap, String.toList_ofList, percentEncode]
  induction s with
  | nil => rw [List.flatMap_nil, List.flatMap_nil, percentDecode]
  | cons c s ih =>
    rw [List.flatMap_cons, percentDecode_percentChar h, ih, List.flatMap_cons,
      Bytes.ofText_eq_flatMap, String.toList_ofList, List.flatMap_singleton]

/-- Encoding adds no `/`. -/
theorem slash_not_mem_percentEncode {stands : Char → Bool} {s : List Char} (h : '/' ∉ s) :
    '/' ∉ percentEncode stands s := by
  rw [percentEncode, List.mem_flatMap]
  rintro ⟨c, hc, hslash⟩
  rw [percentChar] at hslash
  split at hslash
  · obtain rfl := List.mem_singleton.1 hslash
    exact h hc
  · obtain ⟨b, -, hb⟩ := List.mem_flatMap.1 hslash
    have hlt : b.toNat < 256 := b.toNat_lt
    have hhigh := (hexValue?_upperHexDigit ⟨b.toNat / 16, by omega⟩).2
    have hlow := (hexValue?_upperHexDigit ⟨b.toNat % 16, by omega⟩).2
    simp only [percentByte, List.mem_cons, List.not_mem_nil, or_false] at hb
    rcases hb with hb | hb | hb
    · cases hb
    · exact hhigh hb.symm
    · exact hlow hb.symm

end BlobFs.Text
