import BlobFs.Bytes

/-!
# The order of texts

Names are ordered character by character, and whoever keeps them as UTF-8 orders them byte by byte.
The two orders are one (`ofText_lt_ofText`): of two different characters the smaller has the
smaller bytes, and as the bytes of neither begin those of the other, what follows does not matter.
-/

set_option autoImplicit false

namespace BlobFs.Bytes

/-! ## The bytes of a text, character by character -/

private theorem toList_loop_eq (b : ByteArray) (i : Nat) (done : Bytes) :
    ByteArray.toList.loop b i done = done.reverse ++ b.data.toList.drop i := by
  induction i, done using ByteArray.toList.loop.induct b with
  | case1 i done hi ih =>
    have hi' : i < b.data.toList.length := by simpa using hi
    rw [ByteArray.toList.loop, if_pos hi, ih, List.drop_eq_getElem_cons hi']
    simp [ByteArray.get!, getElem!_pos b.data i (by simpa using hi)]
  | case2 i done hi =>
    have hi' : b.data.toList.length ≤ i := by simpa using hi
    rw [ByteArray.toList.loop, if_neg hi, List.drop_eq_nil_of_le hi', List.append_nil]

/-- A text's bytes are the bytes of its characters in turn. -/
theorem ofText_eq_flatMap (text : String) :
    ofText text = text.toList.flatMap String.utf8EncodeChar := by
  have h : text.toUTF8 = (text.toList.flatMap String.utf8EncodeChar).toByteArray := by
    rw [String.toUTF8_eq_toByteArray, ← String.utf8Encode_toList, List.utf8Encode]
  rw [ofText, ByteArray.toList, toList_loop_eq, h, List.toList_data_toByteArray]
  rfl

/-! ## The order of the bytes -/

private theorem ofNat_cons_lt_iff {m n : Nat} (hm : m < 256) (hn : n < 256) {xs ys : Bytes} :
    UInt8.ofNat m :: xs < UInt8.ofNat n :: ys ↔ m < n ∨ m = n ∧ xs < ys := by
  rw [List.cons_lt_cons_iff, UInt8.lt_iff_toNat_lt, ← UInt8.toNat_inj, UInt8.toNat_ofNat',
    UInt8.toNat_ofNat', Nat.mod_eq_of_lt hm, Nat.mod_eq_of_lt hn]

/-- The digits in base 64 of the smaller of two numbers are smaller where they first differ. -/
private theorem digits_lt {v w : Nat} (h : v < w) :
    v / 262144 < w / 262144 ∨
    v / 262144 = w / 262144 ∧ (v / 4096 % 64 < w / 4096 % 64 ∨
      v / 4096 % 64 = w / 4096 % 64 ∧ (v / 64 % 64 < w / 64 % 64 ∨
        v / 64 % 64 = w / 64 % 64 ∧ v % 64 < w % 64)) := by
  have hstep (m n : Nat) (h : m < n) : m / 64 < n / 64 ∨ m / 64 = n / 64 ∧ m % 64 < n % 64 := by
    omega
  have hdiv (n : Nat) : n / 64 / 64 = n / 4096 ∧ n / 4096 / 64 = n / 262144 :=
    ⟨Nat.div_div_eq_div_mul n 64 64, Nat.div_div_eq_div_mul n 4096 64⟩
  rcases hstep v w h with h | ⟨h, h₀⟩
  · rcases hstep _ _ h with h | ⟨h, h₁⟩
    · rw [(hdiv v).1, (hdiv w).1] at h
      rcases hstep _ _ h with h | ⟨h, h₂⟩
      · rw [(hdiv v).2, (hdiv w).2] at h
        exact .inl h
      · rw [(hdiv v).2, (hdiv w).2] at h
        exact .inr ⟨h, .inl h₂⟩
    · rw [(hdiv v).1, (hdiv w).1] at h
      rw [← (hdiv v).2, ← (hdiv w).2, h]
      exact .inr ⟨rfl, .inr ⟨rfl, .inl h₁⟩⟩
  · rw [← (hdiv v).2, ← (hdiv w).2, ← (hdiv v).1, ← (hdiv w).1, h]
    exact .inr ⟨rfl, .inr ⟨rfl, .inr ⟨rfl, h₀⟩⟩⟩

/-- Where two texts first differ, the smaller character decides for the bytes too. -/
theorem encodeChar_append_lt {c d : Char} (h : c < d) (xs ys : Bytes) :
    String.utf8EncodeChar c ++ xs < String.utf8EncodeChar d ++ ys := by
  have hcd : c.val.toNat < d.val.toNat := UInt32.lt_iff_toNat_lt.1 (Char.lt_def.1 h)
  have hd : d.val.toNat < 0x110000 := by
    rcases d.valid with hd | hd
    · exact Nat.lt_trans hd (by decide)
    · exact hd.2
  have hdigits := digits_lt hcd
  have hfirst (n : Nat) (hn : n < 0x110000) : n / 262144 % 8 = n / 262144 :=
    Nat.mod_eq_of_lt (by omega)
  rw [← hfirst _ (Nat.lt_trans hcd hd), ← hfirst _ hd] at hdigits
  generalize hv : c.val.toNat = v at hcd hdigits
  generalize hw : d.val.toNat = w at hcd hd hdigits
  simp only [String.utf8EncodeChar, hv, hw]
  -- Fewer bytes come with a smaller first one; as many bytes are the digits of the two numbers.
  split <;> split <;> (try split) <;> (try split) <;> (try split) <;> (try split) <;>
    simp (disch := omega) only [List.cons_append, List.nil_append, ofNat_cons_lt_iff] <;> omega

/-- The bytes of two texts are in the order of the texts. -/
theorem ofText_lt_ofText {s t : String} (h : s < t) : ofText s < ofText t := by
  replace h : s.toList < t.toList := h
  rw [ofText_eq_flatMap, ofText_eq_flatMap]
  generalize s.toList = cs at h
  generalize t.toList = ds at h
  induction cs generalizing ds with
  | nil =>
    cases ds with
    | nil => exact absurd h (List.not_lt_nil [])
    | cons d ds =>
      rw [List.flatMap_nil, List.flatMap_cons]
      cases hd : String.utf8EncodeChar d with
      | nil => exact absurd hd String.utf8EncodeChar_ne_nil
      | cons byte rest => exact List.nil_lt_cons byte _
  | cons c cs ih =>
    cases ds with
    | nil => exact absurd h (List.not_lt_nil _)
    | cons d ds =>
      rw [List.flatMap_cons, List.flatMap_cons]
      rcases List.cons_lt_cons_iff.1 h with hcd | ⟨rfl, hrest⟩
      · exact encodeChar_append_lt hcd _ _
      · exact List.append_left_lt (ih ds hrest)

/-- Different texts have different bytes. -/
theorem ofText_injective {s t : String} (h : ofText s = ofText t) : s = t := by
  have hst : ¬s < t := fun hlt ↦ List.lt_irrefl _ (h ▸ ofText_lt_ofText hlt)
  have hts : ¬t < s := fun hlt ↦ List.lt_irrefl _ (h ▸ ofText_lt_ofText hlt)
  exact String.le_antisymm (String.not_lt.1 hts) (String.not_lt.1 hst)

end BlobFs.Bytes
