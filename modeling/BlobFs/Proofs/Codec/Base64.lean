import BlobFs.Codec.Base64

/-!
# Base64 is read back

`Base64.decode_encode`: what is written is read back as the bytes it was written from.  A text is
read in groups of four symbols, and the last group apart from the others, because only it may be
filled up.  So the proof is by induction on the groups that the bytes are written in
(`Base64.sextets`), with one lemma for a full group that more follows (`decodeFrom_append`) and one
for the last group (`decodeFrom_filledGroup`).

`Base64.not_mem_encode` says what is never written: symbols and `=` are all there is.
-/

set_option autoImplicit false

namespace BlobFs.Base64

/-! ## Symbols -/

theorem symbol_ne_filling {n : Nat} (h : n < 64) : symbol n ≠ '=' := by
  intro heq
  have hvalue := value?_symbol h
  rw [heq] at hvalue
  cases hvalue

/-- Symbols stand for their numbers. -/
theorem values_map_symbol {ns : List Nat} (h : ∀ n ∈ ns, n < 64) (offset : Nat) :
    values offset (ns.map symbol) = .ok ns := by
  induction ns generalizing offset with
  | nil => rfl
  | cons n ns ih =>
    obtain ⟨hn, hns⟩ := List.forall_mem_cons.1 h
    rw [List.map_cons, values, value?_symbol hn, ih hns]

/-- Every number of a group has a symbol. -/
theorem lt_of_mem_sextets {bytes : Bytes} {group : List Nat} (h : group ∈ sextets bytes) :
    ∀ n ∈ group, n < 64 := by
  induction bytes using sextets.induct with
  | case1 => cases h
  | case2 a =>
    rw [List.mem_singleton.1 h]
    have ha := a.toNat_lt
    simp only [List.forall_mem_cons, List.not_mem_nil, false_imp_iff, implies_true, and_true]
    omega
  | case3 a b =>
    rw [List.mem_singleton.1 h]
    have ha := a.toNat_lt
    have hb := b.toNat_lt
    simp only [List.forall_mem_cons, List.not_mem_nil, false_imp_iff, implies_true, and_true]
    omega
  | case4 a b c rest ih =>
    rw [sextets] at h
    rcases List.mem_cons.1 h with rfl | h
    · have ha := a.toNat_lt
      have hb := b.toNat_lt
      have hc := c.toNat_lt
      simp only [List.forall_mem_cons, List.not_mem_nil, false_imp_iff, implies_true, and_true]
      omega
    · exact ih h

/-- Nothing is written but symbols and what the last group is filled up with. -/
theorem not_mem_encode {c : Char} (hsymbol : ∀ n < 64, symbol n ≠ c) (hfilling : '=' ≠ c)
    (bytes : Bytes) : c ∉ encode bytes := by
  rw [encode, List.mem_flatMap]
  rintro ⟨group, hgroup, hc⟩
  rcases List.mem_append.1 hc with hc | hc
  · obtain ⟨n, hn, heq⟩ := List.mem_map.1 hc
    exact hsymbol n (lt_of_mem_sextets hgroup n hn) heq
  · exact hfilling (List.eq_of_mem_replicate hc).symm

/-! ## Groups -/

/-- A full group that more follows is read on its own. -/
theorem decodeFrom_append {a b c d : Nat} (h : ∀ n ∈ [a, b, c, d], n < 64) {offset : Nat}
    {rest : List Char} (hrest : rest ≠ []) {bytes : Bytes}
    (hbytes : decodeFrom (offset + 4) rest = .ok bytes) :
    decodeFrom offset (filledGroup [a, b, c, d] ++ rest) = .ok (groupBytes a b c d ++ bytes) := by
  obtain ⟨e, rest, rfl⟩ := List.exists_cons_of_ne_nil hrest
  have hvalues : values offset [symbol a, symbol b, symbol c, symbol d] = .ok [a, b, c, d] :=
    values_map_symbol h offset
  have hgroup : filledGroup [a, b, c, d] ++ e :: rest =
      symbol a :: symbol b :: symbol c :: symbol d :: e :: rest := rfl
  rw [hgroup, decodeFrom, hvalues]
  simp only [hbytes]

/-- Four characters are a last group. -/
theorem decodeFrom_of_length {s : List Char} (h : s.length = 4) (offset : Nat) :
    decodeFrom offset s = decodeLast offset s := by
  match s, h with
  | [_, _, _, _], _ => rfl

/-- The last group is read without what it is filled up with. -/
theorem decodeFrom_filledGroup {ns : List Nat} (h : ∀ n ∈ ns, n < 64) (hle : 2 ≤ ns.length)
    (hge : ns.length ≤ 4) (offset : Nat) :
    ∃ last, decodeFrom offset (filledGroup ns) = lastBytes last (offset + ns.length - 1) ns := by
  have hsymbols : ∀ c ∈ ns.map symbol, (c != '=') = true := by
    intro c hc
    obtain ⟨n, hn, rfl⟩ := List.mem_map.1 hc
    exact bne_iff_ne.2 (symbol_ne_filling (h n hn))
  have htake : (filledGroup ns).takeWhile (· != '=') = ns.map symbol := by
    rw [filledGroup, List.takeWhile_append_of_pos hsymbols, List.takeWhile_replicate]
    simp
  have hdrop : (filledGroup ns).dropWhile (· != '=') = List.replicate (4 - ns.length) '=' := by
    rw [filledGroup, List.dropWhile_append_of_pos hsymbols, List.dropWhile_replicate]
    simp
  have hlength : (filledGroup ns).length = 4 := by
    rw [filledGroup, List.length_append, List.length_map, List.length_replicate]
    omega
  have hne : filledGroup ns ≠ [] := fun hnil ↦ by simp [hnil] at hlength
  have hshort : ¬(ns.map symbol).length < 2 := by
    rw [List.length_map]
    exact Nat.not_lt.2 hle
  refine ⟨(ns.map symbol).getLast?.getD '=', ?_⟩
  have hsound : ¬(List.replicate (4 - ns.length) '=' ≠ [] ∧ ((ns.map symbol).length < 2 ∨
      (List.replicate (4 - ns.length) '=').any (· != '=') = true)) := by
    rintro ⟨-, hfew | hother⟩
    · exact hshort hfew
    · obtain ⟨c, hc, hne⟩ := List.any_eq_true.1 hother
      exact bne_iff_ne.1 hne (List.eq_of_mem_replicate hc)
  rw [decodeFrom_of_length hlength, decodeLast, htake, hdrop, values_map_symbol h]
  dsimp only
  rw [if_neg hne, if_neg hsound, if_neg hshort, if_neg (Decidable.not_not.2 hlength), List.length_map]

/-! ## Bytes -/

/-- The first byte of a group is in its first symbol and the upper bits of the second. -/
theorem ofNat_first (a : UInt8) {n : Nat} (h : n < 16) :
    UInt8.ofNat (a.toNat / 4 * 4 + (a.toNat % 4 * 16 + n) / 16) = a := by
  have ha : a.toNat / 4 * 4 + (a.toNat % 4 * 16 + n) / 16 = a.toNat := by omega
  rw [ha, UInt8.ofNat_toNat]

/-- The second byte is in the lower bits of the second symbol and the upper ones of the third. -/
theorem ofNat_second (m : Nat) (b : UInt8) {n : Nat} (h : n < 4) :
    UInt8.ofNat ((m * 16 + b.toNat / 16) % 16 * 16 + (b.toNat % 16 * 4 + n) / 4) = b := by
  have hb := b.toNat_lt
  have heq : (m * 16 + b.toNat / 16) % 16 * 16 + (b.toNat % 16 * 4 + n) / 4 = b.toNat := by omega
  rw [heq, UInt8.ofNat_toNat]

/-- A full group has its three bytes. -/
theorem groupBytes_eq (a b c : UInt8) :
    groupBytes (a.toNat / 4) (a.toNat % 4 * 16 + b.toNat / 16) (b.toNat % 16 * 4 + c.toNat / 64)
      (c.toNat % 64) = [a, b, c] := by
  have hb := b.toNat_lt
  have hc := c.toNat_lt
  have hthird : (b.toNat % 16 * 4 + c.toNat / 64) % 4 * 64 + c.toNat % 64 = c.toNat := by omega
  rw [groupBytes, ofNat_first a (by omega), ofNat_second _ b (by omega), hthird,
    UInt8.ofNat_toNat]

/-- **What is written is read back**, wherever it stands. -/
theorem decodeFrom_encode (bytes : Bytes) (offset : Nat) :
    decodeFrom offset (encode bytes) = .ok bytes := by
  induction bytes using sextets.induct generalizing offset with
  | case1 => rfl
  | case2 a =>
    have hlt : ∀ n ∈ [a.toNat / 4, a.toNat % 4 * 16], n < 64 :=
      lt_of_mem_sextets (show _ ∈ sextets [a] from List.mem_singleton_self _)
    obtain ⟨last, hlast⟩ := decodeFrom_filledGroup hlt (by simp) (by simp) offset
    have hencode : encode [a] = filledGroup [a.toNat / 4, a.toNat % 4 * 16] := List.append_nil _
    have hunused : a.toNat % 4 * 16 % 16 = 0 := by omega
    have hfirst := ofNat_first a (n := 0) (by decide)
    rw [Nat.add_zero] at hfirst
    rw [hencode, hlast, lastBytes, if_pos hunused, hfirst]
  | case3 a b =>
    have hlt : ∀ n ∈ [a.toNat / 4, a.toNat % 4 * 16 + b.toNat / 16, b.toNat % 16 * 4], n < 64 :=
      lt_of_mem_sextets (show _ ∈ sextets [a, b] from List.mem_singleton_self _)
    obtain ⟨last, hlast⟩ := decodeFrom_filledGroup hlt (by simp) (by simp) offset
    have hencode : encode [a, b] =
        filledGroup [a.toNat / 4, a.toNat % 4 * 16 + b.toNat / 16, b.toNat % 16 * 4] :=
      List.append_nil _
    have hb := b.toNat_lt
    have hunused : b.toNat % 16 * 4 % 4 = 0 := by omega
    have hsecond := ofNat_second (a.toNat % 4) b (n := 0) (by decide)
    rw [Nat.add_zero] at hsecond
    rw [hencode, hlast, lastBytes, if_pos hunused, ofNat_first a (by omega), hsecond]
  | case4 a b c rest ih =>
    have hlt : ∀ n ∈ [a.toNat / 4, a.toNat % 4 * 16 + b.toNat / 16,
        b.toNat % 16 * 4 + c.toNat / 64, c.toNat % 64], n < 64 :=
      lt_of_mem_sextets (show _ ∈ sextets (a :: b :: c :: rest) from List.mem_cons_self)
    have hencode : encode (a :: b :: c :: rest) = filledGroup [a.toNat / 4,
        a.toNat % 4 * 16 + b.toNat / 16, b.toNat % 16 * 4 + c.toNat / 64, c.toNat % 64] ++
          encode rest := List.flatMap_cons
    rw [hencode]
    by_cases hrest : encode rest = []
    · obtain ⟨last, hlast⟩ := decodeFrom_filledGroup hlt (by simp) (by simp) offset
      have hread := ih offset
      rw [hrest] at hread
      obtain rfl : [] = rest := Except.ok.inj hread
      rw [hrest, List.append_nil, hlast, lastBytes, groupBytes_eq]
    · rw [decodeFrom_append hlt hrest (ih _), groupBytes_eq]
      rfl

theorem decode_encode (bytes : Bytes) : decode (encode bytes) = .ok bytes :=
  decodeFrom_encode bytes 0

end BlobFs.Base64
