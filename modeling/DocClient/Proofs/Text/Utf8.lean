import DocClient.Text.Utf8
/-!
# Strict UTF-8 decoding inverts encoding

Decoding the bytes of any string gives the string back (`decode_encode`).
-/
namespace DocClient

namespace Utf8

theorem continuationCount_eq (b : UInt8) :
    continuationCount b =
      if b.toNat < 128 then some 0
      else if 194 ≤ b.toNat ∧ b.toNat ≤ 223 then some 1
      else if 224 ≤ b.toNat ∧ b.toNat ≤ 239 then some 2
      else if 240 ≤ b.toNat ∧ b.toNat ≤ 244 then some 3
      else none := by
  simp only [continuationCount, UInt8.lt_iff_toNat_lt, UInt8.le_iff_toNat_le]
  rfl

theorem continues_eq (lead : UInt8) (i : Nat) (c : UInt8) :
    continues lead i c =
      if i = 0 ∧ lead.toNat = 224 then decide (160 ≤ c.toNat ∧ c.toNat ≤ 191)
      else if i = 0 ∧ lead.toNat = 237 then decide (128 ≤ c.toNat ∧ c.toNat ≤ 159)
      else if i = 0 ∧ lead.toNat = 240 then decide (144 ≤ c.toNat ∧ c.toNat ≤ 191)
      else if i = 0 ∧ lead.toNat = 244 then decide (128 ≤ c.toNat ∧ c.toNat ≤ 143)
      else decide (128 ≤ c.toNat ∧ c.toNat ≤ 191) := by
  have h224 : lead = 0xE0 ↔ lead.toNat = 224 := UInt8.toNat_inj.symm
  have h237 : lead = 0xED ↔ lead.toNat = 237 := UInt8.toNat_inj.symm
  have h240 : lead = 0xF0 ↔ lead.toNat = 240 := UInt8.toNat_inj.symm
  have h244 : lead = 0xF4 ↔ lead.toNat = 244 := UInt8.toNat_inj.symm
  by_cases hi : i = 0 <;>
    simp [continues, hi, h224, h237, h240, h244, UInt8.le_iff_toNat_le]

theorem toNat_toUInt8 {n : Nat} (h : n < 256) : n.toUInt8.toNat = n := by
  simp [Nat.toUInt8, Nat.mod_eq_of_lt h]

theorem validContinuations_append (lead : UInt8) (need : Nat) :
    ∀ (i : Nat) (cs rest : List UInt8), i + cs.length = need →
      (∀ j (h : j < cs.length), continues lead (i + j) cs[j] = true) →
      validContinuations lead need i (cs ++ rest) = need
  | i, [], [], h, _ => by simpa [validContinuations] using h
  | i, [], c :: rest, h, _ => by
    simp only [List.length_nil, Nat.add_zero] at h
    subst h
    simp [validContinuations]
  | i, c :: cs, rest, h, hc => by
    have h0 := hc 0 (by simp)
    simp only [Nat.add_zero, List.getElem_cons_zero] at h0
    have hlt : i < need := by simp at h; omega
    simp only [List.cons_append, validContinuations, h0, Bool.and_true, decide_eq_true hlt, if_true]
    refine validContinuations_append lead need (i + 1) cs rest (by simp at h; omega) fun j hj => ?_
    have := hc (j + 1) (by simp; omega)
    simpa [Nat.add_assoc, Nat.add_comm 1 j] using this

theorem step_sequence {b : UInt8} {cs : List UInt8} (hcount : continuationCount b = some cs.length)
    (hcont : ∀ j (h : j < cs.length), continues b j cs[j] = true) (rest : List UInt8) :
    step b (cs ++ rest) = .char (Char.ofNat (codePoint b cs)) (cs.length + 1) := by
  have hv := validContinuations_append b cs.length 0 cs rest (Nat.zero_add _)
    (fun j hj => by simpa using hcont j hj)
  simp [step, hcount, hv]

theorem continues_of_bounds {lead c : UInt8} {i : Nat} (h : 128 ≤ c.toNat ∧ c.toNat ≤ 191)
    (h224 : i = 0 → lead.toNat = 224 → 160 ≤ c.toNat) (h237 : i = 0 → lead.toNat = 237 → c.toNat ≤ 159)
    (h240 : i = 0 → lead.toNat = 240 → 144 ≤ c.toNat) (h244 : i = 0 → lead.toNat = 244 → c.toNat ≤ 143) :
    continues lead i c = true := by
  rw [continues_eq]
  by_cases ha : i = 0 ∧ lead.toNat = 224
  · rw [if_pos ha, decide_eq_true_eq]
    exact ⟨h224 ha.1 ha.2, h.2⟩
  rw [if_neg ha]
  by_cases hb : i = 0 ∧ lead.toNat = 237
  · rw [if_pos hb, decide_eq_true_eq]
    exact ⟨h.1, h237 hb.1 hb.2⟩
  rw [if_neg hb]
  by_cases hc : i = 0 ∧ lead.toNat = 240
  · rw [if_pos hc, decide_eq_true_eq]
    exact ⟨h240 hc.1 hc.2, h.2⟩
  rw [if_neg hc]
  by_cases hd : i = 0 ∧ lead.toNat = 244
  · rw [if_pos hd, decide_eq_true_eq]
    exact ⟨h.1, h244 hd.1 hd.2⟩
  rw [if_neg hd, decide_eq_true_eq]
  exact h

theorem encodeChar_sequence (c : Char) :
    ∃ b cs, encodeChar c = b :: cs ∧ continuationCount b = some cs.length ∧
      (∀ j (h : j < cs.length), continues b j cs[j] = true) ∧ codePoint b cs = c.toNat := by
  have hc := c.valid
  simp only [UInt32.isValidChar, Nat.isValidChar] at hc
  change c.toNat < 55296 ∨ 57343 < c.toNat ∧ c.toNat < 1114112 at hc
  -- one case per length of the sequence, as the encoder chooses it
  by_cases h1 : c.toNat < 0x80
  · refine ⟨c.toNat.toUInt8, [], by simp only [encodeChar, h1, if_true], ?_, fun j hj => absurd hj (by simp), ?_⟩
    · rw [continuationCount_eq, toNat_toUInt8 (by omega), if_pos h1]
      rfl
    · simp [codePoint, toNat_toUInt8 (show c.toNat < 256 by omega)]
  by_cases h2 : c.toNat < 0x800
  · have hb := toNat_toUInt8 (show 0xC0 + c.toNat / 64 < 256 by omega)
    have hc1 := toNat_toUInt8 (show 0x80 + c.toNat % 64 < 256 by omega)
    refine ⟨(0xC0 + c.toNat / 64).toUInt8, [(0x80 + c.toNat % 64).toUInt8],
      by simp only [encodeChar, h1, h2, if_true, if_false], ?_, ?_, ?_⟩
    · rw [continuationCount_eq, hb, if_neg (by omega), if_pos (by omega)]
      rfl
    · intro j hj
      obtain rfl : j = 0 := by simpa using hj
      simp only [List.getElem_cons_zero]
      exact continues_of_bounds (by omega) (by omega) (by omega) (by omega) (by omega)
    · simp only [codePoint, List.length_cons, List.length_nil, List.foldl_cons, List.foldl_nil,
        hb, hc1]
      omega
  by_cases h3 : c.toNat < 0x10000
  · have hb := toNat_toUInt8 (show 0xE0 + c.toNat / 4096 < 256 by omega)
    have hc1 := toNat_toUInt8 (show 0x80 + c.toNat / 64 % 64 < 256 by omega)
    have hc2 := toNat_toUInt8 (show 0x80 + c.toNat % 64 < 256 by omega)
    refine ⟨(0xE0 + c.toNat / 4096).toUInt8,
      [(0x80 + c.toNat / 64 % 64).toUInt8, (0x80 + c.toNat % 64).toUInt8],
      by simp only [encodeChar, h1, h2, h3, if_true, if_false], ?_, ?_, ?_⟩
    · rw [continuationCount_eq, hb, if_neg (by omega), if_neg (by omega), if_pos (by omega)]
      rfl
    · intro j hj
      simp only [List.length_cons, List.length_nil] at hj
      obtain rfl | rfl : j = 0 ∨ j = 1 := by omega
      · simp only [List.getElem_cons_zero]
        exact continues_of_bounds (by omega) (by omega) (by omega) (by omega) (by omega)
      · simp only [List.getElem_cons_succ, List.getElem_cons_zero]
        exact continues_of_bounds (by omega) (by omega) (by omega) (by omega) (by omega)
    · simp only [codePoint, List.length_cons, List.length_nil, List.foldl_cons, List.foldl_nil,
        hb, hc1, hc2]
      omega
  · have hb := toNat_toUInt8 (show 0xF0 + c.toNat / 262144 < 256 by omega)
    have hc1 := toNat_toUInt8 (show 0x80 + c.toNat / 4096 % 64 < 256 by omega)
    have hc2 := toNat_toUInt8 (show 0x80 + c.toNat / 64 % 64 < 256 by omega)
    have hc3 := toNat_toUInt8 (show 0x80 + c.toNat % 64 < 256 by omega)
    refine ⟨(0xF0 + c.toNat / 262144).toUInt8, [(0x80 + c.toNat / 4096 % 64).toUInt8,
      (0x80 + c.toNat / 64 % 64).toUInt8, (0x80 + c.toNat % 64).toUInt8],
      by simp only [encodeChar, h1, h2, h3, if_false], ?_, ?_, ?_⟩
    · rw [continuationCount_eq, hb, if_neg (by omega), if_neg (by omega), if_neg (by omega),
        if_pos (by omega)]
      rfl
    · intro j hj
      simp only [List.length_cons, List.length_nil] at hj
      obtain rfl | rfl | rfl : j = 0 ∨ j = 1 ∨ j = 2 := by omega
      · simp only [List.getElem_cons_zero]
        exact continues_of_bounds (by omega) (by omega) (by omega) (by omega) (by omega)
      · simp only [List.getElem_cons_succ, List.getElem_cons_zero]
        exact continues_of_bounds (by omega) (by omega) (by omega) (by omega) (by omega)
      · simp only [List.getElem_cons_succ, List.getElem_cons_zero]
        exact continues_of_bounds (by omega) (by omega) (by omega) (by omega) (by omega)
    · simp only [codePoint, List.length_cons, List.length_nil, List.foldl_cons, List.foldl_nil,
        hb, hc1, hc2, hc3]
      omega

theorem decodeFrom_encodeChar (pos : Nat) (acc : List Char) (c : Char) (rest : List UInt8) :
    decodeFrom pos acc (encodeChar c ++ rest) =
      decodeFrom (pos + (encodeChar c).length) (c :: acc) rest := by
  obtain ⟨b, cs, henc, hcount, hcont, hcp⟩ := encodeChar_sequence c
  have hs := step_sequence hcount hcont rest
  rw [hcp, Char.ofNat_toNat] at hs
  rw [henc, List.cons_append, decodeFrom]
  split
  · rename_i c' n heq
    rw [hs] at heq
    cases heq
    simp
  · rename_i n f heq
    rw [hs] at heq
    cases heq

theorem decodeFrom_flatMap_encodeChar :
    ∀ (cs : List Char) (pos : Nat) (acc : List Char),
      decodeFrom pos acc (cs.flatMap encodeChar) = .ok (acc.reverse ++ cs)
  | [], pos, acc => by simp [decodeFrom]
  | c :: cs, pos, acc => by
    rw [List.flatMap_cons, decodeFrom_encodeChar, decodeFrom_flatMap_encodeChar cs]
    simp

/-- Strict decoding reads the bytes of every string back as that string. -/
theorem decode_encode (s : String) : decode (encode s) = .ok s := by
  simp [decode, encode, decodeFrom_flatMap_encodeChar, Except.map]

end Utf8

end DocClient
