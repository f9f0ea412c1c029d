import Mathlib
import SmallScheme.Number.Format

namespace SmallScheme.Number

open Float.Model.UnpackedFloat
open Float.Model.Format (binary64)

abbrev Bits := BitVec binary64.numBits

lemma toNat_unpackMantissa (b : Bits) : (unpackMantissa b).toNat = b.toNat % 2 ^ 52 := by
  simp [unpackMantissa]

lemma toNat_unpackExponent (b : Bits) :
    (unpackExponent b).toNat = b.toNat / 2 ^ 52 % 2 ^ 11 := by
  simp [unpackExponent, Nat.shiftRight_eq_div_pow]

lemma toBitVec_ofBitVec (s : BitVec 1) : (Sign.ofBitVec s).toBitVec = s := by
  revert s
  decide

lemma packComponents_fields (b : Bits) :
    packComponents binary64 (Sign.ofBitVec (unpackSign b)) (unpackExponent b)
      (unpackMantissa b) = b := by
  rw [packComponents, toBitVec_ofBitVec]
  ext i hi
  simp only [BitVec.getElem_append, unpackSign, unpackExponent, unpackMantissa]
  split
  · simp [BitVec.getLsbD_eq_getElem hi]
  · split
    · have hi' : 52 + (i - 52) = i := by omega
      simp [hi', BitVec.getLsbD_eq_getElem hi]
    · have hi' : 63 + (i - 52 - 11) = i := by simp at *; omega
      simp [hi', BitVec.getLsbD_eq_getElem hi]

lemma toNat_implicit (m : BitVec 52) : (1#1 ++ m).toNat = 2 ^ 52 + m.toNat := by
  have hm : m.toNat < 2 ^ 52 := m.isLt
  rw [BitVec.toNat_append, Nat.shiftLeft_eq, Nat.mul_comm, ← Nat.two_pow_add_eq_or_of_lt hm]
  simp

lemma pack_subnormal {s : Sign} {m : Nat} (hm : 0 < m) (hlt : m < 2 ^ 52) :
    pack binary64 (.finite s m (-1074) hm) =
      packComponents binary64 s 0#11 (BitVec.ofNat 52 m) := by
  have hlog : m.log2 < 52 := (Nat.log2_lt (by omega)).2 hlt
  have hbits : ¬ m.log2 + 1 = binary64.mantissaBits := by
    change ¬ m.log2 + 1 = 53
    omega
  rw [pack]
  exact (if_neg (by decide)).trans (if_neg hbits)

lemma pack_normal {s : Sign} {m : BitVec 52} {e : BitVec 11} {h : 0 < (1#1 ++ m).toNat}
    (he : e ≠ -1#11) :
    pack binary64 (.finite s (1#1 ++ m).toNat (e.toNat - 1075) h) =
      packComponents binary64 s e m := by
  have hm : m.toNat < 2 ^ 52 := m.isLt
  have hlt : e.toNat < 2047 := by
    have hne : e.toNat ≠ 2047 := fun h => he (BitVec.eq_of_toNat_eq h)
    omega
  have hbiased : ((e.toNat : Int) - 1075 + binary64.exponentBias +
      binary64.mantissaBitsWithoutImplicit).toNat = e.toNat := by
    change ((e.toNat : Int) - 1075 + 1023 + 52).toNat = e.toNat
    omega
  have hbits : (1#1 ++ m).toNat.log2 + 1 = binary64.mantissaBits := by
    have hlow : 52 ≤ (1#1 ++ m).toNat.log2 := by
      rw [Nat.le_log2 (by omega), toNat_implicit]
      omega
    have hhigh : (1#1 ++ m).toNat.log2 < 53 := by
      rw [Nat.log2_lt (by omega), toNat_implicit]
      omega
    change _ = 53
    omega
  simp only [pack, hbiased]
  rw [if_neg (by change ¬ 2048 ≤ e.toNat + 1; omega), if_pos hbits]
  congr 1
  · exact BitVec.eq_of_toNat_eq (by simp)
  · apply BitVec.eq_of_toNat_eq
    rw [BitVec.toNat_ofNat, toNat_implicit, Nat.add_mod_left, Nat.mod_eq_of_lt hm]

lemma pack_unpack {b : Bits} (hb : unpackExponent b = -1#11 → unpackMantissa b = 0#52) :
    pack binary64 (unpack binary64 b) = b := by
  have hfields := packComponents_fields b
  rw [unpack]
  split
  · next he =>
    rw [if_pos (hb he)]
    rwa [he, hb he] at hfields
  · next he =>
    split
    · next hzero =>
      split
      · next hm => rwa [hzero, hm] at hfields
      · next hm =>
        have hpos : 0 < (unpackMantissa b).toNat := by
          simpa [BitVec.toNat_pos, BitVec.pos_iff_ne_zero] using hm
        have hpack := pack_subnormal (s := Sign.ofBitVec (unpackSign b)) hpos
          (unpackMantissa b).isLt
        rw [BitVec.ofNat_toNat, BitVec.setWidth_eq, ← hzero, hfields] at hpack
        have he : (unpackExponent b).toNat = 0 := by rw [hzero]; rfl
        simp only [he]
        exact hpack
    · next hzero =>
      exact (pack_normal he).trans hfields

lemma exponent_eq_iff {b : Bits} :
    unpackExponent b = -1#11 ↔ b.toNat / 2 ^ 52 % 2 ^ 11 = 2047 := by
  rw [← toNat_unpackExponent, ← BitVec.toNat_inj]
  rfl

lemma mantissa_eq_iff {b : Bits} : unpackMantissa b = 0#52 ↔ b.toNat % 2 ^ 52 = 0 := by
  rw [← toNat_unpackMantissa, ← BitVec.toNat_inj]
  rfl

lemma isFinite_unpack_iff (b : Bits) :
    (unpack binary64 b).isFinite = true ↔ unpackExponent b ≠ -1#11 := by
  rw [unpack]
  split
  · next he => split <;> simp [isFinite, he]
  · next he =>
    simp only [ne_eq, he, not_false_eq_true, iff_true]
    split
    · split <;> rfl
    · rfl

lemma isNaN_unpack_iff (b : Bits) :
    (unpack binary64 b).isNaN = true ↔ unpackExponent b = -1#11 ∧ unpackMantissa b ≠ 0#52 := by
  rw [unpack]
  split
  · next he => split <;> simp [isNaN, *]
  · next he =>
    simp only [he, false_and, iff_false, Bool.not_eq_true]
    split
    · split <;> rfl
    · rfl

lemma isFinite_iff (x : Float) : x.isFinite = true ↔ magnitude x < Format.double.infinity := by
  have h := isFinite_unpack_iff x.toBits.toBitVec
  rw [ne_eq, exponent_eq_iff] at h
  apply Iff.trans h
  change ¬ x.toBits.toNat / 2 ^ 52 % 2 ^ 11 = 2047 ↔ x.toBits.toNat % 2 ^ 63 < 2047 * 2 ^ 52
  omega

lemma isNaN_iff (x : Float) : x.isNaN = true ↔ Format.double.infinity < magnitude x := by
  have h := isNaN_unpack_iff x.toBits.toBitVec
  rw [ne_eq, exponent_eq_iff, mantissa_eq_iff] at h
  apply Iff.trans h
  change x.toBits.toNat / 2 ^ 52 % 2 ^ 11 = 2047 ∧ ¬ x.toBits.toNat % 2 ^ 52 = 0 ↔
    2047 * 2 ^ 52 < x.toBits.toNat % 2 ^ 63
  omega

lemma toBits_ofBits {b : UInt64} (hb : b.toNat % 2 ^ 63 ≤ 2047 * 2 ^ 52) :
    (Float.ofBits b).toBits = b := by
  have hpack : pack binary64 (unpack binary64 b.toBitVec) = b.toBitVec := by
    apply pack_unpack
    intro he
    rw [exponent_eq_iff] at he
    rw [mantissa_eq_iff]
    change b.toNat / 2 ^ 52 % 2 ^ 11 = 2047 at he
    change b.toNat % 2 ^ 52 = 0
    omega
  exact UInt64.toBitVec_inj.1 hpack

lemma toBits_injective {x y : Float} (h : x.toBits = y.toBits) : x = y := by
  obtain ⟨⟨bits, valid⟩⟩ := x
  obtain ⟨⟨bits', valid'⟩⟩ := y
  obtain rfl : bits = bits' := h
  rfl

lemma toNat_toBits_ofMagnitude (negative : Bool) {k : Nat} (hk : k ≤ Format.double.infinity) :
    (ofMagnitude negative k).toBits.toNat = if negative then 2 ^ 63 + k else k := by
  have hk : k ≤ 2047 * 2 ^ 52 := hk
  have hbits : (UInt64.ofNat (if negative then twoPow 63 + k else k)).toNat =
      if negative then 2 ^ 63 + k else k := by
    apply UInt64.toNat_ofNat_of_lt'
    change (if negative then 2 ^ 63 + k else k) < 2 ^ 64
    split <;> omega
  rw [ofMagnitude, toBits_ofBits, hbits]
  rw [hbits]
  split <;> omega

lemma ofMagnitude_magnitude {x : Float} (hx : x.isNaN = false) :
    ofMagnitude (isNegative x) (magnitude x) = x := by
  have hk : magnitude x ≤ Format.double.infinity := by
    rw [← Nat.not_lt, ← isNaN_iff, hx]
    exact Bool.false_ne_true
  apply toBits_injective
  apply UInt64.toNat_inj.1
  rw [toNat_toBits_ofMagnitude _ hk]
  have hlt := x.toBits.toNat_lt
  change (if decide (2 ^ 63 ≤ x.toBits.toNat) then 2 ^ 63 + x.toBits.toNat % 2 ^ 63
    else x.toBits.toNat % 2 ^ 63) = x.toBits.toNat
  by_cases hneg : 2 ^ 63 ≤ x.toBits.toNat
  · rw [if_pos (decide_eq_true hneg)]
    omega
  · rw [if_neg (by simpa using hneg)]
    omega

lemma magnitude_ofMagnitude (negative : Bool) {k : Nat} (hk : k ≤ Format.double.infinity) :
    magnitude (ofMagnitude negative k) = k := by
  have hk : k ≤ 2047 * 2 ^ 52 := hk
  rw [magnitude, toNat_toBits_ofMagnitude _ hk, twoPow]
  simp only [Nat.pow_eq]
  split <;> omega

lemma isNaN_ofMagnitude (negative : Bool) {k : Nat} (hk : k ≤ Format.double.infinity) :
    (ofMagnitude negative k).isNaN = false := by
  rw [Bool.eq_false_iff, ne_eq, isNaN_iff, magnitude_ofMagnitude negative hk]
  omega

end SmallScheme.Number
