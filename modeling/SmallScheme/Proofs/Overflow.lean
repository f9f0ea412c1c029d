import SmallScheme.Proofs.NumberText

namespace SmallScheme

lemma le_roundDiv_iff {m n d : Nat} (hd : 0 < d) (hm : m % 2 = 0) :
    m ≤ roundDiv n d ↔ 2 * (m * d) ≤ 2 * n + d := by
  have hn : n / d * d + n % d = n := Nat.div_add_mod' n d
  have hr : n % d < d := Nat.mod_lt n hd
  simp only [roundDiv]
  generalize n / d = q at hn
  generalize n % d = r at hn hr
  rcases Nat.lt_trichotomy m (q + 1) with hlt | rfl | hgt
  · have hmul : m * d ≤ q * d := Nat.mul_le_mul_right d (by omega)
    split_ifs <;> omega
  · have hmul : (q + 1) * d = q * d + d := Nat.add_one_mul q d
    split_ifs <;> omega
  · have hmul : (q + 2) * d ≤ m * d := Nat.mul_le_mul_right d hgt
    rw [Nat.add_mul] at hmul
    split_ifs <;> omega

lemma le_roundDiv {m n d : Nat} (hd : 0 < d) (h : m * d ≤ n) : m ≤ roundDiv n d := by
  have hq : m ≤ n / d := (Nat.le_div_iff_mul_le hd).2 h
  simp only [roundDiv]
  split_ifs <;> omega

lemma roundDiv_le {m n d : Nat} (hd : 0 < d) (h : n < m * d) : roundDiv n d ≤ m := by
  have hq : n / d < m := (Nat.div_lt_iff_lt_mul hd).2 h
  simp only [roundDiv]
  split_ifs <;> omega

namespace Format

lemma log2_bounds {q digits : Nat} (hd : 0 < digits) :
    (0 < q.log2 + 1 - digits → 2 ^ (digits - 1) * 2 ^ (q.log2 + 1 - digits) ≤ q) ∧
      q < 2 ^ digits * 2 ^ (q.log2 + 1 - digits) := by
  rw [← Nat.pow_add, ← Nat.pow_add]
  constructor
  · intro hshift
    have hne : q ≠ 0 := by
      rintro rfl
      rw [Nat.log2_zero] at hshift
      omega
    rw [← Nat.le_log2 hne]
    omega
  · calc q < 2 ^ (q.log2 + 1) := Nat.lt_log2_self
      _ ≤ 2 ^ (digits + (q.log2 + 1 - digits)) := Nat.pow_le_pow_right (by decide) (by omega)

lemma number_reaches_iff {half top shift u d : Nat} (hhalf : 0 < half) (hd : 0 < d)
    (hlow : 0 < shift → half * (d * 2 ^ shift) ≤ u) (hhigh : u < 2 * half * (d * 2 ^ shift)) :
    (top + 2) * half ≤ shift * half + roundDiv u (d * 2 ^ shift) ↔
      2 * (2 * half * (d * 2 ^ top)) ≤ 2 * u + d * 2 ^ top := by
  have hunit : ∀ k, 0 < d * 2 ^ k := fun k => Nat.mul_pos hd (Nat.two_pow_pos k)
  have hend : (top + 2) * half = top * half + 2 * half := Nat.add_mul top 2 half
  rcases Nat.lt_trichotomy shift top with hlt | rfl | hgt
  · have hround := roundDiv_le (hunit shift) hhigh
    have hnumber : (shift + 1) * half ≤ top * half := Nat.mul_le_mul_right half hlt
    rw [Nat.add_one_mul] at hnumber
    have hvalue : 2 * half * (d * 2 ^ (shift + 1)) ≤ 2 * half * (d * 2 ^ top) := by gcongr <;> omega
    have hone : 1 * (d * 2 ^ top) ≤ 2 * half * (d * 2 ^ top) := by gcongr; omega
    rw [Nat.pow_succ, ← Nat.mul_assoc d, ← Nat.mul_assoc (2 * half)] at hvalue
    have := hunit top
    constructor <;> intro h <;> omega
  · rw [hend, Nat.add_le_add_iff_left, le_roundDiv_iff (hunit shift) (Nat.mul_mod_right 2 half)]
  · have hround := le_roundDiv (hunit shift) (hlow (by omega))
    have hnumber : (top + 1) * half ≤ shift * half := Nat.mul_le_mul_right half hgt
    rw [Nat.add_one_mul] at hnumber
    have hvalue : half * (d * 2 ^ (top + 1)) ≤ half * (d * 2 ^ shift) := by gcongr <;> omega
    rw [Nat.pow_succ, ← Nat.mul_assoc d, ← Nat.mul_assoc half] at hvalue
    have hbelow := hlow (by omega)
    have hdouble : 2 * half * (d * 2 ^ top) = half * (d * 2 ^ top) * 2 := by ring
    constructor <;> intro h <;> omega

lemma nearest_eq_infinity_iff {f : Format} {top n d : Nat} (hf : 0 < f.digits)
    (htop : f.infinity = (top + 2) * 2 ^ (f.digits - 1)) (hd : 0 < d) :
    f.nearest n d = f.infinity ↔
      2 * (2 ^ f.digits * (d * 2 ^ top)) ≤ 2 * (n * 2 ^ f.scale) + d * 2 ^ top := by
  have hhalf : 2 ^ f.digits = 2 * 2 ^ (f.digits - 1) := by
    have := Nat.two_pow_pred_add_two_pow_pred hf
    omega
  obtain ⟨hlow, hhigh⟩ := log2_bounds (q := n * 2 ^ f.scale / d) hf
  rw [Nat.le_div_iff_mul_le hd, Nat.mul_assoc, Nat.mul_comm _ d] at hlow
  rw [Nat.div_lt_iff_lt_mul hd, Nat.mul_assoc, Nat.mul_comm _ d, hhalf] at hhigh
  rw [hhalf, ← number_reaches_iff (Nat.two_pow_pos _) hd hlow hhigh, ← htop]
  have hcut : ∀ k, (if k < f.infinity then k else f.infinity) = f.infinity ↔ f.infinity ≤ k := by
    intro k
    split <;> omega
  exact hcut _

end Format

namespace Number

def overflow : ℚ :=
  2 ^ 1024 - 2 ^ 970

lemma nearest_eq_infinity_iff {n d : Nat} (hd : 0 < d) :
    Format.double.nearest n d = Format.double.infinity ↔ overflow ≤ (n : ℚ) / d := by
  obtain ⟨top, htop⟩ : ∃ top, top = 2045 := ⟨_, rfl⟩
  have hinfinity : Format.double.infinity = (top + 2) * 2 ^ (Format.double.digits - 1) := by
    rw [htop]
    rfl
  have hcut := Format.nearest_eq_infinity_iff (n := n) (by decide) hinfinity hd
  have hdigits : Format.double.digits = 53 := rfl
  have hlast : (2 : ℚ) ^ top = 2 * (2 ^ 970 * 2 ^ Format.double.scale) := by
    rw [htop, ← pow_add, ← pow_succ']
    rfl
  have hlarge : (2 : ℚ) ^ 1024 = 2 * (2 ^ 53 * 2 ^ 970) := by rw [← pow_add, ← pow_succ']
  have hunit : (0 : ℚ) < 2 ^ Format.double.scale := by positivity
  have hd' : (0 : ℚ) < d := by exact_mod_cast hd
  rw [hcut, ← Nat.cast_le (α := ℚ), hdigits, overflow, hlarge, le_div_iff₀ hd']
  push_cast
  rw [hlast]
  generalize (2 : ℚ) ^ 970 = last
  generalize (2 : ℚ) ^ Format.double.scale = unit at hunit ⊢
  have hscaled : (2 * (2 ^ 53 * last) - last) * d * (2 * unit) ≤ n * (2 * unit) ↔
      (2 * (2 ^ 53 * last) - last) * d ≤ n := mul_le_mul_iff_of_pos_right (mul_pos two_pos hunit)
  rw [← hscaled]
  constructor <;> intro h <;> linarith

lemma isInf_eq (x : Float) : x.isInf = (!x.isNaN && !x.isFinite) := by
  change x.toModel.unpack.isInf = (!x.toModel.unpack.isNaN && !x.toModel.unpack.isFinite)
  cases x.toModel.unpack <;> rfl

lemma isInf_ofMagnitude_iff (negative : Bool) {k : Nat} (hk : k ≤ Format.double.infinity) :
    (ofMagnitude negative k).isInf = true ↔ k = Format.double.infinity := by
  have hfinite := isFinite_iff (ofMagnitude negative k)
  rw [magnitude_ofMagnitude negative hk] at hfinite
  rw [isInf_eq, isNaN_ofMagnitude negative hk, Bool.not_false, Bool.true_and, Bool.not_eq_true',
    ← Bool.not_eq_true, hfinite]
  omega

lemma overflow_le : overflow ≤ 10 ^ 4096 := by
  calc overflow ≤ 2 ^ 1024 := sub_le_self _ (by positivity)
    _ ≤ 10 ^ 1024 := by gcongr; norm_num
    _ ≤ 10 ^ 4096 := by gcongr <;> norm_num

lemma overflow_pos : 0 < overflow := by
  rw [overflow, sub_pos]
  gcongr <;> norm_num

end Number

namespace Decimal

open Format

lemma position_natCast_eq_infinity_iff (c e : Nat) :
    position double c e = double.infinity ↔ Number.overflow ≤ (c : ℚ) * 10 ^ e := by
  rw [position]
  split
  · next hc =>
    rw [hc, Nat.cast_zero, zero_mul]
    exact iff_of_false (by decide) (not_le.2 Number.overflow_pos)
  next hc =>
  have hone : (1 : ℚ) ≤ c := by exact_mod_cast Nat.pos_of_ne_zero hc
  split
  · next hlarge =>
    refine iff_of_true rfl ?_
    have he : 4096 ≤ e := by omega
    calc Number.overflow ≤ 10 ^ 4096 := Number.overflow_le
      _ ≤ 10 ^ e := pow_le_pow_right₀ (by norm_num) he
      _ ≤ c * 10 ^ e := le_mul_of_one_le_left (by positivity) hone
  · rw [if_neg (by omega), if_pos (by omega), Int.toNat_natCast,
      Number.nearest_eq_infinity_iff Nat.one_pos, tenPow_eq]
    simp

lemma position_eq_infinity_iff (c : Nat) (e : Int) :
    position double c e = double.infinity ↔ Number.overflow ≤ (c : ℚ) * 10 ^ e := by
  by_cases he : 0 ≤ e
  · obtain ⟨n, rfl⟩ := Int.eq_ofNat_of_zero_le he
    rw [zpow_natCast]
    exact position_natCast_eq_infinity_iff c n
  · obtain ⟨places, rfl⟩ : ∃ n : Nat, e = -(n : Int) := ⟨e.natAbs, by omega⟩
    have hpos : 0 < tenPow places := Nat.pow_pos (by decide)
    rw [position_neg, Number.nearest_eq_infinity_iff hpos, tenPow_eq, zpow_neg, zpow_natCast,
      Nat.cast_pow, Nat.cast_ofNat, div_eq_mul_inv]

lemma isInf_toFloat_iff (d : Decimal) :
    d.toFloat.isInf = true ↔ Number.overflow ≤ (d.coefficient : ℚ) * 10 ^ d.exponent := by
  rw [toFloat, Number.isInf_ofMagnitude_iff _ (position_le _ _), position_eq_infinity_iff]

end Decimal

end SmallScheme
