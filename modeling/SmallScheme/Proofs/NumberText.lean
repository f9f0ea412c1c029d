import SmallScheme.Number.Shortest
import SmallScheme.Proofs.FloatBits
import SmallScheme.Proofs.Grammar

namespace SmallScheme

lemma twoPow_eq (k : Nat) : twoPow k = 2 ^ k := rfl

lemma tenPow_eq (k : Nat) : tenPow k = 10 ^ k := rfl

lemma tenPow_eq_mul (k : Nat) : tenPow k = twoPow k * Nat.pow 5 k :=
  Nat.mul_pow 2 5 k

lemma fivePow_pos (k : Nat) : 0 < Nat.pow 5 k :=
  Nat.pow_pos (by decide)

lemma roundDiv_mul_right {m : Nat} (hm : 0 < m) (n d : Nat) :
    roundDiv (n * m) (d * m) = roundDiv n d := by
  have hlt : 2 * (n % d * m) < d * m ↔ 2 * (n % d) < d := by
    rw [← Nat.mul_assoc]
    exact Nat.mul_lt_mul_right hm
  have hgt : d * m < 2 * (n % d * m) ↔ d < 2 * (n % d) := by
    rw [← Nat.mul_assoc]
    exact Nat.mul_lt_mul_right hm
  simp only [roundDiv, Nat.mul_div_mul_right n d hm, Nat.mul_mod_mul_right, hlt, hgt]

lemma roundDiv_mul_self {d : Nat} (hd : 0 < d) (q : Nat) : roundDiv (q * d) d = q := by
  simp [roundDiv, Nat.mul_div_cancel q hd, hd]

namespace Format

lemma nearest_mul_right {m : Nat} (hm : 0 < m) (f : Format) (n d : Nat) :
    f.nearest (n * m) (d * m) = f.nearest n d := by
  have hn : n * m * twoPow f.scale = n * twoPow f.scale * m := Nat.mul_right_comm _ _ _
  have hd : ∀ shift, d * m * twoPow shift = d * twoPow shift * m :=
    fun shift => Nat.mul_right_comm _ _ _
  simp only [nearest, hn, hd, Nat.mul_div_mul_right _ _ hm, roundDiv_mul_right hm]

lemma nearest_le (f : Format) (n d : Nat) : f.nearest n d ≤ f.infinity := by
  simp only [nearest]
  split <;> omega

lemma nearest_eq_zero {f : Format} {n d : Nat} (hd : 0 < f.digits)
    (h : 2 * (n * twoPow f.scale) < d) : f.nearest n d = 0 := by
  generalize hu : n * twoPow f.scale = u at h
  have hdiv : u / d = 0 := Nat.div_eq_of_lt (by omega)
  have hmod : u % d = u := Nat.mod_eq_of_lt (by omega)
  have hshift : Nat.log2 0 + 1 - f.digits = 0 := by
    rw [Nat.log2_zero]
    omega
  have hround : roundDiv u (d * twoPow 0) = 0 := by
    simp [roundDiv, twoPow_eq, hdiv, hmod, h]
  simp only [nearest, hu, hdiv, hshift, hround]
  split <;> omega

lemma nearest_zero {f : Format} {d : Nat} (hf : 0 < f.digits) (hd : 0 < d) :
    f.nearest 0 d = 0 :=
  nearest_eq_zero hf (by rwa [Nat.zero_mul])

lemma log2_significand {m digits : Nat} (hd : 0 < digits) (hlow : 2 ^ (digits - 1) ≤ m)
    (hhigh : m < 2 ^ digits) (e : Nat) : (m * 2 ^ e).log2 + 1 - digits = e := by
  have hm : m ≠ 0 := by
    have := Nat.two_pow_pos (digits - 1)
    omega
  have hne : m * 2 ^ e ≠ 0 := Nat.mul_ne_zero hm (Nat.ne_of_gt (Nat.two_pow_pos e))
  have hle : digits - 1 + e ≤ (m * 2 ^ e).log2 := by
    rw [Nat.le_log2 hne, Nat.pow_add]
    exact Nat.mul_le_mul_right _ hlow
  have hlt : (m * 2 ^ e).log2 < digits + e := by
    rw [Nat.log2_lt hne, Nat.pow_add]
    exact Nat.mul_lt_mul_of_pos_right hhigh (Nat.two_pow_pos e)
  omega

lemma units_of_lt {f : Format} {k : Nat} (hk : k < 2 ^ (f.digits - 1)) : f.units k = k :=
  if_pos hk

lemma units_of_le {f : Format} {k : Nat} (hk : 2 ^ (f.digits - 1) ≤ k) :
    f.units k = (k % 2 ^ (f.digits - 1) + 2 ^ (f.digits - 1)) *
      2 ^ (k / 2 ^ (f.digits - 1) - 1) :=
  if_neg (Nat.not_lt.2 hk)

lemma nearest_units {f : Format} {k : Nat} (hd : 0 < f.digits) (hk : k < f.infinity) :
    f.nearest (f.units k) (twoPow f.scale) = k := by
  have hscale : 0 < twoPow f.scale := Nat.two_pow_pos _
  have hsame : ∀ shift, roundDiv (f.units k * twoPow f.scale) (twoPow f.scale * twoPow shift) =
      roundDiv (f.units k) (twoPow shift) := by
    intro shift
    rw [Nat.mul_comm (twoPow f.scale)]
    exact roundDiv_mul_right hscale _ _
  simp only [nearest, Nat.mul_div_cancel _ hscale, hsame]
  suffices h : ((f.units k).log2 + 1 - f.digits) * twoPow (f.digits - 1) +
      roundDiv (f.units k) (twoPow ((f.units k).log2 + 1 - f.digits)) = k by
    rw [h, if_pos hk]
  have hstep : 0 < 2 ^ (f.digits - 1) := Nat.two_pow_pos _
  simp only [twoPow_eq]
  rcases Nat.lt_or_ge k (2 ^ (f.digits - 1)) with hlt | hge
  · rw [units_of_lt hlt]
    have hshift : k.log2 + 1 - f.digits = 0 := by
      by_cases hzero : k = 0
      · subst hzero
        rw [Nat.log2_zero]
        omega
      · have := (Nat.log2_lt hzero).2 hlt
        omega
    rw [hshift, Nat.zero_mul, Nat.zero_add, Nat.pow_zero]
    simpa only [Nat.mul_one] using roundDiv_mul_self Nat.one_pos k
  · rw [units_of_le hge]
    have hdigits := Nat.two_pow_pred_add_two_pow_pred hd
    have hmod := Nat.mod_lt k hstep
    have hquot : 0 < k / 2 ^ (f.digits - 1) := Nat.div_pos (by omega) hstep
    have hshift := log2_significand hd (m := k % 2 ^ (f.digits - 1) + 2 ^ (f.digits - 1))
      (by omega) (by omega) (k / 2 ^ (f.digits - 1) - 1)
    rw [hshift, roundDiv_mul_self (Nat.two_pow_pos _)]
    obtain ⟨q, hq⟩ := Nat.exists_eq_add_one_of_ne_zero (Nat.ne_of_gt hquot)
    have hk := Nat.div_add_mod' k (2 ^ (f.digits - 1))
    rw [hq, Nat.succ_mul] at hk
    rw [hq, Nat.add_sub_cancel]
    omega

end Format

namespace Decimal

open Format Grammar

lemma nearest_of_far_below {c places : Nat} (h : 4096 + c.log2 < places) :
    double.nearest c (tenPow places) = 0 := by
  have hscale : double.scale = 1074 := rfl
  apply nearest_eq_zero (by decide)
  calc 2 * (c * twoPow double.scale) < 2 * (2 ^ (c.log2 + 1) * twoPow double.scale) := by
        have := Nat.mul_lt_mul_of_pos_right (Nat.lt_log2_self (n := c))
          (Nat.two_pow_pos double.scale)
        rw [twoPow_eq]
        omega
    _ = 2 ^ (c.log2 + 1 + double.scale + 1) := by
        rw [twoPow_eq, ← Nat.pow_add, ← Nat.pow_add_one']
    _ ≤ 2 ^ places := Nat.pow_le_pow_right (by decide) (by omega)
    _ ≤ tenPow places := Nat.pow_le_pow_left (by decide) places

lemma position_neg (c places : Nat) :
    position double c (-(places : Int)) = double.nearest c (tenPow places) := by
  rw [position]
  split
  · next hc =>
    rw [hc]
    exact (nearest_zero (by decide) (Nat.pow_pos (by decide))).symm
  rw [if_neg (by omega)]
  split
  -- What the bound cuts off is rounded to nothing anyway.
  · next hfar => exact (nearest_of_far_below (by omega)).symm
  split
  · next hzero =>
    obtain rfl : places = 0 := by omega
    simp [tenPow_eq]
  · simp

lemma position_of_nonneg {c e : Nat} (h : position double c e < double.infinity) :
    position double c e = double.nearest (c * tenPow e) 1 := by
  rw [position] at h ⊢
  split
  · next hc =>
    rw [hc, Nat.zero_mul]
    exact (nearest_zero (by decide) Nat.one_pos).symm
  · next hc =>
    rw [if_neg hc] at h
    split
    · next hlarge =>
      rw [if_pos hlarge] at h
      omega
    · rw [if_neg (by omega), if_pos (by omega), Int.toNat_natCast]

lemma digitsValue_append (a b : List Char) :
    digitsValue (a ++ b) = digitsValue a * 10 ^ b.length + digitsValue b := by
  change Nat.ofDigitChars 10 (a ++ b) 0 = _
  rw [Nat.ofDigitChars_append, Nat.ofDigitChars_eq_ofDigitChars_zero, Nat.mul_comm]
  rfl

lemma digitsValue_toDigits (n : Nat) : digitsValue (Nat.toDigits 10 n) = n :=
  Nat.ofDigitChars_ten_toDigits

lemma digitsValue_replicate_zero (n : Nat) : digitsValue (List.replicate n '0') = 0 := by
  have h : digitsValue (List.replicate n '0') = 10 ^ n * 0 := Nat.ofDigitChars_replicate_zero
  rwa [Nat.mul_zero] at h

lemma isDigit_toDigits (n : Nat) : ∀ c ∈ Nat.toDigits 10 n, c.isDigit = true :=
  fun _ hc => Nat.isDigit_of_mem_toDigits (by decide) (by decide) hc

lemma digitsValue_padded (width n : Nat) : digitsValue (padded width n) = n := by
  rw [padded, digitsValue_append, digitsValue_replicate_zero, digitsValue_toDigits]
  omega

lemma isDigit_padded (width n : Nat) : ∀ c ∈ padded width n, c.isDigit = true := by
  intro c hc
  rcases List.mem_append.1 hc with hc | hc
  · rw [List.eq_of_mem_replicate hc]
    decide
  · exact isDigit_toDigits n c hc

lemma length_padded {width n : Nat} (hw : 0 < width) (hn : n < 10 ^ width) :
    (padded width n).length = width := by
  have h := (Nat.length_toDigits_le_iff (b := 10) (by decide) hw).2 hn
  simp only [padded, List.length_append, List.length_replicate]
  omega

lemma append_dropTrailingZeros (cs : List Char) :
    ∃ n, cs = dropTrailingZeros cs ++ List.replicate n '0' := by
  have hzeros : cs.reverse.takeWhile (· == '0') =
      List.replicate (cs.reverse.takeWhile (· == '0')).length '0' := by
    apply List.eq_replicate_of_mem
    intro c hc
    simpa using List.all_eq_true.1 List.all_takeWhile c hc
  refine ⟨(cs.reverse.takeWhile (· == '0')).length, ?_⟩
  rw [dropTrailingZeros, ← List.reverse_replicate, ← hzeros, ← List.reverse_append,
    List.takeWhile_append_dropWhile, List.reverse_reverse]

def plain (whole : List Char) : List Char → List Char
  | [] => whole
  | fraction => whole ++ '.' :: fraction

structure IsPlain (whole fraction : List Char) : Prop where
  nonempty : whole ≠ []
  whole : ∀ c ∈ whole, c.isDigit = true
  fraction : ∀ c ∈ fraction, c.isDigit = true

variable {whole fraction : List Char}

lemma isPlain_toDigits (n : Nat) : IsPlain (Nat.toDigits 10 n) [] where
  nonempty := Nat.toDigits_ne_nil
  whole := isDigit_toDigits n
  fraction := by simp

lemma ofChars?_of_splitSign {cs : List Char} {negative : Bool} (h : IsPlain whole fraction)
    (hs : splitSign cs = (negative, plain whole fraction)) :
    ofChars? cs = some ⟨negative, digitsValue (whole ++ fraction), -fraction.length⟩ := by
  have hne : whole.isEmpty = false := by simpa using h.nonempty
  cases fraction with
  | nil =>
    obtain ⟨htake, hdrop⟩ := span_append (b := []) h.whole (by simp)
    rw [List.append_nil] at htake hdrop
    simp [ofChars?, hs, plain, htake, hdrop, splitFraction, exponentOf?, hne]
  | cons d ds =>
    obtain ⟨htake, hdrop⟩ := span_append (b := '.' :: d :: ds) h.whole (by simp)
    obtain ⟨hfraction, hrest⟩ := span_append (b := []) h.fraction (by simp)
    rw [List.append_nil] at hfraction hrest
    simp only [ofChars?, hs, plain, htake, hdrop, splitFraction, hfraction, hrest, exponentOf?, hne]
    simp

lemma head_plain (h : IsPlain whole fraction) :
    ∃ c cs, plain whole fraction = c :: cs ∧ c.isDigit = true := by
  cases whole with
  | nil => exact absurd rfl h.nonempty
  | cons c cs =>
    have hc := h.whole c (by simp)
    cases fraction with
    | nil => exact ⟨c, cs, rfl, hc⟩
    | cons d ds => exact ⟨c, cs ++ '.' :: d :: ds, rfl, hc⟩

lemma splitSign_plain (h : IsPlain whole fraction) :
    splitSign (plain whole fraction) = (false, plain whole fraction) := by
  obtain ⟨c, cs, hcs, hc⟩ := head_plain h
  rw [hcs, splitSign]
  · rintro ds hds
    obtain ⟨rfl, -⟩ := List.cons.inj hds
    exact absurd hc (by decide)
  · rintro ds hds
    obtain ⟨rfl, -⟩ := List.cons.inj hds
    exact absurd hc (by decide)

lemma fraction_spec {c n : Nat} (hn : 0 < n) :
    ∃ zeros, (dropTrailingZeros (padded n (c % tenPow n))).length + zeros = n ∧
      digitsValue (Nat.toDigits 10 (c / tenPow n) ++
        dropTrailingZeros (padded n (c % tenPow n))) * 10 ^ zeros = c ∧
      ∀ d ∈ dropTrailingZeros (padded n (c % tenPow n)), d.isDigit = true := by
  obtain ⟨zeros, hzeros⟩ := append_dropTrailingZeros (padded n (c % tenPow n))
  have hlength : (padded n (c % tenPow n)).length = n :=
    length_padded hn (Nat.mod_lt c (Nat.pow_pos (by decide)))
  have hvalue : digitsValue (Nat.toDigits 10 (c / tenPow n) ++ padded n (c % tenPow n)) = c := by
    rw [digitsValue_append, digitsValue_toDigits, digitsValue_padded, hlength]
    exact Nat.div_add_mod' c (tenPow n)
  have hdigits := isDigit_padded n (c % tenPow n)
  rw [hzeros] at hlength hvalue hdigits
  refine ⟨zeros, by simpa using hlength, ?_, fun d hd => hdigits d (by simp [hd])⟩
  rwa [← List.append_assoc, digitsValue_append, digitsValue_replicate_zero,
    List.length_replicate, Nat.add_zero] at hvalue

lemma positional_reads {c : Nat} {e : Int} (h : position double c e < double.infinity) :
    ∃ whole fraction, positional c e = plain whole fraction ∧ IsPlain whole fraction ∧
      position double (digitsValue (whole ++ fraction)) (-(fraction.length : Int)) =
        position double c e := by
  by_cases he : 0 ≤ e
  · obtain ⟨n, rfl⟩ := Int.eq_ofNat_of_zero_le he
    refine ⟨Nat.toDigits 10 (c * tenPow n), [], ?_, isPlain_toDigits _, ?_⟩
    · rw [positional, if_pos he]
      rfl
    · rw [position_of_nonneg h, List.append_nil, digitsValue_toDigits]
      exact position_neg (c * tenPow n) 0
  · obtain ⟨n, rfl⟩ : ∃ n : Nat, e = -(n : Int) := ⟨e.natAbs, by omega⟩
    obtain ⟨zeros, hlength, hvalue, hdigits⟩ := fraction_spec (c := c) (n := n) (by omega)
    refine ⟨Nat.toDigits 10 (c / tenPow n), dropTrailingZeros (padded n (c % tenPow n)), ?_,
      ⟨Nat.toDigits_ne_nil, isDigit_toDigits _, hdigits⟩, ?_⟩
    · rw [positional, if_neg he]
      simp only [Int.neg_neg, Int.toNat_natCast]
      cases dropTrailingZeros (padded n (c % tenPow n)) <;> rfl
    · generalize digitsValue _ = c' at hvalue ⊢
      generalize List.length _ = places at hlength ⊢
      -- The dropped zeros scale both sides of the quotient alike.
      rw [position_neg, position_neg, ← hvalue, ← hlength, tenPow_eq, tenPow_eq, Nat.pow_add]
      exact (nearest_mul_right (Nat.pow_pos (by decide)) _ _ _).symm

lemma position_le (c : Nat) (e : Int) : position double c e ≤ double.infinity := by
  rw [position]
  split
  · exact Nat.zero_le _
  split
  · exact Nat.le_refl _
  split
  · exact Nat.zero_le _
  split <;> exact nearest_le _ _ _

lemma isNaN_toFloat (d : Decimal) : d.toFloat.isNaN = false :=
  Number.isNaN_ofMagnitude _ (position_le _ _)

end Decimal

namespace Number

open Format Decimal Grammar

lemma onGrid?_reads {k : Nat} {e : Int} {digits : Nat × Int} (h : onGrid? k e = some digits) :
    position double digits.1 digits.2 = k := by
  simp only [onGrid?] at h
  split at h
  · next hbelow habove =>
    obtain rfl := Option.some.inj h
    split
    · simpa using hbelow
    · simpa using habove
  · next hbelow _ =>
    obtain rfl := Option.some.inj h
    simpa using hbelow
  · next _ habove =>
    obtain rfl := Option.some.inj h
    simpa using habove
  · cases h

lemma position_exact {k : Nat} (hk : k < double.infinity) :
    position double (double.units k * Nat.pow 5 double.scale) (-(double.scale : Int)) = k := by
  rw [position_neg, tenPow_eq_mul]
  exact (nearest_mul_right (fivePow_pos _) _ _ _).trans (nearest_units (by decide) hk)

lemma shortest_reads {k : Nat} (hk : k < double.infinity) :
    position double (shortest k).1 (shortest k).2 = k := by
  simp only [shortest]
  split
  · next digits hdigits =>
    obtain ⟨i, -, hi⟩ := List.exists_of_findSome?_eq_some hdigits
    exact onGrid?_reads hi
  · exact position_exact hk

lemma spellMagnitude_reads {k : Nat} (hk : k < double.infinity) :
    ∃ whole fraction, spellMagnitude k = plain whole fraction ∧ IsPlain whole fraction ∧
      position double (digitsValue (whole ++ fraction)) (-(fraction.length : Int)) = k := by
  rw [spellMagnitude]
  split
  · next hzero =>
    subst hzero
    exact ⟨['0'], [], rfl, isPlain_toDigits 0, rfl⟩
  · have h := shortest_reads hk
    obtain ⟨whole, fraction, hplain, hdigits, hposition⟩ :=
      positional_reads (c := (shortest k).1) (e := (shortest k).2) (by rwa [h])
    exact ⟨whole, fraction, hplain, hdigits, hposition.trans h⟩

lemma isNaN_of_isFinite {x : Float} (hx : x.isFinite = true) : x.isNaN = false := by
  rw [isFinite_iff] at hx
  rw [Bool.eq_false_iff, ne_eq, isNaN_iff]
  omega

lemma spell_reads {x : Float} (hx : x.isFinite = true) :
    ∃ d, ofChars? (spell x) = some d ∧ d.toFloat = x := by
  have hnan := isNaN_of_isFinite hx
  obtain ⟨whole, fraction, hspell, hplain, hposition⟩ :=
    spellMagnitude_reads ((isFinite_iff x).1 hx)
  have hsign : splitSign (spell x) = (isNegative x, plain whole fraction) := by
    rw [spell, hnan, hspell]
    cases isNegative x with
    | false => exact splitSign_plain hplain
    | true => rfl
  refine ⟨_, ofChars?_of_splitSign hplain hsign, ?_⟩
  rw [toFloat, hposition]
  exact ofMagnitude_magnitude hnan

def IsNumeric (c : Char) : Prop :=
  c.isDigit = true ∨ c ∈ "-.inf".toList

instance (c : Char) : Decidable (IsNumeric c) :=
  inferInstanceAs (Decidable (_ ∨ _))

lemma isNumeric_plain {whole fraction : List Char} (h : IsPlain whole fraction) :
    ∀ c ∈ plain whole fraction, IsNumeric c := by
  intro c hc
  cases fraction with
  | nil => exact .inl (h.whole c hc)
  | cons d ds =>
    rcases List.mem_append.1 hc with hc | hc
    · exact .inl (h.whole c hc)
    · rcases List.mem_cons.1 hc with rfl | hc
      · exact .inr (by decide)
      · exact .inl (h.fraction c hc)

lemma spellMagnitude_of_le {k : Nat} (hk : double.infinity ≤ k) :
    spellMagnitude k = "inf".toList := by
  have hpos : k ≠ 0 := by
    rintro rfl
    exact absurd hk (by decide)
  rw [spellMagnitude, if_neg hpos, if_neg (by omega)]

lemma isNumeric_spellMagnitude (k : Nat) :
    spellMagnitude k ≠ [] ∧ ∀ c ∈ spellMagnitude k, IsNumeric c := by
  rcases Nat.lt_or_ge k double.infinity with hk | hk
  · obtain ⟨whole, fraction, hspell, hplain, -⟩ := spellMagnitude_reads hk
    obtain ⟨c, cs, hcs, -⟩ := head_plain hplain
    rw [hspell]
    exact ⟨by simp [hcs], isNumeric_plain hplain⟩
  · rw [spellMagnitude_of_le hk]
    exact ⟨by decide, fun c hc => .inr (List.mem_append_right ['-', '.'] hc)⟩

lemma spell_of_infinite {x : Float} (hx : x.isNaN = false) (hinf : ¬ x.isFinite = true) :
    spell x = "inf".toList ∨ spell x = "-inf".toList := by
  rw [isFinite_iff, Nat.not_lt] at hinf
  rw [spell, hx, spellMagnitude_of_le hinf]
  cases isNegative x with
  | false => exact .inl rfl
  | true => exact .inr rfl

lemma isNumeric_spell {x : Float} (hx : x.isNaN = false) :
    spell x ≠ [] ∧ ∀ c ∈ spell x, IsNumeric c := by
  obtain ⟨hne, hchars⟩ := isNumeric_spellMagnitude (magnitude x)
  rw [spell, hx]
  cases isNegative x with
  | false => exact ⟨hne, hchars⟩
  | true =>
    refine ⟨by simp, fun c hc => ?_⟩
    rcases List.mem_cons.1 hc with rfl | hc
    · exact .inr (by decide)
    · exact hchars c hc

lemma isTokenChar_of_isDigit {c : Char} (hc : c.isDigit = true) :
    Reader.isTokenChar c = true := by
  have hrange : 48 ≤ c.toNat ∧ c.toNat ≤ 57 := by
    simpa [Char.isDigit, UInt32.le_iff_toNat_le] using hc
  have hspace : Text.isWhiteSpace c = false := by
    simp [Text.isWhiteSpace, Text.inRanges, Text.whiteSpace]
    omega
  have hparts : c ≠ '(' ∧ c ≠ ')' ∧ c ≠ '"' := by
    refine ⟨?_, ?_, ?_⟩ <;> rintro rfl <;> exact absurd hc (by decide)
  simp [Reader.isTokenChar, hspace, hparts]

lemma isToken_spell {x : Float} (hx : x.isNaN = false) (comments : Bool) :
    IsToken comments (spell x) ∧ (spell x).head? ≠ some '#' := by
  obtain ⟨hne, hchars⟩ := isNumeric_spell hx
  have hhead : ∀ c, (spell x).head? = some c → IsNumeric c :=
    fun c hc => hchars c (List.mem_of_mem_head? hc)
  have hmarks : "-.inf".toList.all Reader.isTokenChar = true := by decide
  refine ⟨⟨hne, fun c hc => ?_, fun _ hc => ?_⟩, fun hc => ?_⟩
  · rcases hchars c hc with hd | hd
    · exact isTokenChar_of_isDigit hd
    · exact List.all_eq_true.1 hmarks c hd
  · exact absurd (hhead _ hc) (by decide)
  · exact absurd (hhead _ hc) (by decide)

end Number

end SmallScheme
