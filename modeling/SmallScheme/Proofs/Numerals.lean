import SmallScheme.Proofs.NumberText

/-! Numerals `[+-]? (D+ | D+ . D* | . D+) ([eE] [+-]? D+)?` by their parts, with `D` a digit. They
are the texts that are read as decimals, each as the decimal of its value. -/

namespace SmallScheme

structure Digits where
  chars : List Char
  nonempty : chars ≠ []
  isDigit : ∀ c ∈ chars, c.isDigit = true

inductive Sign where
  | absent
  | plus
  | minus

inductive Mantissa where
  | whole (digits : Digits)
  | pointed (whole : Digits) (fraction : Option Digits)
  | fraction (digits : Digits)

structure Exponent where
  mark : Char
  sign : Sign
  digits : Digits
  isMark : mark = 'e' ∨ mark = 'E'

structure Numeral where
  sign : Sign
  mantissa : Mantissa
  exponent : Option Exponent

namespace Digits

def value (ds : Digits) : Nat :=
  Decimal.digitsValue ds.chars

def optional (ds : Option Digits) : List Char :=
  ds.elim [] chars

lemma exists_cons (ds : Digits) : ∃ c cs, ds.chars = c :: cs ∧ c.isDigit = true := by
  obtain ⟨c, cs, hcs⟩ := List.exists_cons_of_ne_nil ds.nonempty
  exact ⟨c, cs, hcs, ds.isDigit c (hcs ▸ List.mem_cons_self)⟩

lemma isDigit_optional (ds : Option Digits) : ∀ c ∈ optional ds, c.isDigit = true := by
  cases ds with
  | none => simp [optional]
  | some ds => exact ds.isDigit

lemma exists_optional {cs : List Char} (h : ∀ c ∈ cs, c.isDigit = true) :
    ∃ ds, optional ds = cs := by
  by_cases hne : cs = []
  · exact ⟨none, hne.symm⟩
  · exact ⟨some ⟨cs, hne, h⟩, rfl⟩

end Digits

namespace Sign

def text : Sign → List Char
  | absent => []
  | plus => ['+']
  | minus => ['-']

def isMinus : Sign → Bool
  | minus => true
  | _ => false

def apply (s : Sign) (n : Nat) : Int :=
  if s.isMinus then -(n : Int) else n

end Sign

namespace Mantissa

def before : Mantissa → List Char
  | whole ds => ds.chars
  | pointed ds _ => ds.chars
  | fraction _ => []

def after : Mantissa → List Char
  | whole _ => []
  | pointed _ fs => Digits.optional fs
  | fraction ds => ds.chars

def tail : Mantissa → List Char
  | whole _ => []
  | m => '.' :: m.after

def text (m : Mantissa) : List Char :=
  m.before ++ m.tail

def value (m : Mantissa) : ℚ :=
  Decimal.digitsValue m.before + Decimal.digitsValue m.after / 10 ^ m.after.length

lemma exists_cons (m : Mantissa) : ∃ c cs, m.text = c :: cs ∧ (c.isDigit = true ∨ c = '.') := by
  have hdigits : ∀ ds : Digits, ∀ tail, ∃ c cs, ds.chars ++ tail = c :: cs ∧
      (c.isDigit = true ∨ c = '.') := by
    intro ds tail
    obtain ⟨c, cs, hcs, hc⟩ := ds.exists_cons
    exact ⟨c, cs ++ tail, by rw [hcs, List.cons_append], .inl hc⟩
  cases m with
  | whole ds => exact hdigits ds _
  | pointed ds fs => exact hdigits ds _
  | fraction ds => exact ⟨'.', ds.chars, rfl, .inr rfl⟩

end Mantissa

namespace Exponent

def text (e : Exponent) : List Char :=
  e.mark :: (e.sign.text ++ e.digits.chars)

def value (e : Exponent) : Int :=
  e.sign.apply e.digits.value

def optional (e : Option Exponent) : List Char :=
  e.elim [] text

end Exponent

namespace Numeral

def text (n : Numeral) : List Char :=
  n.sign.text ++ (n.mantissa.text ++ Exponent.optional n.exponent)

def scale (n : Numeral) : Int :=
  n.exponent.elim 0 Exponent.value

def magnitude (n : Numeral) : ℚ :=
  n.mantissa.value * 10 ^ n.scale

def decimal (n : Numeral) : Decimal :=
  ⟨n.sign.isMinus, Decimal.digitsValue (n.mantissa.before ++ n.mantissa.after),
    n.scale - n.mantissa.after.length⟩

lemma magnitude_decimal (n : Numeral) :
    (n.decimal.coefficient : ℚ) * 10 ^ n.decimal.exponent = n.magnitude := by
  have hten : (10 : ℚ) ≠ 0 := by norm_num
  rw [decimal, magnitude, Mantissa.value, Decimal.digitsValue_append, zpow_sub₀ hten, zpow_natCast]
  push_cast
  field_simp

end Numeral

namespace Decimal

open Grammar

variable {cs : List Char}

/-! ### Every numeral is read -/

lemma splitSign_append {c : Char} (s : Sign) (hc : c.isDigit = true ∨ c = '.')
    (cs : List Char) : splitSign (s.text ++ c :: cs) = (s.isMinus, c :: cs) := by
  cases s with
  | absent =>
    change splitSign (c :: cs) = (false, c :: cs)
    rw [splitSign]
    · rintro ds hds
      obtain ⟨rfl, -⟩ := List.cons.inj hds
      exact absurd hc (by decide)
    · rintro ds hds
      obtain ⟨rfl, -⟩ := List.cons.inj hds
      exact absurd hc (by decide)
  | plus => rfl
  | minus => rfl

lemma head_exponent (e : Option Exponent) :
    ∀ c ∈ (Exponent.optional e).head?, c = 'e' ∨ c = 'E' := by
  cases e with
  | none => simp [Exponent.optional]
  | some e =>
    intro c hc
    obtain rfl : e.mark = c := by simpa [Exponent.optional, Exponent.text] using hc
    exact e.isMark

lemma exponentOf?_optional (e : Option Exponent) :
    exponentOf? (Exponent.optional e) = some (e.elim 0 Exponent.value) := by
  cases e with
  | none => rfl
  | some e =>
    have hsign : splitSign (e.sign.text ++ e.digits.chars) = (e.sign.isMinus, e.digits.chars) := by
      obtain ⟨c, cs, hcs, hc⟩ := e.digits.exists_cons
      rw [hcs]
      exact splitSign_append e.sign (.inl hc) cs
    have hmark : (e.mark == 'e' || e.mark == 'E') = true := by
      rcases e.isMark with h | h <;> simp [h]
    have hne : e.digits.chars.isEmpty = false := by simpa using e.digits.nonempty
    have hall : e.digits.chars.all Char.isDigit = true := List.all_eq_true.2 e.digits.isDigit
    simp only [Exponent.optional, Option.elim_some, Exponent.text, exponentOf?, hsign, hmark, hne,
      hall]
    rfl

lemma splitFraction_tail (m : Mantissa) (e : Option Exponent) :
    splitFraction (m.tail ++ Exponent.optional e) = (m.after, Exponent.optional e) := by
  have hpointed : ∀ fs : List Char, (∀ c ∈ fs, c.isDigit = true) →
      splitFraction ('.' :: fs ++ Exponent.optional e) = (fs, Exponent.optional e) := by
    intro fs hfs
    have hend : ∀ c ∈ (Exponent.optional e).head?, c.isDigit = false := by
      intro c hc
      rcases head_exponent e c hc with rfl | rfl <;> decide
    obtain ⟨htake, hdrop⟩ := span_append hfs hend
    rw [List.cons_append, splitFraction, htake, hdrop]
  cases m with
  | whole ds =>
    change splitFraction (Exponent.optional e) = ([], Exponent.optional e)
    rw [splitFraction]
    intro cs hcs
    have hpoint := head_exponent e '.' (by rw [hcs]; rfl)
    exact absurd hpoint (by decide)
  | pointed ds fs => exact hpointed _ (Digits.isDigit_optional fs)
  | fraction ds => exact hpointed _ ds.isDigit

lemma span_before (m : Mantissa) (e : Option Exponent) :
    (m.text ++ Exponent.optional e).takeWhile Char.isDigit = m.before ∧
      (m.text ++ Exponent.optional e).dropWhile Char.isDigit = m.tail ++ Exponent.optional e := by
  have hbefore : ∀ c ∈ m.before, c.isDigit = true := by
    cases m with
    | whole ds => exact ds.isDigit
    | pointed ds fs => exact ds.isDigit
    | fraction ds => simp [Mantissa.before]
  have hend : ∀ c ∈ (m.tail ++ Exponent.optional e).head?, c.isDigit = false := by
    intro c hc
    cases m with
    | whole ds => rcases head_exponent e c hc with rfl | rfl <;> decide
    | pointed ds fs =>
      obtain rfl : '.' = c := by simpa [Mantissa.tail] using hc
      decide
    | fraction ds =>
      obtain rfl : '.' = c := by simpa [Mantissa.tail] using hc
      decide
  rw [Mantissa.text, List.append_assoc]
  exact span_append hbefore hend

lemma ofChars?_numeral (n : Numeral) : ofChars? n.text = some n.decimal := by
  have hsign : splitSign n.text =
      (n.sign.isMinus, n.mantissa.text ++ Exponent.optional n.exponent) := by
    obtain ⟨c, cs, hcs, hc⟩ := n.mantissa.exists_cons
    rw [Numeral.text, hcs]
    exact splitSign_append n.sign hc _
  obtain ⟨htake, hdrop⟩ := span_before n.mantissa n.exponent
  have hdigits : (n.mantissa.before.isEmpty && n.mantissa.after.isEmpty) = false := by
    cases n.mantissa with
    | whole ds => simp [Mantissa.before, ds.nonempty]
    | pointed ds fs => simp [Mantissa.before, ds.nonempty]
    | fraction ds => simp [Mantissa.after, ds.nonempty]
  simp only [ofChars?, hsign, htake, hdrop, splitFraction_tail, hdigits, exponentOf?_optional]
  rfl

/-! ### Only numerals are read -/

lemma exists_sign (cs : List Char) :
    ∃ s : Sign, cs = s.text ++ (splitSign cs).2 ∧ s.isMinus = (splitSign cs).1 := by
  unfold splitSign
  split
  · exact ⟨.minus, rfl, rfl⟩
  · exact ⟨.plus, rfl, rfl⟩
  · exact ⟨.absent, rfl, rfl⟩

lemma exists_exponent {e : Int} (h : exponentOf? cs = some e) :
    ∃ x, Exponent.optional x = cs ∧ x.elim 0 Exponent.value = e := by
  cases cs with
  | nil => exact ⟨none, rfl, Option.some.inj h⟩
  | cons mark cs =>
    obtain ⟨s, hcs, hminus⟩ := exists_sign cs
    simp only [exponentOf?, Option.ite_none_right_eq_some, Bool.and_eq_true, Bool.or_eq_true,
      beq_iff_eq, Bool.not_eq_true', List.isEmpty_eq_false_iff, List.all_eq_true] at h
    obtain ⟨⟨⟨hmark, hne⟩, hdigits⟩, he⟩ := h
    refine ⟨some ⟨mark, s, ⟨_, hne, hdigits⟩, hmark⟩, ?_, ?_⟩
    · exact congrArg (mark :: ·) hcs.symm
    · rw [← hminus] at he
      exact Option.some.inj he

lemma exists_mantissa {fraction rest : List Char}
    (hsplit : splitFraction (cs.dropWhile Char.isDigit) = (fraction, rest))
    (hdigits : ¬ (cs.takeWhile Char.isDigit = [] ∧ fraction = [])) :
    ∃ m : Mantissa, cs = m.text ++ rest ∧ m.before = cs.takeWhile Char.isDigit ∧
      m.after = fraction := by
  have hcs : cs = cs.takeWhile Char.isDigit ++ cs.dropWhile Char.isDigit :=
    List.takeWhile_append_dropWhile.symm
  have hwhole : ∀ c ∈ cs.takeWhile Char.isDigit, c.isDigit = true :=
    List.all_eq_true.1 List.all_takeWhile
  generalize cs.takeWhile Char.isDigit = whole at hcs hwhole hdigits ⊢
  generalize cs.dropWhile Char.isDigit = tail at hcs hsplit
  subst hcs
  unfold splitFraction at hsplit
  split at hsplit
  · next ds =>
    obtain ⟨rfl, rfl⟩ := Prod.mk.inj hsplit
    have hfraction : ∀ c ∈ ds.takeWhile Char.isDigit, c.isDigit = true :=
      List.all_eq_true.1 List.all_takeWhile
    have hds : ds = ds.takeWhile Char.isDigit ++ ds.dropWhile Char.isDigit :=
      List.takeWhile_append_dropWhile.symm
    by_cases hempty : whole = []
    · have hne : ds.takeWhile Char.isDigit ≠ [] := fun h => hdigits ⟨hempty, h⟩
      refine ⟨.fraction ⟨_, hne, hfraction⟩, ?_, hempty.symm, rfl⟩
      rw [hempty, Mantissa.text, Mantissa.before, List.nil_append, List.nil_append]
      exact congrArg ('.' :: ·) hds
    · obtain ⟨fs, hfs⟩ := Digits.exists_optional hfraction
      refine ⟨.pointed ⟨whole, hempty, hwhole⟩ fs, ?_, rfl, hfs⟩
      rw [Mantissa.text, List.append_assoc]
      refine congrArg (whole ++ '.' :: ·) ?_
      rw [Mantissa.after, hfs]
      exact hds
  · obtain ⟨rfl, rfl⟩ := Prod.mk.inj hsplit
    refine ⟨.whole ⟨whole, fun h => hdigits ⟨h, rfl⟩, hwhole⟩, ?_, rfl, rfl⟩
    rw [Mantissa.text, List.append_assoc]
    rfl

lemma exists_numeral {d : Decimal} (h : ofChars? cs = some d) :
    ∃ n : Numeral, n.text = cs ∧ n.decimal = d := by
  obtain ⟨s, hs, hminus⟩ := exists_sign cs
  cases hsplit : splitFraction ((splitSign cs).2.dropWhile Char.isDigit) with
  | mk fraction rest =>
    simp only [ofChars?, hsplit, Option.ite_none_left_eq_some, Option.map_eq_some_iff,
      Bool.and_eq_true, List.isEmpty_iff] at h
    obtain ⟨hdigits, e, he, rfl⟩ := h
    obtain ⟨m, hm, hbefore, hafter⟩ := exists_mantissa hsplit hdigits
    obtain ⟨x, hx, hvalue⟩ := exists_exponent he
    refine ⟨⟨s, m, x⟩, ?_, ?_⟩
    · rw [Numeral.text, hx, ← hm, ← hs]
    · rw [Numeral.decimal, Numeral.scale, hminus, hbefore, hafter, hvalue]

lemma ofChars?_eq_none_iff : ofChars? cs = none ↔ ∀ n : Numeral, n.text ≠ cs := by
  constructor
  · rintro h n rfl
    cases h.symm.trans (ofChars?_numeral n)
  · intro h
    by_contra hne
    obtain ⟨d, hd⟩ := Option.ne_none_iff_exists'.1 hne
    obtain ⟨n, hn, -⟩ := exists_numeral hd
    exact h n hn

end Decimal

end SmallScheme
