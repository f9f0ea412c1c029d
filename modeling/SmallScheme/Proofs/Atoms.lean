import SmallScheme.Proofs.Comments
import SmallScheme.Proofs.Numerals
import SmallScheme.Proofs.Overflow

namespace SmallScheme

namespace Numeral

def toFloat (n : Numeral) : Float :=
  n.decimal.toFloat

lemma decimal_eq_of_text {n m : Numeral} (h : n.text = m.text) : n.decimal = m.decimal := by
  have hread := Decimal.ofChars?_numeral n
  rw [h, Decimal.ofChars?_numeral m] at hread
  exact (Option.some.inj hread).symm

lemma isNaN_toFloat (n : Numeral) : n.toFloat.isNaN = false :=
  n.decimal.isNaN_toFloat

lemma isInf_toFloat_iff (n : Numeral) :
    n.toFloat.isInf = true ↔ Number.overflow ≤ n.magnitude := by
  rw [toFloat, Decimal.isInf_toFloat_iff, magnitude_decimal]

end Numeral

namespace Number

def startsNumeric : List Char → Bool
  | [] => false
  | c :: cs =>
    c.isDigit ||
      ((c == '+' || c == '-' || c == '.') && cs.head?.any fun d => d.isDigit || d == '.')

lemma startsNumeric_of_isDigit {c : Char} (hc : c.isDigit = true) (cs : List Char) :
    startsNumeric (c :: cs) = true := by
  simp [startsNumeric, hc]

lemma startsNumeric_pair {c d : Char} (hc : c = '+' ∨ c = '-' ∨ c = '.')
    (hd : d.isDigit = true ∨ d = '.') (cs : List Char) : startsNumeric (c :: d :: cs) = true := by
  have hd : (d.isDigit || d == '.') = true := by simpa using hd
  rcases hc with rfl | rfl | rfl <;> simp [startsNumeric, hd]

lemma startsNumeric_mantissa (m : Mantissa) (cs : List Char) :
    startsNumeric (m.text ++ cs) = true := by
  have hdigits : ∀ ds : Digits, ∀ tail, startsNumeric (ds.chars ++ tail ++ cs) = true := by
    intro ds tail
    obtain ⟨d, rest, hrest, hd⟩ := ds.exists_cons
    rw [hrest]
    exact startsNumeric_of_isDigit hd _
  cases m with
  | whole ds => exact hdigits ds _
  | pointed ds fs => exact hdigits ds _
  | fraction ds =>
    obtain ⟨d, rest, hrest, hd⟩ := ds.exists_cons
    change startsNumeric ('.' :: (ds.chars ++ cs)) = true
    rw [hrest]
    exact startsNumeric_pair (.inr (.inr rfl)) (.inl hd) _

lemma startsNumeric_numeral (n : Numeral) : startsNumeric n.text = true := by
  obtain ⟨d, rest, hrest, hd⟩ := n.mantissa.exists_cons
  have hmantissa := startsNumeric_mantissa n.mantissa (Exponent.optional n.exponent)
  rw [Numeral.text]
  cases n.sign with
  | absent => exact hmantissa
  | plus =>
    rw [hrest]
    exact startsNumeric_pair (.inl rfl) hd _
  | minus =>
    rw [hrest]
    exact startsNumeric_pair (.inr (.inl rfl)) hd _

lemma startsNumeric_cases {cs : List Char} (h : startsNumeric cs = true) :
    ∃ (s : Sign) (c : Char) (rest : List Char), cs = s.text ++ c :: rest ∧
      (c.isDigit = true ∨ c = '.') := by
  match cs with
  | [] => cases h
  | [c] =>
    have hc : c.isDigit = true := by simpa [startsNumeric] using h
    exact ⟨.absent, c, [], rfl, .inl hc⟩
  | c :: d :: cs =>
    simp only [startsNumeric, List.head?_cons, Option.any_some, Bool.or_eq_true, Bool.and_eq_true,
      beq_iff_eq] at h
    rcases h with hc | ⟨(rfl | rfl) | rfl, hd⟩
    · exact ⟨.absent, c, d :: cs, rfl, .inl hc⟩
    · exact ⟨.plus, d, cs, rfl, hd⟩
    · exact ⟨.minus, d, cs, rfl, hd⟩
    · exact ⟨.absent, '.', d :: cs, rfl, .inr rfl⟩

lemma toLower_of_isDigit {c : Char} (hc : c.isDigit = true) : c.toLower = c := by
  have hrange : c.val ≤ 57 := by
    simp only [Char.isDigit, Bool.and_eq_true, decide_eq_true_eq] at hc
    exact hc.2
  exact dif_neg fun hupper => absurd (UInt32.le_trans hupper.1 hrange) (by decide)

lemma toLower_ne {c : Char} (hc : c.isDigit = true ∨ c = '.') :
    c.toLower ≠ 'n' ∧ c.toLower ≠ 'i' := by
  rcases hc with hc | rfl
  · rw [toLower_of_isDigit hc]
    constructor <;> rintro rfl <;> exact absurd hc (by decide)
  · decide

lemma ofName?_of_startsNumeric {cs : List Char} (h : startsNumeric cs = true) :
    ofName? cs = none := by
  obtain ⟨s, c, rest, rfl, hc⟩ := startsNumeric_cases h
  obtain ⟨hn, hi⟩ := toLower_ne hc
  simp only [ofName?, Decimal.splitSign_append s hc, List.map_cons]
  have hhead : ∀ text : String, String.ofList (c.toLower :: rest.map Char.toLower) = text →
      text.toList.head? = some c.toLower := by
    rintro text rfl
    rw [String.toList_ofList]
    rfl
  split
  · next htext => exact absurd (Option.some.inj (hhead _ htext)).symm hn
  · next htext => exact absurd (Option.some.inj (hhead _ htext)).symm hi
  · next htext => exact absurd (Option.some.inj (hhead _ htext)).symm hi
  · rfl

lemma ofText?_of_startsNumeric {cs : List Char} {x : Float} :
    startsNumeric cs = true ∧ ofText? cs = some x ↔ ∃ n : Numeral, n.text = cs ∧ n.toFloat = x := by
  constructor
  · rintro ⟨hstarts, htext⟩
    rw [ofText?, ofName?_of_startsNumeric hstarts] at htext
    split at htext
    · next d hd =>
      obtain ⟨n, hn, rfl⟩ := Decimal.exists_numeral hd
      exact ⟨n, hn, Option.some.inj htext⟩
    · cases htext
  · rintro ⟨n, rfl, rfl⟩
    refine ⟨startsNumeric_numeral n, ?_⟩
    rw [ofText?, Decimal.ofChars?_numeral]
    rfl

end Number

namespace Grammar

def boolToken : Bool → List Char
  | true => "#t".toList
  | false => "#f".toList

structure TokenDenotes (name : List Char) (v : Value) : Prop where
  bool (b : Bool) : v = .bool b ↔ name = boolToken b
  number (x : Float) : v = .number x ↔ ∃ n : Numeral, n.text = name ∧ n.toFloat = x
  otherwise : (∀ b, v ≠ .bool b) → (∀ x, v ≠ .number x) →
    ∃ s : Symbol, v = .symbol s ∧ s.name = String.ofList name

mutual

def Tree.Denotes : Tree → Value → Prop
  | .atom name, v => TokenDenotes name v
  | .string body, v => v = .string (String.ofList body)
  | .list _ forms, v => ∃ vs, v = .list vs ∧ forms.Denote vs

def Forms.Denote : Forms → List Value → Prop
  | .nil, vs => vs = []
  | .cons tree _ rest, vs => ∃ w ws, vs = w :: ws ∧ tree.Denotes w ∧ rest.Denote ws

end

open Reader

lemma text_ne_bool (n : Numeral) (b : Bool) : n.text ≠ boolToken b := by
  have hnone : Decimal.ofChars? (boolToken b) = none := by cases b <;> decide
  exact Decimal.ofChars?_eq_none_iff.1 hnone n

lemma tokenDenotes_bool (b : Bool) : TokenDenotes (boolToken b) (.bool b) where
  bool b' := by cases b <;> cases b' <;> simp [boolToken]
  number x := by
    refine iff_of_false nofun ?_
    rintro ⟨n, hn, -⟩
    exact text_ne_bool n b hn
  otherwise h := absurd rfl (h b)

lemma tokenDenotes_number (n : Numeral) : TokenDenotes n.text (.number n.toFloat) where
  bool b := iff_of_false nofun (text_ne_bool n b)
  number x := by
    constructor
    · rintro ⟨rfl⟩
      exact ⟨n, rfl, rfl⟩
    · rintro ⟨m, hm, rfl⟩
      rw [Numeral.toFloat, Numeral.toFloat, Numeral.decimal_eq_of_text hm]
  otherwise _ h := absurd rfl (h _)

lemma tokenDenotes_symbol {name : List Char} {s : Symbol} (hs : s.name = String.ofList name)
    (hbool : ∀ b : Bool, name ≠ boolToken b)
    (hnumber : ∀ n : Numeral, n.text ≠ name) : TokenDenotes name (.symbol s) where
  bool b := iff_of_false nofun (hbool b)
  number x := by
    refine iff_of_false nofun ?_
    rintro ⟨n, hn, -⟩
    exact hnumber n hn
  otherwise _ _ := ⟨s, rfl, hs⟩

lemma tokenDenotes_value (name : List Char) (symbols : SymbolTable) :
    TokenDenotes name ((Atom.ofChars name).value symbols).1 := by
  unfold Atom.ofChars
  split
  · next htrue =>
    rw [htrue]
    exact tokenDenotes_bool true
  split
  · next hfalse =>
    rw [hfalse]
    exact tokenDenotes_bool false
  next htrue hfalse =>
  split
  · next d hd =>
    obtain ⟨n, rfl, rfl⟩ := Decimal.exists_numeral hd
    exact tokenDenotes_number n
  · next hnone =>
    refine tokenDenotes_symbol (symbols.intern_name _) (fun b => ?_)
      (Decimal.ofChars?_eq_none_iff.1 hnone)
    cases b with
    | true => exact htrue
    | false => exact hfalse

mutual

lemma denotes_value (t : Tree) (symbols : SymbolTable) : t.Denotes (t.value symbols).1 := by
  cases t with
  | atom name => exact tokenDenotes_value name symbols
  | string body => rfl
  | list gap forms => exact ⟨_, rfl, denote_values forms symbols⟩

lemma denote_values (f : Forms) (symbols : SymbolTable) : f.Denote (f.values symbols).1 := by
  cases f with
  | nil => rfl
  | cons t gap rest => exact ⟨_, _, rfl, denotes_value t symbols, denote_values rest _⟩

end

lemma tokenDenotes_number_iff {name : List Char} {x : Float} :
    TokenDenotes name (.number x) ↔ ∃ n : Numeral, n.text = name ∧ n.toFloat = x := by
  constructor
  · intro h
    exact (h.number x).1 rfl
  · rintro ⟨n, rfl, rfl⟩
    exact tokenDenotes_number n

end Grammar

open Reader Grammar

/-- Every token is read by its own shape, wherever it stands: `#t` and `#f` as truth values, a
numeral as a number and anything else as the symbol of that name. A number that is read is never
NaN, and infinite only if the numeral stands for more than doubles reach. What starts as a numeral
and is a number that a host may write is a numeral. -/
theorem tokens_read_by_shape (comments : Bool) (symbols : SymbolTable) :
    (∀ name, IsToken comments name → ∃ v symbols',
      readAll comments (String.ofList name) symbols = (.ok [v], symbols') ∧
        read comments (String.ofList name) symbols = (.ok (some v), symbols') ∧
        TokenDenotes name v) ∧
    (∀ text vs symbols', readAll comments text symbols = (.ok vs, symbols') ∨
        (∃ o, o.toList = vs ∧ read comments text symbols = (.ok o, symbols')) →
      ∃ p : Program, p.Derives comments text.toList ∧ p.forms.Denote vs) ∧
    (∀ name x, TokenDenotes name (.number x) → x.isNaN = false ∧
      (x.isInf = true ↔ ∃ n : Numeral, n.text = name ∧ Number.overflow ≤ n.magnitude)) ∧
    ∀ name x, TokenDenotes name (.number x) ↔
      Number.startsNumeric name = true ∧ Number.ofText? name = some x := by
  refine ⟨fun name hname => ?_, fun text vs symbols' h => ?_, fun name x h => ?_, fun name x => ?_⟩
  · have hall := readAll_name hname symbols
    exact ⟨_, _, hall, read_ok_iff.2 (readAll_ok_iff.1 hall), tokenDenotes_value name symbols⟩
  · have hforms : forms comments symbols text.toList = (.ok vs, symbols') := by
      rcases h with hall | ⟨o, rfl, hone⟩
      · exact readAll_ok_iff.1 hall
      · exact read_ok_iff.1 hone
    obtain ⟨p, hp, -, hvalues⟩ := forms_ok_iff.1 hforms
    have hdenote := denote_values p.forms symbols
    rw [hvalues] at hdenote
    exact ⟨p, hp, hdenote⟩
  · obtain ⟨n, rfl, rfl⟩ := tokenDenotes_number_iff.1 h
    refine ⟨n.isNaN_toFloat, ?_⟩
    rw [n.isInf_toFloat_iff]
    constructor
    · exact fun hlarge => ⟨n, rfl, hlarge⟩
    · rintro ⟨m, hm, hlarge⟩
      rwa [← Numeral.magnitude_decimal, ← Numeral.decimal_eq_of_text hm, Numeral.magnitude_decimal]
  · rw [tokenDenotes_number_iff, Number.ofText?_of_startsNumeric]

def nearNumerals : List String :=
  ["inf", "-inf", "+nan", "infinity", "1abc", "0x1F", "...", "-."]

def beyondDoubles : Numeral :=
  ⟨.absent, .whole ⟨['1'], by decide, List.all_eq_true.1 (by decide)⟩,
    some ⟨'e', .absent, ⟨"4096".toList, by decide, List.all_eq_true.1 (by decide)⟩, .inl rfl⟩⟩

lemma magnitude_beyondDoubles : beyondDoubles.magnitude = 10 ^ 4096 := by
  have hone : Decimal.digitsValue beyondDoubles.mantissa.before = 1 := by decide
  have hnothing : Decimal.digitsValue beyondDoubles.mantissa.after = 0 := by decide
  have hscale : beyondDoubles.scale = (4096 : Nat) := by decide
  rw [Numeral.magnitude, Mantissa.value, hone, hnothing, hscale, zpow_natCast]
  simp

theorem tokens_read_by_shape_words :
    (∀ word ∈ nearNumerals, ∃ s symbols',
      readAll true word .empty = (.ok [.symbol s], symbols') ∧ s.name = word) ∧
    ∃ x symbols', readAll true "1e4096" .empty = (.ok [.number x], symbols') ∧
      x.isInf = true ∧ x.isNaN = false := by
  obtain ⟨hread, -, hnumber, -⟩ := tokens_read_by_shape true .empty
  refine ⟨fun word hword => ?_, ?_⟩
  · have hshape : ∀ word ∈ nearNumerals, word.toList ≠ [] ∧
        word.toList.all isTokenChar = true ∧ word.toList.head? ≠ some ';' ∧
        (∀ b, word.toList ≠ boolToken b) ∧ Decimal.ofChars? word.toList = none := by decide
    obtain ⟨hne, hchars, hcomment, hbool, hnone⟩ := hshape word hword
    obtain ⟨v, symbols', hv, -, hdenotes⟩ := hread word.toList (isToken_of_all hne hchars hcomment)
    rw [String.ofList_toList] at hv
    obtain ⟨s, rfl, hs⟩ := hdenotes.otherwise (fun b hb => hbool b ((hdenotes.bool b).1 hb))
      fun x hx => by
        obtain ⟨n, hn, -⟩ := (hdenotes.number x).1 hx
        exact Decimal.ofChars?_eq_none_iff.1 hnone n hn
    rw [String.ofList_toList] at hs
    exact ⟨s, symbols', hv, hs⟩
  · have htoken : IsToken true "1e4096".toList :=
      isToken_of_all (by decide) (by decide) (by decide)
    have htext : beyondDoubles.text = "1e4096".toList := by decide
    have hlarge : Number.overflow ≤ beyondDoubles.magnitude := by
      rw [magnitude_beyondDoubles]
      exact Number.overflow_le
    obtain ⟨v, symbols', hv, -, hdenotes⟩ := hread _ htoken
    rw [String.ofList_toList] at hv
    obtain rfl := (hdenotes.number _).2 ⟨beyondDoubles, htext, rfl⟩
    obtain ⟨hnan, hinf⟩ := hnumber _ _ hdenotes
    exact ⟨_, symbols', hv, hinf.2 ⟨beyondDoubles, htext, hlarge⟩, hnan⟩

end SmallScheme
