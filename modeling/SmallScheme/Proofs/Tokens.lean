import Mathlib.Data.List.Basic
import SmallScheme.Proofs.ReadFailure

namespace SmallScheme

namespace Reader

open Text Grammar

inductive Lexed (comments : Bool) : List Char → List Token → Prop
  | nil : Lexed comments [] []
  | piece {piece : Piece} {cs : List Char} {ts : List Token} :
      piece.Stands comments cs → Lexed comments cs ts → Lexed comments (piece.text ++ cs) ts
  | opening {cs : List Char} {ts : List Token} :
      Lexed comments cs ts → Lexed comments ('(' :: cs) (.opening :: ts)
  | closing {cs : List Char} {ts : List Token} :
      Lexed comments cs ts → Lexed comments (')' :: cs) (.closing :: ts)
  | string {body cs : List Char} {ts : List Token} : '"' ∉ body → Lexed comments cs ts →
      Lexed comments ('"' :: (body ++ '"' :: cs)) (.string body :: ts)
  | atom {name cs : List Char} {ts : List Token} : (Tree.atom name).Stands comments cs →
      Lexed comments cs ts → Lexed comments (name ++ cs) (.atom name :: ts)
  | unterminated {cs : List Char} : '"' ∉ cs → Lexed comments ('"' :: cs) [.unterminated]
  | stray {c : Char} {cs : List Char} : isWhiteSpace c = true → isBlank c = false →
      Lexed comments (c :: cs) [.stray]

def tokens (comments : Bool) (cs : List Char) : List Token :=
  (lexemes comments cs).map Lexeme.token

section Lexed

variable {comments : Bool} {cs : List Char} {ts : List Token}

lemma Lexed.gap {gap : Gap} (hs : gap.Stands comments cs) (h : Lexed comments cs ts) :
    Lexed comments (gap.text ++ cs) ts := by
  induction gap with
  | nil => exact h
  | cons piece rest ih =>
    rw [Gap.text, List.append_assoc]
    exact .piece hs.1 (ih hs.2)

lemma tokens_nil : tokens comments [] = [] := by
  rw [tokens, lexemes]
  rfl

lemma lexed (comments : Bool) (cs : List Char) : Lexed comments cs (tokens comments cs) := by
  -- What is left of the text gets shorter with each lexeme.
  obtain ⟨n, hlength⟩ : ∃ n, cs.length = n := ⟨_, rfl⟩
  induction n using Nat.strongRecOn generalizing cs with
  | ind n ih =>
    obtain ⟨gap, hcs, hg, hn⟩ := skipBlank_spec comments cs
    generalize skipBlank comments cs = ds at hcs hg hn
    subst hcs
    rw [tokens, lexemes_gap hg, lexemes_of_noTrivia hn]
    apply Lexed.gap hg
    cases hl : lexemeAt ds with
    | none =>
      obtain rfl := lexemeAt_eq_none hl
      exact .nil
    | some l =>
      have hshort : l.rest.length < n := by
        have := length_rest_lexemeAt hl
        simp only [List.length_append] at hlength
        omega
      have hrest := ih _ hshort l.rest rfl
      have hnil : (lexemes comments []).map Lexeme.token = [] := tokens_nil
      rw [List.map_cons]
      rcases lexemeAt_cases hl hn with ⟨ht, hd⟩ | ⟨ht, hd⟩ | ⟨body, ht, hb, hd⟩ |
        ⟨name, ht, hs, hd⟩ | ⟨ht, after, hd, hq⟩ | ⟨ht, c, after, hd, hspace, hblank⟩
      · rw [ht, hd]
        exact .opening hrest
      · rw [ht, hd]
        exact .closing hrest
      · rw [ht, hd]
        exact .string hb hrest
      · rw [ht, hd]
        exact .atom hs hrest
      · subst hd
        rw [lexemeAt_unterminated hq] at hl
        obtain rfl := Option.some.inj hl
        rw [hnil]
        exact .unterminated hq
      · subst hd
        rw [lexemeAt_stray hspace] at hl
        obtain rfl := Option.some.inj hl
        rw [hnil]
        exact .stray hspace hblank

lemma Lexed.tokens_eq (h : Lexed comments cs ts) : tokens comments cs = ts := by
  induction h with
  | nil => exact tokens_nil
  | @piece piece cs _ hs _ ih =>
    have hgap : Gap.Stands comments [piece] cs := ⟨hs, trivial⟩
    have hlexemes := lexemes_gap hgap
    rw [Gap.text, Gap.text, List.append_nil] at hlexemes
    rw [tokens, hlexemes]
    exact ih
  | opening _ ih => rw [tokens, lexemes_open, List.map_cons, ← ih, tokens]
  | closing _ ih => rw [tokens, lexemes_close, List.map_cons, ← ih, tokens]
  | string hb _ ih => rw [tokens, lexemes_string hb, List.map_cons, ← ih, tokens]
  | atom hs _ ih => rw [tokens, lexemes_atom hs, List.map_cons, ← ih, tokens]
  | unterminated hq =>
    rw [tokens, lexemes_of_noTrivia (noTrivia_cons (by decide) (by decide)),
      lexemeAt_unterminated hq]
    exact congrArg _ tokens_nil
  | @stray c _ hspace hblank =>
    have hne : c ≠ ';' := by
      rintro rfl
      exact absurd hspace (by decide)
    rw [tokens, lexemes_of_noTrivia (noTrivia_cons hblank hne), lexemeAt_stray hspace]
    exact congrArg _ tokens_nil

end Lexed

def Lexeme.bare (l : Lexeme) : Lexeme := ⟨l.token, [], []⟩

def Failure.bare (f : Failure) : Failure := ⟨f.cause, []⟩

def OpenList.bare (o : OpenList) : OpenList := ⟨[], o.elements⟩

def bareOutcome {α β : Type} (f : α → β) : Except Failure α → Except Failure β
  | .ok a => .ok (f a)
  | .error failure => .error failure.bare

namespace Progress

def bare (p : Progress) : Progress :=
  { p with pending := p.pending.map OpenList.bare }

lemma add_bare (p : Progress) (v : Value) : p.bare.add v = (p.add v).bare := by
  obtain ⟨_, pending, _⟩ := p
  cases pending <;> rfl

lemma addAtom_bare (p : Progress) (a : Atom) : p.bare.addAtom a = (p.addAtom a).bare := by
  rw [addAtom_eq, addAtom_eq]
  exact add_bare (p.withSymbols _) _

lemma inside_bare (p : Progress) (l : Lexeme) (next : Except Failure Progress) :
    p.bare.inside l.bare (bareOutcome bare next) = bareOutcome bare (p.inside l next) := by
  have hlength : p.bare.pending.length = p.pending.length := List.length_map _
  unfold inside
  rw [hlength]
  split <;> rfl

lemma close_bare (p : Progress) (l : Lexeme) :
    p.bare.close l.bare = bareOutcome bare (p.close l) := by
  obtain ⟨symbols, pending, finished⟩ := p
  cases pending with
  | nil => rfl
  | cons o os => exact congrArg Except.ok (add_bare ⟨symbols, os, finished⟩ _)

lemma step_bare (p : Progress) (l : Lexeme) :
    p.bare.step l.bare = bareOutcome bare (p.step l) := by
  have htoken : l.bare.token = l.token := rfl
  unfold step
  rw [htoken]
  cases l.token with
  | closing => exact close_bare p l
  | opening => exact inside_bare p l (.ok (p.opened l.start))
  | string body =>
    simp only [add_bare]
    exact inside_bare p l (.ok _)
  | atom name =>
    simp only [addAtom_bare]
    exact inside_bare p l (.ok _)
  | unterminated => exact inside_bare p l (.error ⟨.unterminated, l.start⟩)
  | stray => exact inside_bare p l (.error ⟨.invalid, l.start⟩)

lemma finish_bare (p : Progress) : p.bare.finish = bareOutcome id p.finish := by
  obtain ⟨_, pending, _⟩ := p
  cases pending <;> rfl

lemma run_bare (p : Progress) (ls : List Lexeme) :
    p.bare.run (ls.map Lexeme.bare) = ((p.run ls).1.bare, bareOutcome id (p.run ls).2) := by
  induction ls generalizing p with
  | nil => exact congrArg (Prod.mk p.bare) (finish_bare p)
  | cons l ls ih =>
    simp only [List.map_cons, run, step_bare]
    cases p.step l with
    | error failure => rfl
    | ok q => exact ih q

lemma runFirst_bare (p : Progress) (ls : List Lexeme) :
    p.bare.runFirst (ls.map Lexeme.bare) =
      ((p.runFirst ls).1.bare, bareOutcome (List.map Lexeme.bare) (p.runFirst ls).2) := by
  induction ls generalizing p with
  | nil =>
    simp only [List.map_nil, runFirst, finish_bare]
    cases p.finish <;> rfl
  | cons l ls ih =>
    simp only [List.map_cons, runFirst, step_bare]
    cases p.step l with
    | error failure => rfl
    | ok q =>
      simp only [bareOutcome]
      have hforms : q.bare.forms = q.forms := rfl
      rw [hforms]
      split
      · exact ih q
      · rfl

end Progress

section Tokens

variable {comments comments' : Bool} {text text' : String}

lemma bare_of_tokens {cs cs' : List Char} (h : tokens comments cs = tokens comments' cs') :
    (lexemes comments cs).map Lexeme.bare = (lexemes comments' cs').map Lexeme.bare := by
  have hbare : Lexeme.bare = (fun t => ⟨t, [], []⟩) ∘ Lexeme.token := rfl
  rw [hbare, ← List.map_map, ← List.map_map]
  exact congrArg _ h

lemma forms_bare (comments : Bool) (symbols : SymbolTable) (cs : List Char) :
    (bareOutcome id (forms comments symbols cs).1, (forms comments symbols cs).2) =
      let r := (Progress.start symbols).run ((lexemes comments cs).map Lexeme.bare)
      (r.2.map fun _ => r.1.forms.reverse, r.1.symbols) := by
  have hrun := Progress.run_bare (.start symbols) (lexemes comments cs)
  change (Progress.start symbols).run _ = _ at hrun
  rw [hrun, forms]
  generalize (Progress.start symbols).run (lexemes comments cs) = r
  obtain ⟨p, _ | _⟩ := r <;> rfl

lemma form?_bare (comments : Bool) (symbols : SymbolTable) (cs : List Char) :
    (bareOutcome id (form? comments symbols cs).1, (form? comments symbols cs).2) =
      let r := (Progress.start symbols).runFirst ((lexemes comments cs).map Lexeme.bare)
      (r.2 >>= fun
        | [] => .ok r.1.forms.head?
        | l :: _ => .error (excess l), r.1.symbols) := by
  have hrun := Progress.runFirst_bare (.start symbols) (lexemes comments cs)
  change (Progress.start symbols).runFirst _ = _ at hrun
  rw [hrun, form?]
  generalize (Progress.start symbols).runFirst (lexemes comments cs) = r
  obtain ⟨p, _ | _ | ⟨l, ls⟩⟩ := r <;> rfl

def Same {α : Type} (r r' : Except ReadError α × SymbolTable) : Prop :=
  r.1.mapError ReadError.fault = r'.1.mapError ReadError.fault ∧ r.2 = r'.2

lemma fault_report {α : Type} (r : Except Failure α) (cs : List Char) :
    (r.mapError (·.report cs)).mapError ReadError.fault =
      (bareOutcome id r).mapError (·.cause.fault) := by
  cases r <;> rfl

lemma readAll_of_tokens (h : tokens comments text.toList = tokens comments' text'.toList)
    (symbols : SymbolTable) :
    Same (readAll comments text symbols) (readAll comments' text' symbols) := by
  have hforms := forms_bare comments symbols text.toList
  rw [bare_of_tokens h, ← forms_bare] at hforms
  obtain ⟨houtcome, hsymbols⟩ := Prod.mk.inj hforms
  refine ⟨?_, hsymbols⟩
  rw [readAll, readAll, fault_report, fault_report, houtcome]

lemma read_of_tokens (h : tokens comments text.toList = tokens comments' text'.toList)
    (symbols : SymbolTable) : Same (read comments text symbols) (read comments' text' symbols) := by
  have hform := form?_bare comments symbols text.toList
  rw [bare_of_tokens h, ← form?_bare] at hform
  obtain ⟨houtcome, hsymbols⟩ := Prod.mk.inj hform
  refine ⟨?_, hsymbols⟩
  rw [read, read, fault_report, fault_report, houtcome]

end Tokens

end Reader

namespace Decimal

def isNumeralChar (c : Char) : Bool :=
  c.isDigit || c == '+' || c == '-' || c == '.' || c == 'e' || c == 'E'

variable {cs : List Char} {c : Char}

lemma isNumeralChar_of_isDigit (hc : c.isDigit = true) : isNumeralChar c = true := by
  simp [isNumeralChar, hc]

lemma mem_splitSign (hc : c ∈ cs) : isNumeralChar c = true ∨ c ∈ (splitSign cs).2 := by
  unfold splitSign
  split
  · rcases List.mem_cons.1 hc with rfl | hc
    · exact .inl (by decide)
    · exact .inr hc
  · rcases List.mem_cons.1 hc with rfl | hc
    · exact .inl (by decide)
    · exact .inr hc
  · exact .inr hc

lemma mem_whole (hc : c ∈ cs) : isNumeralChar c = true ∨ c ∈ cs.dropWhile Char.isDigit := by
  rw [← List.takeWhile_append_dropWhile (p := Char.isDigit) (l := cs), List.mem_append] at hc
  refine hc.imp_left fun hc => ?_
  exact isNumeralChar_of_isDigit (List.all_eq_true.1 List.all_takeWhile c hc)

lemma mem_splitFraction (hc : c ∈ cs) :
    isNumeralChar c = true ∨ c ∈ (splitFraction cs).2 := by
  unfold splitFraction
  split
  · rcases List.mem_cons.1 hc with rfl | hc
    · exact .inl (by decide)
    · exact mem_whole hc
  · exact .inr hc

lemma mem_exponent {e : Int} (h : exponentOf? cs = some e) (hc : c ∈ cs) :
    isNumeralChar c = true := by
  unfold exponentOf? at h
  split at h
  · cases hc
  · simp only [Option.ite_none_right_eq_some, Bool.and_eq_true, Bool.or_eq_true, beq_iff_eq,
      List.all_eq_true] at h
    obtain ⟨⟨⟨hmark, -⟩, hdigits⟩, -⟩ := h
    rcases List.mem_cons.1 hc with rfl | hc
    · rcases hmark with rfl | rfl <;> decide
    · exact (mem_splitSign hc).elim id fun hc => isNumeralChar_of_isDigit (hdigits c hc)

lemma isNumeralChar_of_ofChars? {d : Decimal} (h : ofChars? cs = some d) (hc : c ∈ cs) :
    isNumeralChar c = true := by
  unfold ofChars? at h
  simp only [Option.ite_none_left_eq_some, Option.map_eq_some_iff] at h
  obtain ⟨-, e, he, -⟩ := h
  rcases mem_splitSign hc with hc | hc
  · exact hc
  rcases mem_whole hc with hc | hc
  · exact hc
  rcases mem_splitFraction hc with hc | hc
  · exact hc
  · exact mem_exponent he hc

end Decimal

namespace Reader

lemma ofChars_of_semicolon {name : List Char} (h : ';' ∈ name) :
    Atom.ofChars name = .name (String.ofList name) := by
  unfold Atom.ofChars
  split
  · next hname => simp [hname] at h
  split
  · next hname => simp [hname] at h
  split
  · next hd => exact absurd (Decimal.isNumeralChar_of_ofChars? hd h) (by decide)
  · rfl

end Reader

inductive Value.Marked : Value → Prop
  | symbol {s : Symbol} : ';' ∈ s.name.toList → Marked (.symbol s)
  | list {v : Value} {vs : List Value} : v ∈ vs → Marked v → Marked (.list vs)

lemma Value.marked_list {vs : List Value} : (list vs).Marked ↔ ∃ v ∈ vs, v.Marked := by
  constructor
  · rintro ⟨⟩
    exact ⟨_, ‹_›, ‹_›⟩
  · rintro ⟨v, hv, hm⟩
    exact .list hv hm

namespace Reader

lemma marked_value (name : List Char) (symbols : SymbolTable) :
    ((Atom.ofChars name).value symbols).1.Marked ↔ ';' ∈ name := by
  constructor
  · intro h
    by_contra hname
    unfold Atom.ofChars at h
    split at h
    · cases h
    split at h
    · cases h
    split at h
    · cases h
    · cases h with
      | symbol hs => simp [hname] at hs
  · intro h
    rw [ofChars_of_semicolon h]
    exact .symbol (by simpa using h)

def Token.Marked : Token → Prop
  | .atom name => ';' ∈ name
  | _ => False

namespace Progress

variable {p q : Progress} {l : Lexeme} {ls : List Lexeme}

def values (p : Progress) : List Value :=
  p.pending.flatMap OpenList.elements ++ p.forms

lemma values_add (p : Progress) (v : Value) : (p.add v).values = v :: p.values := by
  obtain ⟨_, pending, _⟩ := p
  cases pending <;> rfl

lemma marked_add (p : Progress) (v : Value) :
    (∃ u ∈ (p.add v).values, u.Marked) ↔ v.Marked ∨ ∃ u ∈ p.values, u.Marked := by
  rw [values_add, List.exists_mem_cons_iff]

lemma marked_close {o : OpenList} {os : List OpenList} (hp : p.pending = o :: os) :
    (∃ u ∈ ({ p with pending := os }.add (.list o.elements.reverse)).values, u.Marked) ↔
      ∃ u ∈ p.values, u.Marked := by
  rw [marked_add, Value.marked_list]
  simp [values, hp, or_and_right, exists_or]

lemma marked_step (h : p.step l = .ok q) :
    (∃ v ∈ q.values, v.Marked) ↔ l.token.Marked ∨ ∃ v ∈ p.values, v.Marked := by
  unfold step at h
  cases ht : l.token with
  | closing =>
    simp only [ht, close] at h
    cases hp : p.pending with
    | nil => simp [hp] at h
    | cons o os =>
      simp only [hp] at h
      obtain rfl := Except.ok.inj h
      rw [marked_close hp]
      exact (or_iff_right id).symm
  | opening =>
    simp only [ht] at h
    obtain rfl := Except.ok.inj (inside_ok h).2
    exact (or_iff_right id).symm
  | string body =>
    simp only [ht] at h
    obtain rfl := Except.ok.inj (inside_ok h).2
    have hstring : ¬ (Value.string (String.ofList body)).Marked := by rintro ⟨⟩
    rw [marked_add, or_iff_right hstring]
    exact (or_iff_right id).symm
  | atom name =>
    simp only [ht] at h
    obtain rfl := Except.ok.inj (inside_ok h).2
    rw [addAtom_eq, marked_add, marked_value]
    rfl
  | unterminated =>
    simp only [ht] at h
    cases (inside_ok h).2
  | stray =>
    simp only [ht] at h
    cases (inside_ok h).2

lemma token_of_step (h : p.step l = .ok q) : l.token ≠ .unterminated ∧ l.token ≠ .stray := by
  constructor
  all_goals
    intro ht
    simp only [step, ht] at h
    cases (inside_ok h).2

lemma marked_run (h : p.run ls = (q, .ok ())) :
    ((∃ v ∈ q.values, v.Marked) ↔ (∃ l ∈ ls, l.token.Marked) ∨ ∃ v ∈ p.values, v.Marked) ∧
      ∀ l ∈ ls, l.token ≠ .unterminated ∧ l.token ≠ .stray := by
  induction ls generalizing p with
  | nil =>
    obtain ⟨rfl, -⟩ := Prod.mk.inj h
    simp
  | cons l ls ih =>
    obtain ⟨r, hstep, hrun⟩ := run_cons_ok h
    obtain ⟨hmarked, htokens⟩ := ih hrun
    refine ⟨?_, List.forall_mem_cons.2 ⟨token_of_step hstep, htokens⟩⟩
    rw [hmarked, marked_step hstep, List.exists_mem_cons_iff, or_assoc]
    exact or_left_comm

end Progress

lemma marked_forms {comments : Bool} {cs : List Char} {symbols symbols' : SymbolTable}
    {vs : List Value} (h : forms comments symbols cs = (.ok vs, symbols')) :
    ((∃ v ∈ vs, v.Marked) ↔ ∃ t ∈ tokens comments cs, t.Marked) ∧
      ∀ t ∈ tokens comments cs, t ≠ .unterminated ∧ t ≠ .stray := by
  obtain ⟨p, hp, hw, hvalues⟩ := forms_ok_iff.1 h
  have hrun := run_of_derives symbols hp hw
  rw [hvalues] at hrun
  obtain ⟨hmarked, htokens⟩ := Progress.marked_run hrun
  constructor
  · simpa [Progress.values, Progress.start, tokens] using hmarked
  · simpa [tokens] using htokens

end Reader

end SmallScheme
