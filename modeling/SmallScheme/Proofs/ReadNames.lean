import SmallScheme.Proofs.FirstForm
import SmallScheme.Proofs.Tokens
import SmallScheme.Proofs.VisibleNames

namespace SmallScheme

namespace SymbolTable

variable {t t' : SymbolTable} {s : Symbol}

def fresh (t : SymbolTable) (names : List String) : List String :=
  (names.filter (· ∉ t.names)).eraseDups

def internAll (t : SymbolTable) (names : List String) : SymbolTable :=
  names.foldl (fun t name => (t.intern name).2) t

lemma names_intern_of_mem {name : String} (h : name ∈ t.names) : (t.intern name).2 = t := by
  cases hget : t.get? name with
  | none => exact absurd h (not_mem_of_get? hget)
  | some s => rw [intern_of_get? hget]

lemma names_intern_of_not_mem {name : String} (h : name ∉ t.names) :
    (t.intern name).2.names = t.names ++ [name] := by
  have hget : t.get? name = none := by simpa [get?] using h
  rw [intern, hget]

lemma names_internAll (t : SymbolTable) (names : List String) :
    (t.internAll names).names = t.names ++ t.fresh names := by
  induction names generalizing t with
  | nil => simp [internAll, fresh]
  | cons name names ih =>
    change ((t.intern name).2.internAll names).names = _
    rw [ih]
    by_cases h : name ∈ t.names
    · rw [names_intern_of_mem h]
      simp [fresh, h]
    · have hfilter : names.filter (· ∉ t.names ++ [name]) =
          (names.filter (· ∉ t.names)).filter (fun b => !b == name) := by
        rw [List.filter_filter]
        congr 1
        funext b
        simp [Bool.beq_eq_decide_eq, and_comm]
      rw [fresh, names_intern_of_not_mem h, hfilter, fresh, List.filter_cons_of_pos (by simpa using h),
        List.eraseDups_cons, List.append_assoc, List.singleton_append]

lemma Has.mono (h : t.Has s) (hle : t ≤ t') : t'.Has s := by
  obtain ⟨more, hmore⟩ := hle
  obtain ⟨i, hi, hs⟩ := Option.map_eq_some_iff.1 h
  obtain ⟨hlt, hname, hfirst⟩ := List.idxOf?_eq_some_iff.1 hi
  rw [Has, get?, ← hmore, Option.map_eq_some_iff]
  refine ⟨i, List.idxOf?_eq_some_iff.2 ⟨by simp; omega, ?_, fun j hj => ?_⟩, hs⟩
  · rw [List.getElem_append_left hlt, hname]
  · rw [List.getElem_append_left (hj.trans hlt)]
    exact hfirst j hj

lemma has_intern (t : SymbolTable) (name : String) : (t.intern name).2.Has (t.intern name).1 := by
  cases hget : t.get? name with
  | some s =>
    rw [intern_of_get? hget]
    rw [Has, name_of_get? hget, hget]
  | none =>
    have hintern : t.intern name = (⟨t.names.length, name⟩, ⟨t.names ++ [name]⟩) := by
      rw [intern, hget, size]
    have hnew := not_mem_of_get? hget
    rw [hintern, Has, get?, Option.map_eq_some_iff]
    refine ⟨t.names.length, List.idxOf?_eq_some_iff.2 ⟨by simp, by simp, fun j hj => ?_⟩, rfl⟩
    rw [List.getElem_append_left hj]
    rintro (rfl : t.names[j] = name)
    exact hnew (List.getElem_mem hj)

end SymbolTable

namespace Value

mutual

def symbols : Value → List Symbol
  | symbol s => [s]
  | list vs => symbolsAll vs
  | _ => []

def symbolsAll : List Value → List Symbol
  | [] => []
  | v :: vs => symbols v ++ symbolsAll vs

end

lemma symbolsAll_append (vs ws : List Value) :
    symbolsAll (vs ++ ws) = symbolsAll vs ++ symbolsAll ws := by
  induction vs with
  | nil => rfl
  | cons v vs ih => simp [symbolsAll, ih]

lemma mem_symbolsAll {s : Symbol} {vs : List Value} :
    s ∈ symbolsAll vs ↔ ∃ v ∈ vs, s ∈ v.symbols := by
  induction vs with
  | nil => simp [symbolsAll]
  | cons v vs ih => simp [symbolsAll, ih]

end Value

namespace Reader

open Text Grammar

def Token.name? : Token → Option String
  | .atom cs =>
    if cs = "#t".toList ∨ cs = "#f".toList ∨ (Decimal.ofChars? cs).isSome then none
    else some (String.ofList cs)
  | _ => none

def names (ts : List Token) : List String :=
  ts.filterMap Token.name?

lemma names_cons (t : Token) (ts : List Token) : names (t :: ts) = t.name?.toList ++ names ts := by
  rw [names, List.filterMap_cons]
  cases t.name? <;> rfl

lemma ofChars_name? (cs : List Char) :
    match (Token.atom cs).name? with
    | none => ∀ symbols, ((Atom.ofChars cs).value symbols).2 = symbols ∧
        ((Atom.ofChars cs).value symbols).1.symbols = []
    | some name => Atom.ofChars cs = .name name := by
  rw [Token.name?, Atom.ofChars]
  have htrue : "#t".toList = ['#', 't'] := rfl
  have hfalse : "#f".toList = ['#', 'f'] := rfl
  by_cases ht : cs = ['#', 't']
  · simp [ht, Atom.value, Value.symbols]
  by_cases hf : cs = ['#', 'f']
  · simp [hf, Atom.value, Value.symbols]
  cases Decimal.ofChars? cs with
  | some d => simp [ht, hf, Atom.value, Value.symbols]
  | none => simp [ht, hf]

namespace Progress

variable {p q r : Progress} {l : Lexeme} {ls ls' : List Lexeme} {f : Failure}

def met (p : Progress) : List Symbol :=
  Value.symbolsAll p.values.reverse

structure Enters (p : Progress) (names : List String) (q : Progress) : Prop where
  symbols : q.symbols = p.symbols.internAll names
  met : q.met.map Symbol.name = p.met.map Symbol.name ++ names
  has : (∀ s ∈ p.met, p.symbols.Has s) → ∀ s ∈ q.met, q.symbols.Has s

lemma enters_nothing (hsymbols : q.symbols = p.symbols) (hmet : q.met = p.met) :
    p.Enters [] q where
  symbols := hsymbols
  met := by rw [hmet, List.append_nil]
  has hp := by rwa [hmet, hsymbols]

lemma Enters.trans {names names' : List String} (h : p.Enters names q) (h' : q.Enters names' r) :
    p.Enters (names ++ names') r where
  symbols := by rw [h'.symbols, h.symbols, SymbolTable.internAll, SymbolTable.internAll,
    SymbolTable.internAll, List.foldl_append]
  met := by rw [h'.met, h.met, List.append_assoc]
  has hp := h'.has (h.has hp)

lemma met_add (p : Progress) (v : Value) : (p.add v).met = p.met ++ v.symbols := by
  rw [met, values_add, List.reverse_cons, Value.symbolsAll_append]
  simp [Value.symbolsAll, met]

lemma met_close {o : OpenList} {os : List OpenList} (hp : p.pending = o :: os) :
    ({ p with pending := os }.add (.list o.elements.reverse)).met = p.met := by
  have hvalues : p.values = o.elements ++ ({ p with pending := os } : Progress).values := by
    simp [values, hp]
  rw [met_add, met, met, hvalues, List.reverse_append, Value.symbolsAll_append, Value.symbols]

lemma enters_constant {v : Value} (hv : v.symbols = []) : p.Enters [] (p.add v) :=
  enters_nothing (symbols_add p v) (by rw [met_add, hv, List.append_nil])

lemma enters_atom (p : Progress) (cs : List Char) :
    p.Enters (Token.atom cs).name?.toList (p.addAtom (Atom.ofChars cs)) := by
  have hname := ofChars_name? cs
  cases h : (Token.atom cs).name? with
  | none =>
    rw [h] at hname
    obtain ⟨hsymbols, hv⟩ := hname p.symbols
    rw [addAtom_eq, hsymbols]
    exact enters_constant hv
  | some name =>
    rw [h] at hname
    have hmet : (p.addAtom (Atom.ofChars cs)).met = p.met ++ [(p.symbols.intern name).1] := by
      rw [addAtom_eq, met_add, hname]
      rfl
    have hsymbols : (p.addAtom (Atom.ofChars cs)).symbols = (p.symbols.intern name).2 := by
      rw [addAtom_eq, symbols_add, hname]
      rfl
    refine ⟨hsymbols, by simp [hmet], fun hp s hs => ?_⟩
    rw [hsymbols]
    rw [hmet, List.mem_append, List.mem_singleton] at hs
    rcases hs with hs | rfl
    · exact (hp s hs).mono (SymbolTable.le_intern _ _)
    · exact SymbolTable.has_intern _ _

lemma enters_step (h : p.step l = .ok q) : p.Enters l.token.name?.toList q := by
  rw [step] at h
  cases ht : l.token with
  | closing =>
    simp only [ht, close] at h
    cases hp : p.pending with
    | nil => simp [hp] at h
    | cons o os =>
      simp only [hp] at h
      obtain rfl := Except.ok.inj h
      exact enters_nothing (symbols_add _ _) (met_close hp)
  | opening =>
    simp only [ht] at h
    obtain rfl := Except.ok.inj (inside_ok h).2
    exact enters_nothing rfl rfl
  | string body =>
    simp only [ht] at h
    obtain rfl := Except.ok.inj (inside_ok h).2
    exact enters_constant rfl
  | atom cs =>
    simp only [ht] at h
    obtain rfl := Except.ok.inj (inside_ok h).2
    exact enters_atom p cs
  | unterminated =>
    simp only [ht] at h
    cases (inside_ok h).2
  | stray =>
    simp only [ht] at h
    cases (inside_ok h).2

lemma rest_of_inside_error {next : Except Failure Progress} (h : p.inside l next = .error f)
    (hnext : next = .error f → f.rest = l.start ∧ f.cause ≠ .unclosed ∧ f.cause ≠ .trailing) :
    f.rest = l.start ∧ f.cause ≠ .unclosed ∧ f.cause ≠ .trailing := by
  rw [inside] at h
  split_ifs at h
  · exact hnext h
  · obtain rfl := Except.error.inj h
    simp

lemma rest_of_step_error (h : p.step l = .error f) :
    f.rest = l.start ∧ f.cause ≠ .unclosed ∧ f.cause ≠ .trailing := by
  rw [step] at h
  split at h
  · rw [close] at h
    split at h
    · obtain rfl := Except.error.inj h
      simp
    · cases h
  all_goals
    refine rest_of_inside_error h fun hnext => ?_
    cases hnext
  all_goals simp

lemma run_steps {outcome : Except Failure Unit} (h : p.run ls = (q, outcome)) :
    ∃ ls', Steps p ls q ls' ∧ (ls' = [] ∧ q.finish = outcome ∨
      ∃ l more f, ls' = l :: more ∧ q.step l = .error f ∧ outcome = .error f) := by
  induction ls generalizing p with
  | nil =>
    obtain ⟨rfl, hfinish⟩ := Prod.mk.inj h
    exact ⟨[], .refl, .inl ⟨rfl, hfinish⟩⟩
  | cons l ls ih =>
    cases hstep : p.step l with
    | error f =>
      simp only [run, hstep, Prod.mk.injEq] at h
      obtain ⟨rfl, rfl⟩ := h
      exact ⟨l :: ls, .refl, .inr ⟨l, ls, f, rfl, hstep, rfl⟩⟩
    | ok r =>
      simp only [run, hstep] at h
      obtain ⟨ls', hsteps, hend⟩ := ih h
      exact ⟨ls', .head hstep hsteps, hend⟩

end Progress

lemma Steps.enters {p q : Progress} {ls ls' : List Lexeme} (h : Steps p ls q ls') :
    ∃ taken, ls = taken ++ ls' ∧ p.Enters (names (taken.map Lexeme.token)) q := by
  induction h with
  | @refl p ls => exact ⟨[], rfl, Progress.enters_nothing rfl rfl⟩
  | @head p q r l ls ls' hstep _ ih =>
    obtain ⟨taken, rfl, henters⟩ := ih
    refine ⟨l :: taken, rfl, ?_⟩
    rw [List.map_cons, names_cons]
    exact (Progress.enters_step hstep).trans henters

variable {comments : Bool} {cs : List Char}

lemma follows_append (cs rest : List Char) : Follows (cs ++ rest) cs := by
  have hend : Follows rest [] := by simp [Follows]
  simpa using hend.append cs

lemma lexemes_eq_cons {l : Lexeme} {ls : List Lexeme} (h : lexemes comments cs = l :: ls) :
    ∃ gap ds, cs = Gap.text gap ++ ds ∧ gap.Stands comments ds ∧ NoTrivia comments ds ∧
      lexemeAt ds = some l ∧ lexemes comments l.rest = ls := by
  obtain ⟨gap, hcs, hg, hn⟩ := skipBlank_spec comments cs
  generalize skipBlank comments cs = ds at hcs hg hn
  subst hcs
  rw [lexemes_gap hg, lexemes_of_noTrivia hn] at h
  cases hl : lexemeAt ds with
  | none => simp [hl] at h
  | some l' =>
    simp only [hl, List.cons.injEq] at h
    obtain ⟨rfl, hls⟩ := h
    exact ⟨gap, ds, rfl, hg, hn, hl, hls⟩

lemma Lexed.lexeme {ds before start : List Char} {l : Lexeme} {ts : List Token}
    (h : Lexed comments before ts) (hl : lexemeAt ds = some l) (hn : NoTrivia comments ds)
    (hrest : l.rest = before ++ start) (hne : l.rest ≠ []) :
    ∃ before, ds = before ++ start ∧ Lexed comments before (l.token :: ts) := by
  rcases lexemeAt_cases hl hn with ⟨ht, hd⟩ | ⟨ht, hd⟩ | ⟨body, ht, hb, hd⟩ |
    ⟨name, ht, hs, hd⟩ | ⟨-, after, rfl, hq⟩ | ⟨-, c, after, rfl, hspace, -⟩
  · rw [ht, hd, hrest]
    exact ⟨'(' :: before, rfl, .opening h⟩
  · rw [ht, hd, hrest]
    exact ⟨')' :: before, rfl, .closing h⟩
  · rw [ht, hd, hrest]
    exact ⟨'"' :: (body ++ '"' :: before), by simp, .string hb h⟩
  · rw [hrest] at hs
    rw [ht, hd, hrest]
    exact ⟨name ++ before, by simp, .atom (hs.follow (follows_append _ _)) h⟩
  · rw [lexemeAt_unterminated hq] at hl
    obtain rfl := Option.some.inj hl
    exact absurd rfl hne
  · rw [lexemeAt_stray hspace] at hl
    obtain rfl := Option.some.inj hl
    exact absurd rfl hne

lemma lexed_before {taken more : List Lexeme} {l : Lexeme}
    (h : lexemes comments cs = taken ++ l :: more) :
    ∃ before, cs = before ++ l.start ∧ Lexed comments before (taken.map Lexeme.token) := by
  induction taken generalizing cs with
  | nil =>
    obtain ⟨gap, ds, rfl, hg, -, hl, -⟩ := lexemes_eq_cons h
    have hlexed := Lexed.gap (hg.follow (follows_append [] ds)) .nil
    rw [List.append_nil] at hlexed
    exact ⟨gap.text, by rw [lexemeAt_start hl], hlexed⟩
  | cons l' taken ih =>
    obtain ⟨gap, ds, rfl, hg, hn, hl, hls⟩ := lexemes_eq_cons h
    obtain ⟨before, hrest, hlexed⟩ := ih hls
    have hne : l'.rest ≠ [] := by
      intro hnil
      have hend : lexemes comments [] = [] := lexemes_of_noTrivia (by simp [NoTrivia])
      rw [hnil, hend] at hls
      exact List.append_ne_nil_of_right_ne_nil taken (List.cons_ne_nil l more) hls.symm
    obtain ⟨before', rfl, hlexed'⟩ := hlexed.lexeme hl hn hrest hne
    refine ⟨gap.text ++ before', by rw [List.append_assoc], ?_⟩
    exact Lexed.gap (hg.follow (follows_append _ _)) hlexed'

structure Entered (comments : Bool) (cs : List Char) (ts : List Token)
    (symbols symbols' : SymbolTable) : Prop where
  lexed : Lexed comments cs ts
  names : symbols'.names = symbols.names ++ symbols.fresh (names ts)

lemma Progress.Enters.entered {p q : Progress} {ts : List Token} (h : p.Enters (names ts) q)
    (hlexed : Lexed comments cs ts) : Entered comments cs ts p.symbols q.symbols :=
  ⟨hlexed, by rw [h.symbols, SymbolTable.names_internAll]⟩

variable {symbols symbols' : SymbolTable} {vs : List Value} {f : Failure}

lemma entered_of_forms (h : forms comments symbols cs = (.ok vs, symbols')) :
    ∃ ts, Entered comments cs ts symbols symbols' ∧
      (Value.symbolsAll vs).map Symbol.name = names ts ∧
      ∀ s ∈ Value.symbolsAll vs, symbols'.Has s := by
  cases hrun : (Progress.start symbols).run (lexemes comments cs) with
  | mk q outcome =>
    simp only [forms, hrun, Prod.mk.injEq] at h
    obtain ⟨houtcome, rfl⟩ := h
    obtain ⟨ls', hsteps, ⟨rfl, hfinish⟩ | ⟨l, more, f, rfl, -, rfl⟩⟩ := Progress.run_steps hrun
    · cases outcome with
      | error f => cases houtcome
      | ok u =>
        obtain ⟨taken, htaken, henters⟩ := hsteps.enters
        rw [List.append_nil] at htaken
        rw [← htaken] at henters
        have hmet : q.met = Value.symbolsAll vs := by
          rw [← Except.ok.inj houtcome, Progress.met, Progress.values,
            Progress.finish_ok_iff.1 hfinish, List.flatMap_nil, List.nil_append]
        refine ⟨tokens comments cs, henters.entered (lexed comments cs), ?_, ?_⟩
        · rw [← hmet, henters.met]
          rfl
        · rw [← hmet]
          exact henters.has (by simp [Progress.met, Progress.values, Progress.start,
            Value.symbolsAll])
    · cases houtcome

lemma entered_of_forms_error (h : forms comments symbols cs = (.error f, symbols'))
    {before : List Char} (hcs : cs = before ++ f.rest) :
    f.cause ≠ .trailing ∧ ∃ ts,
      Entered comments (if f.cause = .unclosed then cs else before) ts symbols symbols' := by
  cases hrun : (Progress.start symbols).run (lexemes comments cs) with
  | mk q outcome =>
    simp only [forms, hrun, Prod.mk.injEq] at h
    obtain ⟨houtcome, rfl⟩ := h
    obtain ⟨ls', hsteps, hend⟩ := Progress.run_steps hrun
    obtain ⟨taken, htaken, henters⟩ := hsteps.enters
    rcases hend with ⟨rfl, hfinish⟩ | ⟨l, more, f', rfl, hstep, rfl⟩
    · rw [List.append_nil] at htaken
      rw [← htaken] at henters
      rw [Progress.finish] at hfinish
      split at hfinish
      · subst hfinish
        cases houtcome
      · subst hfinish
        obtain rfl := Except.error.inj houtcome
        exact ⟨by simp, tokens comments cs, henters.entered (lexed comments cs)⟩
    · obtain rfl : f' = f := Except.error.inj houtcome
      obtain ⟨hrest, hclosed, htrailing⟩ := Progress.rest_of_step_error hstep
      obtain ⟨before', hcs', hlexed⟩ := lexed_before htaken
      rw [hrest] at hcs
      obtain rfl : before' = before := List.append_cancel_right (hcs'.symm.trans hcs)
      rw [if_neg hclosed]
      exact ⟨htrailing, _, henters.entered hlexed⟩

lemma Begins.before {t : Tree} {c : Char} {after : List Char}
    (h : Begins comments cs t (c :: after)) :
    ∃ before, cs = before ++ c :: after ∧ Begins comments before t [] := by
  obtain ⟨gap, gap', rfl, hg, hs, hg', hw, -⟩ := h
  have hend : Follows (c :: after) [] := by simp [Follows]
  have hgap' := hend.append gap'.text
  refine ⟨gap.text ++ (t.text ++ gap'.text), by simp, gap, gap', by simp, ?_, hs.follow hgap',
    hg'.follow hend, hw, by simp [NoTrivia]⟩
  exact hg.follow (hgap'.append t.text)

lemma read_of_begins {cs : List Char} {t : Tree} (h : Begins comments cs t [])
    (symbols : SymbolTable) : read comments (String.ofList cs) symbols =
      (.ok (some (t.value symbols).1), (t.value symbols).2) := by
  rw [read, String.toList_ofList, h.form?_alone symbols]
  rfl

structure Stopped (comments : Bool) (text : String) (symbols symbols' : SymbolTable)
    (err : ReadError) (f : Failure) (before : List Char) (ts : List Token) : Prop where
  place : text.toList = before ++ f.rest
  reports : err.Reports f text.toList (byteLength before)
  entered : Entered comments (if f.cause = .unclosed then text.toList else before) ts
    symbols symbols'
  first : f.cause = .trailing →
    ∃ x, read comments (String.ofList before) symbols = (.ok (some x), symbols') ∧
      x.symbols.map Symbol.name = names ts

variable {text : String} {err : ReadError}

lemma stopped_of_readAll (h : readAll comments text symbols = (.error err, symbols')) :
    ∃ f before ts, Stopped comments text symbols symbols' err f before ts := by
  obtain ⟨f, before, hforms, htext, -, rfl⟩ := forms_error h
  obtain ⟨hcause, ts, hentered⟩ := entered_of_forms_error hforms htext
  have hreports := f.reports before
  rw [← htext] at hreports
  exact ⟨f, before, ts, htext, hreports, hentered, fun htrailing => absurd htrailing hcause⟩

lemma stopped_of_begins {t : Tree} {c : Char} {after : List Char}
    (hbegins : Begins comments text.toList t (c :: after))
    (h : read comments text symbols = (.error err, symbols')) :
    ∃ f before ts, Stopped comments text symbols symbols' err f before ts := by
  obtain ⟨before, htext, halone⟩ := hbegins.before
  let f : Failure := ⟨if c = ')' then .unexpectedClose else .trailing, c :: after⟩
  have hread := read_of_begins halone symbols
  rw [read_of_form? (hbegins.form?_followed symbols)] at h
  obtain ⟨herr, rfl⟩ := Prod.mk.inj h
  obtain rfl := Except.error.inj herr
  obtain ⟨ts, hentered, hnames, -⟩ := entered_of_forms (read_ok_iff.1 hread)
  have hcause : f.cause ≠ .unclosed := by
    change (if c = ')' then Cause.unexpectedClose else Cause.trailing) ≠ .unclosed
    split_ifs <;> simp
  have hreports := f.reports before
  rw [String.toList_ofList] at hentered
  refine ⟨f, before, ts, htext, htext ▸ hreports, ?_, fun _ => ⟨_, hread, ?_⟩⟩
  · rwa [if_neg hcause]
  · simpa [Value.symbolsAll] using hnames

lemma stopped_of_read (h : read comments text symbols = (.error err, symbols')) :
    ∃ f before ts, Stopped comments text symbols symbols' err f before ts := by
  by_cases hfirst : ∃ t rest, Begins comments text.toList t rest
  · obtain ⟨t, rest, hbegins⟩ := hfirst
    cases rest with
    | nil =>
      have hread := read_of_begins hbegins symbols
      rw [String.ofList_toList, h] at hread
      cases hread
    | cons c after => exact stopped_of_begins hbegins h
  · exact stopped_of_readAll ((read_error_iff fun t rest hb => hfirst ⟨t, rest, hb⟩).1 h)

/-- Reading changes the symbol table in one way: the names among the tokens it takes are entered as
they come up. A text that can be read is taken as a whole, and the symbols in its forms, from left
to right, have these names; otherwise it is taken up to the place that the error reports. -/
theorem reading_enters_names (comments : Bool) (text : String) (symbols : SymbolTable) :
    (∀ vs symbols', (readAll comments text symbols = (.ok vs, symbols') ∨
        ∃ form : Option Value, form.toList = vs ∧
          read comments text symbols = (.ok form, symbols')) →
      ∃ ts, Entered comments text.toList ts symbols symbols' ∧
        (Value.symbolsAll vs).map Symbol.name = names ts ∧
        ∀ s ∈ Value.symbolsAll vs, symbols'.get? s.name = some s) ∧
    ∀ err symbols', (readAll comments text symbols = (.error err, symbols') ∨
        read comments text symbols = (.error err, symbols')) →
      ∃ f before ts, Stopped comments text symbols symbols' err f before ts := by
  constructor
  · rintro vs symbols' (h | ⟨form, rfl, h⟩)
    · exact entered_of_forms (readAll_ok_iff.1 h)
    · exact entered_of_forms (read_ok_iff.1 h)
  · rintro err symbols' (h | h)
    · exact stopped_of_readAll h
    · exact stopped_of_read h

theorem reading_enters_names_both : (∃ ts,
    Entered true "(f x \"y\" f) ; z".toList ts ⟨["x"]⟩ ⟨["x", "f"]⟩ ∧ names ts = ["f", "x", "f"]) ∧
    ∃ err f before ts, readAll true "(g (x #t \"z\" h" ⟨["x"]⟩ = (.error err, ⟨["x", "g", "h"]⟩) ∧
      Stopped true "(g (x #t \"z\" h" ⟨["x"]⟩ ⟨["x", "g", "h"]⟩ err f before ts := by
  have hread : readAll true "(f x \"y\" f) ; z" ⟨["x"]⟩ =
      (.ok [.list [.symbol ⟨1, "f"⟩, .symbol ⟨0, "x"⟩, .string "y", .symbol ⟨1, "f"⟩]],
        ⟨["x", "f"]⟩) := by cbv
  have hfail : readAll true "(g (x #t \"z\" h" ⟨["x"]⟩ =
      (.error ⟨.unmatchedParen, "Unclosed '(' at position 3", some "(g (x #t \"z\" h", some "("⟩,
        ⟨["x", "g", "h"]⟩) := by cbv
  constructor
  · obtain ⟨ts, hentered, hnames, -⟩ := (reading_enters_names true _ ⟨["x"]⟩).1 _ _ (.inl hread)
    exact ⟨ts, hentered, hnames.symm⟩
  · obtain ⟨f, before, ts, hstopped⟩ := (reading_enters_names true _ ⟨["x"]⟩).2 _ _ (.inl hfail)
    exact ⟨_, f, before, ts, hfail, hstopped⟩

end Reader

end SmallScheme
