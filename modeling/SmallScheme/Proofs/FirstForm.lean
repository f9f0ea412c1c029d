import SmallScheme.Proofs.ReadLines
import SmallScheme.Proofs.RunLog

/-! The first form of a text, and what follows it. Reading the only form of a text and reading all
of its forms part ways after the first form, if anything but a parenthesis too many stands there. -/

namespace SmallScheme

namespace Reader

open Text Grammar

def Begins (comments : Bool) (cs : List Char) (t : Tree) (rest : List Char) : Prop :=
  ∃ gap gap' : Gap, cs = gap.text ++ (t.text ++ (gap'.text ++ rest)) ∧
    gap.Stands comments (t.text ++ (gap'.text ++ rest)) ∧ t.Stands comments (gap'.text ++ rest) ∧
    gap'.Stands comments rest ∧ t.Within 0 ∧ NoTrivia comments rest

lemma Begins.suffix {comments : Bool} {cs rest : List Char} {t : Tree}
    (h : Begins comments cs t rest) : rest <:+ cs := by
  obtain ⟨gap, gap', rfl, -⟩ := h
  exact ⟨gap.text ++ (t.text ++ gap'.text), by simp⟩

variable {comments : Bool} {p q r : Progress} {ls ls' : List Lexeme}

namespace Progress

lemma count_le_step {l : Lexeme} (h : p.step l = .ok q) : p.count ≤ q.count := by
  rw [count_step h, count]
  omega

def IsSingle (p : Progress) : Prop :=
  p.forms.length = 1 ∧ p.pending = []

lemma isSingle_of_step {l : Lexeme} (hp : p.forms = []) (h : p.step l = .ok q)
    (hq : q.forms ≠ []) : q.IsSingle := by
  have hcount := count_step h
  have hlength : 0 < q.forms.length := List.length_pos_iff.2 hq
  rw [hp, List.length_nil, count] at hcount
  have hpending : q.pending.length = 0 := by omega
  exact ⟨by omega, List.length_eq_zero_iff.1 hpending⟩

lemma runFirst_cases (hp : p.forms = []) (ls : List Lexeme) :
    (∃ q f, p.runFirst ls = (q, .error f) ∧ p.run ls = (q, .error f)) ∨
    (∃ q, p.runFirst ls = (q, .ok []) ∧ p.run ls = (q, .ok ()) ∧ q.forms = []) ∨
    ∃ q ls', p.runFirst ls = (q, .ok ls') ∧ Steps p ls q ls' ∧ q.IsSingle := by
  induction ls generalizing p with
  | nil =>
    cases hfinish : p.finish with
    | error f => exact .inl ⟨p, f, by simp [runFirst, hfinish, Except.map], by simp [run, hfinish]⟩
    | ok u =>
      refine .inr (.inl ⟨p, ?_, ?_, hp⟩)
      · simp [runFirst, hfinish, Except.map]
      · simp [run, hfinish]
  | cons l ls ih =>
    cases hstep : p.step l with
    | error f => exact .inl ⟨p, f, by simp [runFirst, hstep], by simp [run, hstep]⟩
    | ok r =>
      simp only [runFirst, run, hstep]
      by_cases hr : r.forms = []
      · rw [if_pos (List.isEmpty_iff.2 hr)]
        rcases ih hr with herror | hblank | ⟨q, ls', hrun, hsteps, hsingle⟩
        · exact .inl herror
        · exact .inr (.inl hblank)
        · exact .inr (.inr ⟨q, ls', hrun, .head hstep hsteps, hsingle⟩)
      · rw [if_neg (by simpa using hr)]
        exact .inr (.inr ⟨r, ls, rfl, .head hstep .refl, isSingle_of_step hp hstep hr⟩)

end Progress

lemma Steps.count_le (h : Steps p ls q ls') : p.count ≤ q.count := by
  induction h with
  | refl => exact Nat.le_refl _
  | head hstep _ ih => exact (Progress.count_le_step hstep).trans ih

lemma Steps.runFirst_eq (h : Steps p ls q ls') (hp : p.forms = []) (hq : q.IsSingle) :
    p.runFirst ls = (q, .ok ls') := by
  induction h with
  | @refl p ls =>
    have hlength := hq.1
    simp [hp] at hlength
  | @head p r q l ls ls' hstep h ih =>
    rw [Progress.runFirst]
    simp only [hstep]
    by_cases hr : r.forms = []
    · rw [if_pos (List.isEmpty_iff.2 hr)]
      exact ih hr hq
    · rw [if_neg (by simpa using hr)]
      cases h with
      | refl => rfl
      | @head _ r' _ l' ls _ hstep' h' =>
        -- Another step would have begun a second form.
        have hlength := (Progress.isSingle_of_step hp hstep hr).1
        have hcount := h'.count_le
        rw [Progress.count_step hstep', Progress.count, hq.1, hq.2, hlength] at hcount
        simp at hcount

lemma length_values (symbols : SymbolTable) (t : Tree) (gap : Gap) (rest : Forms) :
    ((Forms.cons t gap rest).values symbols).1.length =
      (rest.values (t.value symbols).2).1.length + 1 := by
  rw [Forms.values_cons, List.length_cons]

section Begins

variable {text cs rest : List Char} {t : Tree}

lemma Opened.follow (h : Opened comments text p.starts cs)
    (hsteps : Steps p (lexemes comments cs) q ls') :
    ∃ rest, ls' = lexemes comments rest ∧ Opened comments text q.starts rest := by
  generalize hls : lexemes comments cs = ls at hsteps
  induction hsteps generalizing cs with
  | refl => exact ⟨cs, hls.symm, h⟩
  | @head p r q l ls ls' hstep _ ih =>
    obtain ⟨gap, hcs, hg, hn⟩ := skipBlank_spec comments cs
    generalize skipBlank comments cs = ds at hcs hg hn
    subst hcs
    rw [lexemes_gap hg, lexemes_of_noTrivia hn] at hls
    cases hl : lexemeAt ds with
    | none => simp [hl] at hls
    | some l' =>
      simp only [hl, List.cons.injEq] at hls
      obtain ⟨rfl, hls⟩ := hls
      exact ih ((h.extend (.ofGap hg)).step hl hn hstep) hls

lemma Begins.steps (h : Begins comments cs t rest) (symbols : SymbolTable) :
    Steps (.start symbols) (lexemes comments cs)
      ⟨(t.value symbols).2, [], [(t.value symbols).1]⟩ (lexemes comments rest) := by
  obtain ⟨gap, gap', rfl, hg, hs, hg', hw, -⟩ := h
  have hsteps := tree_steps (p := .start symbols) hs hw
  rw [lexemes_gap hg'] at hsteps
  rw [lexemes_gap hg]
  exact hsteps

lemma begins_of_steps {symbols : SymbolTable} (hq : q.IsSingle)
    (h : Steps (.start symbols) (lexemes comments cs) q ls') :
    ∃ t rest, Begins comments cs t rest := by
  have htop : Opened comments cs (Progress.start symbols).starts cs := .top .refl
  obtain ⟨rest, rfl, hopened⟩ := htop.follow h
  have hstarts : q.starts = [] := by rw [Progress.starts, hq.2, List.map_nil]
  rw [hstarts] at hopened
  cases hopened with
  | top hsegment =>
    obtain ⟨gap, forms, rfl, hg, hf, hw⟩ := hsegment
    have hforms := forms_steps (p := .start symbols) hf hw
    rw [← lexemes_gap hg, Progress.addAll_of_top _ rfl] at hforms
    obtain rfl := h.unique hforms
    have hlength : (forms.values symbols).1.length = 1 := by
      simpa [Progress.start, Progress.withSymbols] using hq.1
    cases forms with
    | nil => cases hlength
    | cons t gap' others =>
      rw [length_values] at hlength
      cases others with
      | nil =>
        obtain ⟨gap'', hrest, hg'', hn⟩ := skipBlank_spec comments rest
        generalize skipBlank comments rest = ds at hrest hg'' hn
        subst hrest
        obtain ⟨hs, hg', -⟩ := hf
        refine ⟨t, ds, gap, gap' ++ gap'', ?_, ?_, ?_, hg'.append hg'', hw.1, hn⟩
        · simp [Forms.text, Gap.text_append]
        · simpa [Forms.text, Gap.text_append] using hg
        · simpa [Forms.text, Gap.text_append] using hs
      | cons t' gap'' others =>
        rw [length_values] at hlength
        omega

lemma lexemes_cons {c : Char} {after : List Char} (hn : NoTrivia comments (c :: after)) :
    ∃ l ls, lexemes comments (c :: after) = l :: ls ∧ l.start = c :: after ∧
      (l.token = .closing ↔ c = ')') := by
  cases hl : lexemeAt (c :: after) with
  | none => cases lexemeAt_eq_none hl
  | some l =>
    refine ⟨l, lexemes comments l.rest, ?_, lexemeAt_start hl, fun ht => ?_, ?_⟩
    · rw [lexemes_of_noTrivia hn, hl]
    · rcases lexemeAt_cases hl hn with ⟨h, -⟩ | ⟨-, h⟩ | ⟨_, h, -⟩ | ⟨_, h, -⟩ | ⟨h, -⟩ | ⟨h, -⟩
      · cases ht.symm.trans h
      · exact (List.cons.inj h).1
      all_goals cases ht.symm.trans h
    · rintro rfl
      cases hl
      rfl

lemma Begins.form?_alone (h : Begins comments cs t []) (symbols : SymbolTable) :
    form? comments symbols cs = (.ok (some (t.value symbols).1), (t.value symbols).2) := by
  have hrun := (h.steps symbols).runFirst_eq rfl ⟨rfl, rfl⟩
  have hend : lexemes comments [] = [] := lexemes_of_noTrivia (by simp [NoTrivia])
  rw [hend] at hrun
  simp [form?, hrun]

lemma Begins.form?_followed {c : Char} {after : List Char}
    (h : Begins comments cs t (c :: after)) (symbols : SymbolTable) :
    form? comments symbols cs =
      (.error ⟨if c = ')' then .unexpectedClose else .trailing, c :: after⟩,
        (t.value symbols).2) := by
  have hrun := (h.steps symbols).runFirst_eq rfl ⟨rfl, rfl⟩
  obtain ⟨gap, gap', -, -, -, -, -, hn⟩ := h
  obtain ⟨l, ls, hls, hstart, htoken⟩ := lexemes_cons hn
  rw [hls] at hrun
  simp [form?, hrun, excess, hstart, htoken]

lemma Begins.forms_closing {after : List Char} (h : Begins comments cs t (')' :: after))
    (symbols : SymbolTable) :
    forms comments symbols cs = (.error ⟨.unexpectedClose, ')' :: after⟩, (t.value symbols).2) := by
  have hrun := (h.steps symbols).run_eq
  rw [lexemes_close] at hrun
  simp [forms, hrun, Progress.run, Progress.step, Progress.close, Except.map]

end Begins

section Agreement

variable {text : String} {symbols symbols' : SymbolTable}

lemma read_of_form? {f : Failure}
    (h : form? comments symbols text.toList = (.error f, symbols')) :
    read comments text symbols = (.error (f.report text.toList), symbols') := by
  rw [read, h]
  rfl

lemma readAll_of_forms {f : Failure}
    (h : forms comments symbols text.toList = (.error f, symbols')) :
    readAll comments text symbols = (.error (f.report text.toList), symbols') := by
  rw [readAll, h]
  rfl

lemma read_error_iff {err : ReadError} (h : ∀ t rest, ¬ Begins comments text.toList t rest) :
    read comments text symbols = (.error err, symbols') ↔
      readAll comments text symbols = (.error err, symbols') := by
  rcases Progress.runFirst_cases (p := .start symbols) rfl (lexemes comments text.toList) with
    ⟨q, f, hfirst, hall⟩ | ⟨q, hfirst, hall, -⟩ | ⟨q, ls', -, hsteps, hq⟩
  · simp [read, readAll, form?, forms, hfirst, hall, Except.map, Except.mapError]
  · simp [read, readAll, form?, forms, hfirst, hall, Except.map, Except.mapError]
  · obtain ⟨t, rest, hbegins⟩ := begins_of_steps hq hsteps
    exact absurd hbegins (h t rest)

lemma Failure.reports_of_suffix {f : Failure} {cs : List Char} (h : f.rest <:+ cs) :
    ∃ before, cs = before ++ f.rest ∧ (f.report cs).Reports f cs (byteLength before) := by
  obtain ⟨before, rfl⟩ := h
  exact ⟨before, rfl, f.reports before⟩

structure ReadersAgree (comments : Bool) (text : String) (symbols : SymbolTable) : Prop where
  value (form : Option Value) (symbols' : SymbolTable) :
    read comments text symbols = (.ok form, symbols') ↔
      readAll comments text symbols = (.ok form.toList, symbols')
  early (err : ReadError) (symbols' : SymbolTable) :
    (∀ t rest, ¬ Begins comments text.toList t rest) →
      (read comments text symbols = (.error err, symbols') ↔
        readAll comments text symbols = (.error err, symbols'))
  alone (t : Tree) : Begins comments text.toList t [] →
    read comments text symbols = (.ok (some (t.value symbols).1), (t.value symbols).2)
  closing (t : Tree) (after : List Char) : Begins comments text.toList t (')' :: after) →
    ∃ before err, text.toList = before ++ ')' :: after ∧
      err.Reports ⟨.unexpectedClose, ')' :: after⟩ text.toList (byteLength before) ∧
      read comments text symbols = (.error err, (t.value symbols).2) ∧
      readAll comments text symbols = (.error err, (t.value symbols).2)
  trailing (t : Tree) (c : Char) (after : List Char) :
    Begins comments text.toList t (c :: after) → c ≠ ')' →
    ∃ before err, text.toList = before ++ c :: after ∧
      err.Reports ⟨.trailing, c :: after⟩ text.toList (byteLength before) ∧
      read comments text symbols = (.error err, (t.value symbols).2)

lemma readersAgree (comments : Bool) (text : String) (symbols : SymbolTable) :
    ReadersAgree comments text symbols where
  value form symbols' := read_ok_iff.trans readAll_ok_iff.symm
  early err symbols' h := read_error_iff h
  alone t h := by
    rw [read, h.form?_alone symbols]
    rfl
  closing t after h := by
    obtain ⟨before, htext, hreports⟩ :=
      Failure.reports_of_suffix (f := ⟨.unexpectedClose, ')' :: after⟩) h.suffix
    have hform := h.form?_followed symbols
    rw [if_pos rfl] at hform
    exact ⟨before, _, htext, hreports, read_of_form? hform,
      readAll_of_forms (h.forms_closing symbols)⟩
  trailing t c after h hc := by
    obtain ⟨before, htext, hreports⟩ :=
      Failure.reports_of_suffix (f := ⟨.trailing, c :: after⟩) h.suffix
    have hform := h.form?_followed symbols
    rw [if_neg hc] at hform
    exact ⟨before, _, htext, hreports, read_of_form? hform⟩

lemma read_of_readAll_error {err : ReadError}
    (h : readAll comments text symbols = (.error err, symbols'))
    (hclose : ∀ t c after, Begins comments text.toList t (c :: after) → c = ')') :
    read comments text symbols = (.error err, symbols') := by
  have hagree := readersAgree comments text symbols
  by_cases hfirst : ∃ t rest, Begins comments text.toList t rest
  · obtain ⟨t, rest, hbegins⟩ := hfirst
    cases rest with
    | nil =>
      have hall := (hagree.value _ _).1 (hagree.alone t hbegins)
      cases h.symm.trans hall
    | cons c after =>
      obtain rfl := hclose t c after hbegins
      obtain ⟨-, err', -, -, hread, hall⟩ := hagree.closing t after hbegins
      cases h.symm.trans hall
      exact hread
  · exact (read_error_iff fun t rest hbegins => hfirst ⟨t, rest, hbegins⟩).2 h

end Agreement

end Reader

namespace Session

inductive SameButNoting (log : Array Event) (event : Event) :
    EStateM.Result Error Session Value → EStateM.Result Error Session Value → Prop
  | ok {v : Value} {s : Session} (added : Array Event) : s.world.events = log ++ added →
      SameButNoting log event (.ok v s)
        (.ok v { s with world := { s.world with events := log.push event ++ added } })
  | error {err : Error} {s : Session} (added : Array Event) : s.world.events = log ++ added →
      SameButNoting log event (.error err s)
        (.error err { s with world := { s.world with events := log.push event ++ added } })

variable {s : Session} {text : String} {symbols : SymbolTable}

lemma perform_noting {run : Run Value} (h : ∀ log log', Run.Logs log log' run) (event : Event)
    (s : Session) :
    SameButNoting s.world.events event (perform run s) (perform run { s with
      world := { s.world with events := s.world.events.push event } }) := by
  obtain ⟨_, -, ho⟩ := h s.world.events (s.world.events.push event) () le_rfl s.world
    { s.world with events := s.world.events.push event } ⟨#[], by simp, by simp⟩
  unfold perform
  generalize run s.world = result at ho
  generalize run { s.world with events := s.world.events.push event } = result' at ho
  cases ho with
  | @ok a b w w' hab hw =>
    obtain rfl := hab
    obtain ⟨added, hadded, rfl⟩ := hw
    exact .ok (s := { s with world := w }) added hadded
  | @error err err' w w' herr hw =>
    obtain rfl := herr
    obtain ⟨added, hadded, rfl⟩ := hw
    exact .error (s := { s with world := w }) added hadded

lemma evaluateText_of_read {form : Option Value}
    (h : Reader.read s.comments text s.symbols = (.ok form, symbols)) (e : Scope) :
    evaluateText text e s =
      perform (Eval.sequence evaluate e .unspecified form.toList) { s with symbols } := by
  rw [evaluateText_apply, h]
  cases form with
  | none => rfl
  | some x =>
    rw [Option.toList_some, Eval.sequence]
    simp only [Eval.sequence, bind_pure]

lemma evaluateText_of_error {err : ReadError}
    (h : Reader.read s.comments text s.symbols = (.error err, symbols)) (e : Scope) :
    evaluateText text e s = .error (.read err) { s with symbols } := by
  rw [evaluateText_apply, h]

lemma evaluateText_noting {forms : List Value}
    (h : Reader.readAll s.comments text s.symbols = (.ok forms, symbols))
    (hforms : forms.length ≤ 1) :
    SameButNoting s.world.events (.running forms.length) (evaluateText text s.global s)
      (runText text s) := by
  have hform : forms = forms.head?.toList := by
    match forms with
    | [] => rfl
    | [_] => rfl
  have hread := ((Reader.readersAgree s.comments text s.symbols).value forms.head? symbols).2
    (hform ▸ h)
  rw [evaluateText_of_read hread, runText_apply, h, ← hform]
  exact perform_noting (fun log log' => logs_sequence log log' _ _ _) _ { s with symbols }

end Session

open Session in
/-- A text of at most one form is evaluated as it is run, except for the first event of the run,
and a text with a parenthesis too many, or without a first form, fails alike. On any other text
nothing is evaluated. -/
theorem readers_agree_on_first_form (text : String) :
    (∀ comments symbols, Reader.ReadersAgree comments text symbols) ∧
    ∀ s : Session,
      (∀ forms symbols, Reader.readAll s.comments text s.symbols = (.ok forms, symbols) →
        forms.length ≤ 1 →
        SameButNoting s.world.events (.running forms.length) (evaluateText text s.global s)
          (runText text s)) ∧
      (∀ err symbols, Reader.readAll s.comments text s.symbols = (.error err, symbols) →
        (∀ t c after, Reader.Begins s.comments text.toList t (c :: after) → c = ')') →
        evaluateText text s.global s = .error (.read err) { s with symbols } ∧
          runText text s = .error (.read err) { s with symbols }) ∧
      ((∀ forms symbols, Reader.readAll s.comments text s.symbols = (.ok forms, symbols) →
          1 < forms.length) →
        ∀ e, ∃ err symbols, evaluateText text e s = .error (.read err) { s with symbols }) := by
  refine ⟨fun comments symbols => Reader.readersAgree comments text symbols, fun s => ?_⟩
  refine ⟨fun forms symbols => evaluateText_noting, fun err symbols h hclose => ?_, fun h e => ?_⟩
  · have hread := Reader.read_of_readAll_error h hclose
    refine ⟨evaluateText_of_error hread s.global, ?_⟩
    rw [runText_apply, h]
  · cases hread : Reader.read s.comments text s.symbols with
    | mk outcome symbols =>
      cases outcome with
      | error err => exact ⟨err, symbols, evaluateText_of_error hread e⟩
      | ok form =>
        have hall := ((Reader.readersAgree s.comments text s.symbols).value form symbols).1 hread
        have hlength := h _ _ hall
        cases form <;> simp at hlength

namespace Session

lemma begins_name {c : Char} (hblank : Text.isBlank c = false) (hc : c ≠ ';') :
    Reader.Begins false ['a', ' ', c] (.atom ['a']) [c] := by
  have hspace : Text.isBlank ' ' = true := by decide
  have hdepth : 0 < Reader.nestingLimit := by decide
  refine ⟨[], [.blank ' '], rfl, trivial, ⟨?_, ?_⟩, ⟨hspace, trivial⟩, hdepth, ?_⟩
  · exact Grammar.isToken_of_all (by decide) (by decide) (by decide)
  · exact Grammar.ends_token (by decide)
  · exact Reader.noTrivia_cons hblank hc

theorem readers_agree_on_first_form_followed :
    (∃ err, Reader.read false "a b" .empty = (.error err, ⟨["a"]⟩) ∧
      err.fault = .trailingContent ∧ err.found = some "b") ∧
    SameButNoting #[] (.running 0) (evaluateText "" (start .collecting).global (start .collecting))
      (runText "" (start .collecting)) ∧
    ∃ err symbols,
      evaluateText "a )" (start .collecting).global (start .collecting) =
        .error (.read err) { start .collecting with symbols } ∧
      runText "a )" (start .collecting) =
        .error (.read err) { start .collecting with symbols } := by
  refine ⟨?_, ?_, ?_⟩
  · obtain ⟨hagree, -⟩ := readers_agree_on_first_form "a b"
    have hbegins : Reader.Begins false "a b".toList (.atom ['a']) ['b'] :=
      begins_name (by decide) (by decide)
    obtain ⟨before, err, -, hreports, hread⟩ :=
      (hagree false .empty).trailing _ _ _ hbegins (by decide)
    exact ⟨err, hread, hreports.fault, hreports.found⟩
  · obtain ⟨-, hsession⟩ := readers_agree_on_first_form ""
    obtain ⟨hsame, -⟩ := hsession (start .collecting)
    exact hsame [] _ (Reader.readAll_empty _ _) (by decide)
  · obtain ⟨hagree, hsession⟩ := readers_agree_on_first_form "a )"
    obtain ⟨-, hfail, -⟩ := hsession (start .collecting)
    have hbegins : Reader.Begins false "a )".toList (.atom ['a']) [')'] :=
      begins_name (by decide) (by decide)
    obtain ⟨_, err, -, hreports, hread, hall⟩ :=
      (hagree false (start .collecting).symbols).closing _ _ hbegins
    refine ⟨err, _, hfail err _ hall fun t c after h => ?_⟩
    by_contra hc
    obtain ⟨_, err', -, hreports', hread'⟩ :=
      (hagree false (start .collecting).symbols).trailing t c after h hc
    obtain rfl : err = err' := Except.error.inj (Prod.mk.inj (hread.symm.trans hread')).1
    cases hreports.fault.symm.trans hreports'.fault

end Session

end SmallScheme
