import SmallScheme.Proofs.Reading

namespace SmallScheme.Grammar

open Reader

variable {comments : Bool} {after : List Char}

lemma Gap.text_append (gap gap' : Gap) : text (gap ++ gap') = text gap ++ text gap' := by
  induction gap with
  | nil => rfl
  | cons piece rest ih => rw [List.cons_append, text, text, ih, List.append_assoc]

lemma Gap.Stands.append {gap gap' : Gap} (h : Stands comments gap (text gap' ++ after))
    (h' : Stands comments gap' after) : Stands comments (gap ++ gap') after := by
  induction gap with
  | nil => exact h'
  | cons piece rest ih =>
    have htext : text (rest ++ gap') ++ after = text rest ++ (text gap' ++ after) := by
      rw [text_append, List.append_assoc]
    exact ⟨htext ▸ h.1, ih h.2⟩

end SmallScheme.Grammar

namespace SmallScheme.Reader

open Text Grammar

variable {comments : Bool} {depth : Nat} {cs mid after : List Char}

namespace Segment

lemma ofGap {gap : Gap} (h : gap.Stands comments after) :
    Segment comments depth (gap.text ++ after) after :=
  ⟨gap, .nil, rfl, h, trivial, trivial⟩

lemma refl : Segment comments depth after after :=
  ⟨[], .nil, rfl, trivial, trivial, trivial⟩

lemma ofTree {t : Tree} (hs : t.Stands comments after) (hw : t.Within depth) :
    Segment comments depth (t.text ++ after) after := by
  change Segment comments depth (Gap.text [] ++ (t.text ++ after)) after
  exact refl.cons trivial hs hw

lemma ofForms {gap : Gap} (forms : Forms) (hg : gap.Stands comments (forms.text ++ mid))
    (hf : forms.Stands comments mid) (hw : forms.Within depth)
    (h : Segment comments depth mid after) :
    Segment comments depth (gap.text ++ (forms.text ++ mid)) after := by
  cases forms with
  | nil =>
    obtain ⟨gap', forms', rfl, hg', hf', hw'⟩ := h
    refine ⟨gap ++ gap', forms', ?_, hg.append hg', hf', hw'⟩
    rw [Gap.text_append, List.append_assoc]
    rfl
  | cons t gap' rest =>
    have hrest := ofForms rest hf.2.1 hf.2.2 hw.2 h
    have htext : (Forms.cons t gap' rest).text ++ mid =
        t.text ++ (gap'.text ++ (rest.text ++ mid)) := by
      simp [Forms.text]
    rw [htext] at hg ⊢
    exact hrest.cons hg hf.1 hw.1

lemma trans (h : Segment comments depth cs mid) (h' : Segment comments depth mid after) :
    Segment comments depth cs after := by
  obtain ⟨gap, forms, rfl, hg, hf, hw⟩ := h
  exact ofForms forms hg hf hw h'

lemma suffix (h : Segment comments depth cs after) : after <:+ cs := by
  obtain ⟨gap, forms, rfl, -⟩ := h
  exact ⟨gap.text ++ forms.text, List.append_assoc _ _ _⟩

lemma enclose (h : Segment comments (depth + 1) cs (')' :: after))
    (hd : depth < nestingLimit) : Segment comments depth ('(' :: cs) after := by
  obtain ⟨gap, forms, rfl, hg, hf, hw⟩ := h
  have htext : (Tree.list gap forms).text ++ after =
      '(' :: (gap.text ++ (forms.text ++ ')' :: after)) := by
    simp [Tree.text]
  rw [← htext]
  exact ofTree ⟨hg, hf⟩ ⟨hd, hw⟩

end Segment

inductive Opened (comments : Bool) (text : List Char) : List (List Char) → List Char → Prop
  | top {rest : List Char} : Segment comments 0 text rest → Opened comments text [] rest
  | inner {starts : List (List Char)} {cs rest : List Char} :
      Opened comments text starts ('(' :: cs) → starts.length < nestingLimit →
      Segment comments (starts.length + 1) cs rest →
      Opened comments text (('(' :: cs) :: starts) rest

inductive Fault (comments : Bool) (text : List Char) (position : Nat) :
    List Char → ReadFault → String → Prop
  | unexpectedClose {after : List Char} : Opened comments text [] (')' :: after) →
      Fault comments text position (')' :: after) .unmatchedParen
        ("Unexpected ')' at position " ++ toString position)
  | unclosed {after : List Char} {starts : List (List Char)} :
      Opened comments text (('(' :: after) :: starts) [] →
      Fault comments text position ('(' :: after) .unmatchedParen
        ("Unclosed '(' at position " ++ toString position)
  | unterminated {after : List Char} {starts : List (List Char)} :
      Opened comments text starts ('"' :: after) → starts.length < 128 → '"' ∉ after →
      Fault comments text position ('"' :: after) .incomplete
        ("Unterminated string starting at position " ++ toString position)
  | tooDeep {c : Char} {after : List Char} {starts : List (List Char)} :
      Opened comments text starts (c :: after) → starts.length = 128 →
      NoTrivia comments (c :: after) → c ≠ ')' →
      Fault comments text position (c :: after) .tooDeeplyNested
        "Expression too deeply nested (max depth: 128)"
  | invalid {c : Char} {after : List Char} {starts : List (List Char)} :
      Opened comments text starts (c :: after) → starts.length < 128 →
      isWhiteSpace c = true → isBlank c = false →
      Fault comments text position (c :: after) .invalidSyntax
        ("Invalid syntax near '" ++ String.ofList ((c :: after).take 10) ++ "'")

namespace Opened

variable {text rest : List Char} {starts : List (List Char)}

lemma extend (h : Opened comments text starts mid)
    (hs : Segment comments starts.length mid rest) : Opened comments text starts rest := by
  cases h with
  | top h => exact .top (h.trans hs)
  | inner ho hd h => exact .inner ho hd (h.trans hs)

lemma suffix (h : Opened comments text starts rest) : rest <:+ text := by
  induction h with
  | top h => exact h.suffix
  | inner _ _ h ih => exact h.suffix.trans ((List.suffix_cons _ _).trans ih)

lemma length_le (h : Opened comments text starts rest) : starts.length ≤ nestingLimit := by
  cases h with
  | top _ => exact Nat.zero_le _
  | inner _ hd _ => exact hd

lemma begin (h : Opened comments text starts ('(' :: rest)) (hd : starts.length < nestingLimit) :
    Opened comments text (('(' :: rest) :: starts) rest :=
  .inner h hd .refl

lemma close {start : List Char} (h : Opened comments text (start :: starts) (')' :: rest)) :
    Opened comments text starts rest := by
  cases h with
  | inner ho hd h => exact ho.extend (h.enclose hd)

end Opened

namespace Progress

def starts (p : Progress) : List (List Char) :=
  p.pending.map OpenList.start

@[simp]
lemma length_starts (p : Progress) : p.starts.length = p.pending.length :=
  List.length_map _

lemma starts_add (p : Progress) (v : Value) : (p.add v).starts = p.starts := by
  obtain ⟨_, pending, _⟩ := p
  cases pending <;> rfl

lemma starts_addAll (p : Progress) (vs : List Value) : (p.addAll vs).starts = p.starts := by
  induction vs generalizing p with
  | nil => rfl
  | cons v vs ih => exact (ih (p.add v)).trans (starts_add p v)

end Progress

def Failure.Located (comments : Bool) (text : List Char) (f : Failure) : Prop :=
  Fault comments text (f.position text) f.rest f.cause.fault (f.message (f.position text))

section Step

variable {text : List Char} {p r : Progress} {l : Lexeme} {f : Failure}

lemma Opened.step (h : Opened comments text p.starts cs) (hl : lexemeAt cs = some l)
    (hn : NoTrivia comments cs) (hstep : p.step l = .ok r) :
    Opened comments text r.starts l.rest := by
  rcases Progress.step_cases hl hn hstep with ⟨rfl, hlt, rfl⟩ | ⟨o, os, rfl, hp, rfl⟩ |
    ⟨t, v, symbols, rfl, hs, hw, rfl⟩
  · exact h.begin (p.length_starts ▸ hlt)
  · rw [Progress.starts, hp] at h
    rw [Progress.starts_add]
    exact h.close
  · rw [Progress.starts_add]
    exact h.extend (.ofTree hs (p.length_starts ▸ hw))

lemma Opened.tooDeep (h : Opened comments text p.starts cs) (hl : lexemeAt cs = some l)
    (hn : NoTrivia comments cs) (ht : l.token ≠ .closing)
    (hlimit : nestingLimit ≤ p.pending.length) :
    Failure.Located comments text ⟨.tooDeep, l.start⟩ := by
  have hlength : p.starts.length = 128 := Nat.le_antisymm h.length_le (p.length_starts ▸ hlimit)
  rw [lexemeAt_start hl]
  cases cs with
  | nil => cases hl
  | cons c cs =>
    refine .tooDeep h hlength hn ?_
    rintro rfl
    cases hl
    exact ht rfl

lemma Opened.inside_error (h : Opened comments text p.starts cs) (hl : lexemeAt cs = some l)
    (hn : NoTrivia comments cs) (ht : l.token ≠ .closing) {next : Except Failure Progress}
    (hstep : p.inside l next = .error f)
    (hnext : p.starts.length < nestingLimit → next = .error f → f.Located comments text) :
    f.Located comments text := by
  unfold Progress.inside at hstep
  split at hstep
  · next hlt => exact hnext (p.length_starts ▸ hlt) hstep
  · next hlt =>
    obtain rfl := Except.error.inj hstep
    exact h.tooDeep hl hn ht (Nat.not_lt.1 hlt)

lemma Opened.step_error (h : Opened comments text p.starts cs) (hl : lexemeAt cs = some l)
    (hn : NoTrivia comments cs) (hstep : p.step l = .error f) : f.Located comments text := by
  have hstart := lexemeAt_start hl
  rcases lexemeAt_cases hl hn with ⟨ht, -⟩ | ⟨ht, hd⟩ | ⟨body, ht, -⟩ | ⟨name, ht, -⟩ |
    ⟨ht, after, hd, hq⟩ | ⟨ht, c, after, hd, hspace, hblank⟩
  · simp only [Progress.step, ht] at hstep
    exact h.inside_error hl hn (by simp [ht]) hstep fun _ hnext => by cases hnext
  · simp only [Progress.step, ht, Progress.close] at hstep
    cases hp : p.pending with
    | nil =>
      simp only [hp] at hstep
      obtain rfl := Except.error.inj hstep
      rw [Progress.starts, hp, hd] at h
      rw [hstart, hd]
      exact .unexpectedClose h
    | cons o os => simp [hp] at hstep
  · simp only [Progress.step, ht] at hstep
    exact h.inside_error hl hn (by simp [ht]) hstep fun _ hnext => by cases hnext
  · simp only [Progress.step, ht] at hstep
    exact h.inside_error hl hn (by simp [ht]) hstep fun _ hnext => by cases hnext
  · simp only [Progress.step, ht] at hstep
    refine h.inside_error hl hn (by simp [ht]) hstep fun hlt hnext => ?_
    obtain rfl := Except.error.inj hnext
    rw [hstart, hd]
    exact .unterminated (hd ▸ h) hlt hq
  · simp only [Progress.step, ht] at hstep
    refine h.inside_error hl hn (by simp [ht]) hstep fun hlt hnext => ?_
    obtain rfl := Except.error.inj hnext
    rw [hstart, hd]
    exact .invalid (hd ▸ h) hlt hspace hblank

lemma Opened.finish_error (h : Opened comments text p.starts []) (hf : p.finish = .error f) :
    f.Located comments text := by
  unfold Progress.finish at hf
  cases hp : p.pending with
  | nil => simp [hp] at hf
  | cons o os =>
    simp only [hp] at hf
    obtain rfl := Except.error.inj hf
    rw [Progress.starts, hp, List.map_cons] at h
    cases o with
    | mk start elements =>
      cases h with
      | inner ho hd hs => exact .unclosed (.inner ho hd hs)

lemma Opened.run_error {q : Progress} (h : Opened comments text p.starts cs)
    (hrun : p.run (lexemes comments cs) = (q, .error f)) : f.Located comments text := by
  -- What is left of the text gets shorter with each lexeme.
  obtain ⟨n, hlength⟩ : ∃ n, cs.length = n := ⟨_, rfl⟩
  induction n using Nat.strongRecOn generalizing p cs with
  | ind n ih =>
    obtain ⟨gap, hcs, hg, hn⟩ := skipBlank_spec comments cs
    generalize skipBlank comments cs = ds at hcs hg hn
    subst hcs
    have hopened := h.extend (.ofGap hg)
    rw [lexemes_gap hg, lexemes_of_noTrivia hn] at hrun
    cases hl : lexemeAt ds with
    | none =>
      obtain rfl := lexemeAt_eq_none hl
      rw [hl] at hrun
      exact hopened.finish_error (Prod.mk.inj hrun).2
    | some l =>
      simp only [hl, Progress.run] at hrun
      cases hstep : p.step l with
      | error failure =>
        simp only [hstep, Prod.mk.injEq, Except.error.injEq] at hrun
        obtain ⟨-, rfl⟩ := hrun
        exact hopened.step_error hl hn hstep
      | ok r =>
        simp only [hstep] at hrun
        have hshort : l.rest.length < n := by
          have := length_rest_lexemeAt hl
          simp only [List.length_append] at hlength
          omega
        exact ih _ hshort (hopened.step hl hn hstep) hrun rfl

end Step

section Converse

variable {text rest : List Char} {starts : List (List Char)} {p : Progress}

lemma Segment.steps (h : Segment comments p.starts.length cs after) :
    ∃ q, Steps p (lexemes comments cs) q (lexemes comments after) ∧ q.starts = p.starts := by
  obtain ⟨gap, forms, rfl, hg, hf, hw⟩ := h
  rw [p.length_starts] at hw
  rw [lexemes_gap hg]
  exact ⟨_, forms_steps hf hw, Progress.starts_addAll _ _⟩

lemma Opened.steps (symbols : SymbolTable) (h : Opened comments text starts rest) :
    ∃ q, Steps (.start symbols) (lexemes comments text) q (lexemes comments rest) ∧
      q.starts = starts := by
  induction h with
  | top h => exact Segment.steps (p := .start symbols) h
  | @inner starts cs rest _ hd h ih =>
    obtain ⟨q, hq, rfl⟩ := ih
    obtain ⟨r, hr, hstarts⟩ := Segment.steps (p := q.opened ('(' :: cs)) h
    rw [q.length_starts] at hd
    rw [lexemes_open] at hq
    exact ⟨r, hq.trans (.head (Progress.inside_of_lt hd) hr), hstarts⟩

lemma Opened.unique {starts' : List (List Char)} (h : Opened comments text starts rest)
    (h' : Opened comments text starts' rest) : starts = starts' := by
  obtain ⟨q, hq, rfl⟩ := h.steps .empty
  obtain ⟨q', hq', rfl⟩ := h'.steps .empty
  rw [hq.unique hq']

lemma Opened.stops (symbols : SymbolTable) {l : Lexeme} (h : Opened comments text starts rest)
    (hn : NoTrivia comments rest) (hl : lexemeAt rest = some l) :
    ∃ q : Progress, q.starts = starts ∧ ∀ f, q.step l = .error f →
      (Progress.start symbols).run (lexemes comments text) = (q, .error f) := by
  obtain ⟨q, hq, hstarts⟩ := h.steps symbols
  rw [lexemes_of_noTrivia hn, hl] at hq
  refine ⟨q, hstarts, fun f hstep => ?_⟩
  rw [hq.run_eq]
  simp only [Progress.run, hstep]

lemma Progress.step_of_limit {l : Lexeme} (ht : l.token ≠ .closing)
    (hlimit : nestingLimit ≤ p.pending.length) : p.step l = .error ⟨.tooDeep, l.start⟩ := by
  have hinside : ∀ next, p.inside l next = .error ⟨.tooDeep, l.start⟩ :=
    fun next => if_neg (Nat.not_lt.2 hlimit)
  unfold step
  split
  · contradiction
  all_goals exact hinside _

lemma lexemeAt_unterminated (hq : '"' ∉ after) :
    lexemeAt ('"' :: after) = some ⟨.unterminated, '"' :: after, []⟩ := by
  have hdrop : after.dropWhile isBody = [] := by
    rw [List.dropWhile_eq_nil_iff]
    intro c hc
    rw [isBody, bne_iff_ne]
    rintro rfl
    exact hq hc
  simp [lexemeAt, hdrop]

lemma lexemeAt_stray {c : Char} (hspace : isWhiteSpace c = true) :
    lexemeAt (c :: after) = some ⟨.stray, c :: after, []⟩ := by
  have hparts : c ≠ '(' ∧ c ≠ ')' ∧ c ≠ '"' := by
    refine ⟨?_, ?_, ?_⟩ <;> rintro rfl <;> exact absurd hspace (by decide)
  simp [lexemeAt, hparts, isTokenChar, hspace]

lemma Fault.run {position : Nat} {kind : ReadFault} {message : String} (symbols : SymbolTable)
    (h : Fault comments text position rest kind message) :
    ∃ q f, (Progress.start symbols).run (lexemes comments text) = (q, .error f) ∧
      f.rest = rest ∧ f.cause.fault = kind ∧ f.message position = message := by
  cases h with
  | @unexpectedClose after ho =>
    obtain ⟨q, hstarts, hrun⟩ :=
      ho.stops symbols (noTrivia_cons (by decide) (by decide)) (l := ⟨.closing, _, after⟩) rfl
    have hpending : q.pending = [] := List.map_eq_nil_iff.1 hstarts
    refine ⟨q, ⟨.unexpectedClose, ')' :: after⟩, hrun _ ?_, rfl, rfl, rfl⟩
    simp [Progress.step, Progress.close, hpending]
  | @unclosed after starts ho =>
    obtain ⟨q, hq, hstarts⟩ := ho.steps symbols
    refine ⟨q, ⟨.unclosed, '(' :: after⟩, ?_, rfl, rfl, rfl⟩
    obtain ⟨o, os, hpending, hstart, -⟩ := List.map_eq_cons_iff.1 hstarts
    rw [hq.run_eq, lexemes_of_noTrivia (by simp [NoTrivia])]
    simp [lexemeAt, Progress.run, Progress.finish, hpending, hstart]
  | @unterminated after starts ho hlt hq =>
    obtain ⟨q, rfl, hrun⟩ :=
      ho.stops symbols (noTrivia_cons (by decide) (by decide)) (lexemeAt_unterminated hq)
    rw [q.length_starts] at hlt
    exact ⟨q, ⟨.unterminated, '"' :: after⟩, hrun _ (Progress.inside_of_lt hlt), rfl, rfl, rfl⟩
  | @tooDeep c after starts ho hlength hn hc =>
    -- Whatever begins here, the limit is checked first.
    cases hl : lexemeAt (c :: after) with
    | none => cases lexemeAt_eq_none hl
    | some l =>
      obtain ⟨q, rfl, hrun⟩ := ho.stops symbols hn hl
      have ht : l.token ≠ .closing := by
        intro ht
        rcases lexemeAt_cases hl hn with ⟨h, -⟩ | ⟨-, h⟩ | ⟨_, h, -⟩ | ⟨_, h, -⟩ | ⟨h, -⟩ | ⟨h, -⟩
        · cases ht.symm.trans h
        · exact hc (List.cons.inj h).1
        all_goals cases ht.symm.trans h
      rw [q.length_starts] at hlength
      exact ⟨q, ⟨.tooDeep, l.start⟩, hrun _ (Progress.step_of_limit ht hlength.ge),
        lexemeAt_start hl, rfl, rfl⟩
  | @invalid c after starts ho hlt hspace hblank =>
    have hn : NoTrivia comments (c :: after) := by
      refine noTrivia_cons hblank ?_
      rintro rfl
      exact absurd hspace (by decide)
    obtain ⟨q, rfl, hrun⟩ := ho.stops symbols hn (lexemeAt_stray hspace)
    rw [q.length_starts] at hlt
    exact ⟨q, ⟨.invalid, c :: after⟩, hrun _ (Progress.inside_of_lt hlt), rfl, rfl, rfl⟩

end Converse

lemma Segment.accepts {before rest : List Char} (h : Segment comments 0 (before ++ rest) rest)
    (symbols : SymbolTable) : Accepts comments (String.ofList before) symbols := by
  obtain ⟨gap, forms, htext, hg, hf, hw⟩ := h
  rw [← List.append_assoc, List.append_left_inj] at htext
  have hend : Follows rest [] := by simp [Follows]
  have hgap := hg.follow (hend.append forms.text)
  rw [List.append_nil] at hgap
  have hderives : Program.Derives comments ⟨gap, forms⟩ before := ⟨htext.symm, hgap, hf.follow hend⟩
  refine ⟨_, _, readAll_ok_iff.2 (forms_ok_iff.2 ⟨⟨gap, forms⟩, ?_, hw, rfl⟩)⟩
  rwa [String.toList_ofList]

namespace Fault

variable {text rest : List Char} {position : Nat} {kind : ReadFault} {message : String}

lemma suffix (h : Fault comments text position rest kind message) : rest <:+ text := by
  cases h with
  | unexpectedClose ho => exact ho.suffix
  | unclosed ho =>
    cases ho with
    | inner ho _ _ => exact ho.suffix
  | unterminated ho _ _ => exact ho.suffix
  | tooDeep ho _ _ _ => exact ho.suffix
  | invalid ho _ _ _ => exact ho.suffix

lemma ne_nil (h : Fault comments text position rest kind message) : rest ≠ [] := by
  cases h <;> simp

lemma opened_of_close {after : List Char}
    (h : Fault comments text position (')' :: after) kind message) :
    Opened comments text [] (')' :: after) := by
  cases h with
  | unexpectedClose ho => exact ho
  | tooDeep _ _ _ hc => exact absurd rfl hc
  | invalid _ _ hspace _ => exact absurd hspace (by decide)

lemma message_ne (h : Fault comments text position rest kind message) :
    message ≠ "Incomplete input" := by
  intro hmessage
  have hchars := congrArg String.toList hmessage
  cases h <;> simp at hchars

lemma head_of_unclosed {words : String} (h : Fault comments text position rest kind message)
    (hmessage : message = "Unclosed" ++ words) : rest.head? = some '(' := by
  have hchars := congrArg String.toList hmessage
  cases h with
  | unclosed _ => rfl
  | _ => simp at hchars

end Fault

lemma readAll_error {text : String} {symbols symbols' : SymbolTable} {err : ReadError}
    (h : readAll comments text symbols = (.error err, symbols')) :
    ∃ q f, (Progress.start symbols).run (lexemes comments text.toList) = (q, .error f) ∧
      f.report text.toList = err := by
  cases hrun : (Progress.start symbols).run (lexemes comments text.toList) with
  | mk q outcome =>
    simp only [readAll, forms, hrun] at h
    cases outcome with
    | error f => exact ⟨q, f, rfl, Except.error.inj (Prod.mk.inj h).1⟩
    | ok _ => cases (Prod.mk.inj h).1

lemma Failure.position_append (f : Failure) (before : List Char) :
    f.position (before ++ f.rest) = byteLength before := by
  simp [position]

/-- A text that cannot be read has one fault, and the error tells its kind, its place and the
character there. A parenthesis is unexpected only after forms that can be read by themselves. -/
theorem readAll_error_located {text : String} {symbols symbols' : SymbolTable} {err : ReadError}
    (h : readAll comments text symbols = (.error err, symbols')) :
    ∃ before c after, text.toList = before ++ c :: after ∧
      err.found = some (String.singleton c) ∧
      err.context = some (String.ofList (window text.toList (byteLength before))) ∧
      Fault comments text.toList (byteLength before) (c :: after) err.fault err.message ∧
      (∀ before' rest kind message, text.toList = before' ++ rest →
        Fault comments text.toList (byteLength before') rest kind message →
          rest = c :: after ∧ kind = err.fault ∧ message = err.message) ∧
      (c = ')' → Accepts comments (String.ofList before) symbols) ∧
      err.message ≠ "Incomplete input" ∧
      (∀ words, err.message = "Unclosed" ++ words → c = '(') ∧
      ∀ starts starts' rest, Opened comments text.toList starts rest →
        Opened comments text.toList starts' rest → starts = starts' := by
  obtain ⟨q, f, hrun, hreport⟩ := readAll_error h
  have hfault : f.Located comments text.toList :=
    Opened.run_error (p := .start symbols) (.top .refl) hrun
  obtain ⟨before, htext⟩ := hfault.suffix
  obtain ⟨c, after, hrest⟩ := List.exists_cons_of_ne_nil hfault.ne_nil
  have hposition : f.position text.toList = byteLength before := by
    rw [← htext, f.position_append]
  rw [Failure.report, hposition, hrest] at hreport
  rw [Failure.Located, hposition, hrest] at hfault
  rw [hrest] at htext
  subst hreport
  refine ⟨before, c, after, htext.symm, rfl, rfl, hfault, ?_, ?_, hfault.message_ne, ?_,
    fun _ _ _ hopened hopened' => hopened.unique hopened'⟩
  · -- Any fault stops the reader, and it stopped here.
    intro before' rest kind message htext' h'
    obtain ⟨q', f', hrun', hrest', hkind, hmessage⟩ := h'.run symbols
    obtain rfl : f = f' := Except.error.inj (Prod.mk.inj (hrun.symm.trans hrun')).2
    obtain rfl : rest = c :: after := hrest'.symm.trans hrest
    obtain rfl : before = before' := List.append_cancel_right (htext.trans htext')
    exact ⟨rfl, hkind.symm, hmessage.symm⟩
  · rintro rfl
    have hopened := hfault.opened_of_close
    rw [← htext] at hopened
    cases hopened with
    | top h => exact h.accepts symbols
  · intro words hmessage
    simpa using hfault.head_of_unclosed hmessage

def errorOf? : Except ReadError (List Value) → Option ReadError
  | .error err => some err
  | .ok _ => none

theorem readAll_error_located_unclosed : ∃ before after,
    "(é \"(\" (b".toList = before ++ '(' :: after ∧
    Fault false "(é \"(\" (b".toList (byteLength before) ('(' :: after) .unmatchedParen
      "Unclosed '(' at position 8" := by
  have hmessage : (errorOf? (readAll false "(é \"(\" (b" .empty).1).map
      (fun err => (err.fault, err.message)) =
        some (.unmatchedParen, "Unclosed '(' at position 8") := by
    decide +kernel
  cases hread : readAll false "(é \"(\" (b" .empty with
  | mk outcome symbols =>
    rw [hread] at hmessage
    cases outcome with
    | ok vs => cases hmessage
    | error err =>
      obtain ⟨hfault, hmessage⟩ := Prod.mk.inj (Option.some.inj hmessage)
      obtain ⟨before, c, after, htext, -, -, hc, -, -, -, hunclosed, -⟩ :=
        readAll_error_located hread
      obtain rfl := hunclosed " '(' at position 8" hmessage
      exact ⟨before, after, htext, hfault ▸ hmessage ▸ hc⟩

end SmallScheme.Reader
