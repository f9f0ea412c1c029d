import SmallScheme.Proofs.ReadFailure

/-! Reading by descent: a form that begins with a parenthesis is read by a loop over its elements,
which are forms again. Every turn of a loop takes some text, so no text keeps the reader for more
turns than it has characters. -/

namespace SmallScheme.Reader

open Text Grammar

/-- Drops blanks and the comment after them in one turn. There is no answer if the turns do not
suffice. -/
def skipIn (comments : Bool) : Nat → List Char → Option (List Char)
  | 0, _ => none
  | turns + 1, cs =>
    match cs.dropWhile isBlank with
    | [] => some []
    | c :: rest =>
      if comments && c == ';' then skipIn comments turns (rest.dropWhile (· != '\n'))
      else some (c :: rest)

abbrev Outcome (α : Type) := Except Failure α × SymbolTable

abbrev FormReader := SymbolTable → List Char → Option (Outcome (Value × List Char))

def formBy (list : FormReader) (depth : Nat) : FormReader := fun symbols cs =>
  if depth < nestingLimit then
    match lexemeAt cs with
    | none => some (.error ⟨.unclosed, cs⟩, symbols)
    | some l =>
      match l.token with
      | .opening => list symbols l.rest
      | .closing => some (.error ⟨.unexpectedClose, cs⟩, symbols)
      | .string body => some (.ok (.string (String.ofList body), l.rest), symbols)
      | .atom name =>
        let (v, symbols) := (Atom.ofChars name).value symbols
        some (.ok (v, l.rest), symbols)
      | .unterminated => some (.error ⟨.unterminated, cs⟩, symbols)
      | .stray => some (.error ⟨.invalid, cs⟩, symbols)
  else some (.error ⟨.tooDeep, cs⟩, symbols)

def followedBy {α : Type} (form : Option (Outcome (Value × List Char)))
    (next : Value → SymbolTable → List Char → Option (Outcome α)) : Option (Outcome α) :=
  match form with
  | none => none
  | some (.error f, symbols) => some (.error f, symbols)
  | some (.ok (v, rest), symbols) => next v symbols rest

def listIn (comments : Bool) : Nat → Nat → OpenList → FormReader
  | 0, _, _, _, _ => none
  | turns + 1, depth, o, symbols, cs =>
    match skipBlank comments cs with
    | [] => some (.error ⟨.unclosed, o.start⟩, symbols)
    | c :: rest =>
      if c = ')' then some (.ok (.list o.elements.reverse, rest), symbols)
      else
        followedBy (formBy (listIn comments turns (depth + 1) ⟨c :: rest, []⟩) (depth + 1) symbols
          (c :: rest)) fun v => listIn comments turns depth { o with elements := v :: o.elements }

def formIn (comments : Bool) (turns depth : Nat) : FormReader := fun symbols cs =>
  formBy (listIn comments turns depth ⟨cs, []⟩) depth symbols cs

def programIn (comments : Bool) : Nat → List Value → SymbolTable → List Char →
    Option (Outcome (List Value))
  | 0, _, _, _ => none
  | turns + 1, forms, symbols, cs =>
    match skipBlank comments cs with
    | [] => some (.ok forms.reverse, symbols)
    | c :: rest =>
      followedBy (formIn comments turns 0 symbols (c :: rest)) fun v =>
        programIn comments turns (v :: forms)

variable {comments : Bool} {turns depth : Nat} {symbols symbols' : SymbolTable}
  {cs rest : List Char} {v : Value} {o : OpenList} {f : Failure}
  {outcome : Outcome (Value × List Char)}
  {list list' : FormReader}

lemma listIn_succ : listIn comments (turns + 1) depth o symbols cs =
    match skipBlank comments cs with
    | [] => some (.error ⟨.unclosed, o.start⟩, symbols)
    | c :: rest =>
      if c = ')' then some (.ok (.list o.elements.reverse, rest), symbols)
      else
        followedBy (formIn comments turns (depth + 1) symbols (c :: rest)) fun v =>
          listIn comments turns depth { o with elements := v :: o.elements } := rfl

section Skip

lemma skipBlank_dropWhile (comments : Bool) (cs : List Char) :
    skipBlank comments (cs.dropWhile isBlank) = skipBlank comments cs := by
  induction cs with
  | nil => rfl
  | cons c cs ih =>
    cases hc : isBlank c with
    | true => rw [List.dropWhile_cons_of_pos hc, ih, skipBlank, if_pos hc]
    | false => rw [List.dropWhile_cons_of_neg (by simp [hc])]

lemma skipComment_eq (comments : Bool) (cs : List Char) :
    skipComment comments cs = skipBlank comments (cs.dropWhile (· != '\n')) := by
  have hbody : '\n' ∉ cs.takeWhile (· != '\n') := fun h =>
    absurd (List.all_eq_true.1 List.all_takeWhile _ h) (by decide)
  have hline : ∀ c ∈ (cs.dropWhile (· != '\n')).head?, c = '\n' := fun c hc => by
    simpa using dropWhile_head c hc
  rw [← skipComment_append hbody hline, List.takeWhile_append_dropWhile]

lemma skipIn_eq (h : cs.length < turns) :
    skipIn comments turns cs = some (skipBlank comments cs) := by
  induction turns generalizing cs with
  | zero => cases h
  | succ turns ih =>
    have hlength := length_dropWhile_le isBlank cs
    rw [skipIn, ← skipBlank_dropWhile]
    cases hcs : cs.dropWhile isBlank with
    | nil => rfl
    | cons c rest =>
      have hc : isBlank c = false := dropWhile_head c (by rw [hcs]; rfl)
      rw [hcs, List.length_cons] at hlength
      have hrest := length_dropWhile_le (· != '\n') rest
      simp only [skipBlank, hc, Bool.false_eq_true, if_false]
      split
      · rw [ih (by omega), skipComment_eq]
      · rfl

lemma noTrivia_skipBlank (comments : Bool) (cs : List Char) :
    NoTrivia comments (skipBlank comments cs) := by
  obtain ⟨-, -, -, hn⟩ := skipBlank_spec comments cs
  exact hn

lemma skipBlank_suffix (comments : Bool) (cs : List Char) : skipBlank comments cs <:+ cs := by
  obtain ⟨gap, hcs, -⟩ := skipBlank_spec comments cs
  exact ⟨gap.text, hcs.symm⟩

lemma lexemes_skipBlank (comments : Bool) (cs : List Char) :
    lexemes comments (skipBlank comments cs) = lexemes comments cs := by
  obtain ⟨gap, hcs, hg, -⟩ := skipBlank_spec comments cs
  rw [← lexemes_gap hg, ← hcs]

lemma exists_skipped {c : Char} (h : skipBlank comments cs = c :: rest) :
    ∃ skipped, cs = skipped ++ c :: rest ∧
      ∀ rest', skipBlank comments (skipped ++ c :: rest') = c :: rest' := by
  obtain ⟨gap, hcs, hg, hn⟩ := skipBlank_spec comments cs
  rw [h] at hcs hg hn
  refine ⟨gap.text, hcs, fun rest' => ?_⟩
  have hfollows : Follows (c :: rest) (c :: rest') := fun d hd => .inl hd
  have hn' : NoTrivia comments (c :: rest') := hn
  rw [skipBlank_gap (hg.follow hfollows), skipBlank_of_noTrivia hn']

end Skip

section Form

inductive IsLeaf : Tree → Prop
  | atom (name : List Char) : IsLeaf (.atom name)
  | string (body : List Char) : IsLeaf (.string body)

lemma formBy_open (hd : depth < nestingLimit) :
    formBy list depth symbols ('(' :: rest) = list symbols rest := by
  rw [formBy, if_pos hd]
  rfl

lemma formBy_leaf {t : Tree} (ht : IsLeaf t) (hs : t.Stands comments rest)
    (hd : depth < nestingLimit) : formBy list depth symbols (t.text ++ rest) =
      some (.ok ((t.value symbols).1, rest), (t.value symbols).2) := by
  rw [formBy, if_pos hd]
  cases ht with
  | atom name => rw [Tree.text, lexemeAt_atom hs]; rfl
  | string body =>
    have htext : (Tree.string body).text ++ rest = '"' :: (body ++ '"' :: rest) := by
      simp [Tree.text]
    rw [htext, lexemeAt_string hs]
    rfl

def Token.fault? : Token → Option Cause
  | .closing => some .unexpectedClose
  | .unterminated => some .unterminated
  | .stray => some .invalid
  | _ => none

structure NoForm (depth : Nat) (cs : List Char) (f : Failure) : Prop where
  fails (list : FormReader) (symbols : SymbolTable) :
    formBy list depth symbols cs = some (.error f, symbols)
  step {p : Progress} {l : Lexeme} : lexemeAt cs = some l → p.pending.length = depth →
    (l.token = .closing → p.pending = []) → p.step l = .error f

lemma noForm_of_limit (hd : nestingLimit ≤ depth) (cs : List Char) :
    NoForm depth cs ⟨.tooDeep, cs⟩ where
  fails list symbols := if_neg (Nat.not_lt.2 hd)
  step {p l} hl hp hclose := by
    have ht : l.token ≠ .closing := by
      intro ht
      rw [← hp, hclose ht] at hd
      exact absurd hd (by decide)
    rw [Progress.step_of_limit ht (hp ▸ hd), lexemeAt_start hl]

lemma noForm_of_lexeme {l : Lexeme} {cause : Cause} (hd : depth < nestingLimit)
    (hl : lexemeAt cs = some l) (ht : l.token.fault? = some cause) :
    NoForm depth cs ⟨cause, cs⟩ where
  fails list symbols := by
    rw [formBy, if_pos hd, hl]
    cases htoken : l.token <;> rw [htoken] at ht <;> cases ht <;> simp only [htoken]
  step {p l'} hl' hp hclose := by
    obtain rfl : l = l' := Option.some.inj (hl.symm.trans hl')
    have hinside : p.inside l (.error ⟨cause, cs⟩) = .error ⟨cause, cs⟩ :=
      Progress.inside_of_lt (hp ▸ hd)
    cases htoken : l.token with
    | closing =>
      rw [htoken] at ht
      cases ht
      simp [Progress.step, htoken, Progress.close, hclose htoken, lexemeAt_start hl]
    | unterminated | stray =>
      rw [htoken] at ht
      cases ht
      simp [Progress.step, htoken, hinside, lexemeAt_start hl]
    | _ =>
      rw [htoken] at ht
      cases ht

lemma formBy_cases (hn : NoTrivia comments cs) (depth : Nat) :
    (∃ rest, cs = '(' :: rest ∧ depth < nestingLimit) ∨
    (∃ t rest, cs = t.text ++ rest ∧ IsLeaf t ∧ t.Stands comments rest ∧ depth < nestingLimit) ∨
    ∃ f, NoForm depth cs f := by
  by_cases hd : depth < nestingLimit
  · cases hl : lexemeAt cs with
    | none =>
      refine .inr (.inr ⟨⟨.unclosed, cs⟩, fun list symbols => ?_, fun hl' => ?_⟩)
      · rw [formBy, if_pos hd, hl]
      · cases hl.symm.trans hl'
    | some l =>
      rcases lexemeAt_cases hl hn with ⟨-, hcs⟩ | ⟨ht, -⟩ | ⟨body, -, hb, hcs⟩ |
        ⟨name, -, hs, hcs⟩ | ⟨ht, -⟩ | ⟨ht, -⟩
      · exact .inl ⟨l.rest, hcs, hd⟩
      · exact .inr (.inr ⟨_, noForm_of_lexeme hd hl (by rw [ht]; rfl)⟩)
      · exact .inr (.inl ⟨.string body, l.rest, by simp [hcs, Tree.text], .string body, hb, hd⟩)
      · exact .inr (.inl ⟨.atom name, l.rest, hcs, .atom name, hs, hd⟩)
      · exact .inr (.inr ⟨_, noForm_of_lexeme hd hl (by rw [ht]; rfl)⟩)
      · exact .inr (.inr ⟨_, noForm_of_lexeme hd hl (by rw [ht]; rfl)⟩)
  · exact .inr (.inr ⟨_, noForm_of_limit (Nat.not_lt.1 hd) cs⟩)

lemma formBy_cases_any (cs : List Char) (depth : Nat) :
    (∃ rest, cs = '(' :: rest ∧ depth < nestingLimit) ∨
    (∃ t rest, cs = t.text ++ rest ∧ IsLeaf t ∧ t.Stands false rest ∧ depth < nestingLimit) ∨
    ∃ f, NoForm depth cs f := by
  by_cases hn : NoTrivia false cs
  · exact formBy_cases hn depth
  · obtain ⟨c, rest, rfl, hc⟩ : ∃ c rest, cs = c :: rest ∧ isBlank c = true := by
      cases cs with
      | nil => simp [NoTrivia] at hn
      | cons c rest => exact ⟨c, rest, rfl, by simpa [NoTrivia] using hn⟩
    by_cases hd : depth < nestingLimit
    · have hl : lexemeAt (c :: rest) = some ⟨.stray, c :: rest, []⟩ :=
        lexemeAt_stray (isWhiteSpace_of_isBlank hc)
      exact .inr (.inr ⟨_, noForm_of_lexeme hd hl rfl⟩)
    · exact .inr (.inr ⟨_, noForm_of_limit (Nat.not_lt.1 hd) _⟩)

lemma formBy_mono
    (h : ∀ rest, list symbols rest = some outcome → list' symbols rest = some outcome)
    (hform : formBy list depth symbols cs = some outcome) :
    formBy list' depth symbols cs = some outcome := by
  rcases formBy_cases_any cs depth with ⟨rest, rfl, hd⟩ | ⟨t, rest, rfl, ht, hs, hd⟩ | ⟨f, hf⟩
  · rw [formBy_open hd] at hform ⊢
    exact h rest hform
  · rwa [formBy_leaf ht hs hd] at hform ⊢
  · rwa [hf.fails] at hform ⊢

lemma formBy_ends
    (h : ∀ rest, rest.length < cs.length → ∃ outcome, list symbols rest = some outcome)
    (depth : Nat) : ∃ outcome, formBy list depth symbols cs = some outcome := by
  rcases formBy_cases_any cs depth with ⟨rest, rfl, hd⟩ | ⟨t, rest, rfl, ht, hs, hd⟩ | ⟨f, hf⟩
  · rw [formBy_open hd]
    exact h rest (by simp)
  · exact ⟨_, formBy_leaf ht hs hd⟩
  · exact ⟨_, hf.fails list symbols⟩

end Form

section Turn

lemma followedBy_eq_some {α : Type} {form : Option (Outcome (Value × List Char))}
    {next : Value → SymbolTable → List Char → Option (Outcome α)} {outcome : Outcome α}
    (h : followedBy form next = some outcome) :
    (∃ f symbols, form = some (.error f, symbols) ∧ outcome = (.error f, symbols)) ∨
    ∃ v rest symbols, form = some (.ok (v, rest), symbols) ∧
      next v symbols rest = some outcome := by
  match form with
  | none => cases h
  | some (.error f, symbols) => exact .inl ⟨f, symbols, rfl, (Option.some.inj h).symm⟩
  | some (.ok (v, rest), symbols) => exact .inr ⟨v, rest, symbols, rfl, h⟩

lemma listIn_end (h : skipBlank comments cs = []) :
    listIn comments (turns + 1) depth o symbols cs =
      some (.error ⟨.unclosed, o.start⟩, symbols) := by
  rw [listIn_succ, h]

lemma listIn_close (h : skipBlank comments cs = ')' :: rest) :
    listIn comments (turns + 1) depth o symbols cs =
      some (.ok (.list o.elements.reverse, rest), symbols) := by
  rw [listIn_succ, h]
  exact if_pos rfl

lemma listIn_form {c : Char} (h : skipBlank comments cs = c :: rest) (hc : c ≠ ')') :
    listIn comments (turns + 1) depth o symbols cs =
      followedBy (formIn comments turns (depth + 1) symbols (c :: rest)) fun v =>
        listIn comments turns depth { o with elements := v :: o.elements } := by
  rw [listIn_succ, h]
  exact if_neg hc

lemma skipBlank_cases (comments : Bool) (cs : List Char) : skipBlank comments cs = [] ∨
    (∃ rest, skipBlank comments cs = ')' :: rest) ∨
    ∃ c rest, skipBlank comments cs = c :: rest ∧ c ≠ ')' := by
  cases skipBlank comments cs with
  | nil => exact .inl rfl
  | cons c rest =>
    by_cases hc : c = ')'
    · exact .inr (.inl ⟨rest, by rw [hc]⟩)
    · exact .inr (.inr ⟨c, rest, rfl, hc⟩)

end Turn

section Takes

def Takes (read : FormReader) (symbols : SymbolTable) (taken rest : List Char) (v : Value)
    (symbols' : SymbolTable) : Prop :=
  ∀ rest', Follows rest rest' → read symbols (taken ++ rest') = some (.ok (v, rest'), symbols')

lemma formIn_takes_of (hlist : ∀ {o cs},
      listIn comments turns depth o symbols cs = some (.ok (v, rest), symbols') →
      ∃ taken, taken ≠ [] ∧ cs = taken ++ rest ∧ ∀ start,
        Takes (listIn comments turns depth ⟨start, o.elements⟩) symbols taken rest v symbols')
    (h : formIn comments turns depth symbols cs = some (.ok (v, rest), symbols')) :
    ∃ taken, taken ≠ [] ∧ cs = taken ++ rest ∧
      Takes (formIn comments turns depth) symbols taken rest v symbols' := by
  rw [formIn] at h
  rcases formBy_cases_any cs depth with ⟨inner, rfl, hd⟩ | ⟨t, after, rfl, ht, hs, hd⟩ | ⟨f, hf⟩
  · rw [formBy_open hd] at h
    obtain ⟨taken, -, rfl, htakes⟩ := hlist h
    refine ⟨'(' :: taken, by simp, rfl, fun rest' hfollows => ?_⟩
    rw [formIn, List.cons_append, formBy_open hd]
    exact htakes _ rest' hfollows
  · rw [formBy_leaf ht hs hd] at h
    cases h
    obtain ⟨c, cs, htext, -⟩ := tree_head hs
    refine ⟨t.text, by simp [htext], rfl, fun rest' hfollows => ?_⟩
    exact formBy_leaf ht (hs.follow hfollows) hd
  · rw [hf.fails] at h
    cases h

lemma listIn_takes
    (h : listIn comments turns depth o symbols cs = some (.ok (v, rest), symbols')) :
    ∃ taken, taken ≠ [] ∧ cs = taken ++ rest ∧ ∀ start,
      Takes (listIn comments turns depth ⟨start, o.elements⟩) symbols taken rest v symbols' := by
  induction turns generalizing depth o symbols cs v rest symbols' with
  | zero => cases h
  | succ turns ih =>
    rcases skipBlank_cases comments cs with hend | ⟨after, hclose⟩ | ⟨c, after, hform, hc⟩
    · rw [listIn_end hend] at h
      cases h
    · rw [listIn_close hclose] at h
      cases h
      obtain ⟨skipped, rfl, hskip⟩ := exists_skipped hclose
      refine ⟨skipped ++ [')'], by simp, by simp, fun start rest' _ => ?_⟩
      rw [List.append_assoc]
      exact listIn_close (hskip rest')
    · rw [listIn_form hform hc] at h
      rcases followedBy_eq_some h with ⟨f, _, -, herror⟩ | ⟨w, mid, table, hw, hlist⟩
      · cases herror
      -- What the element is followed by changes only where the list itself ends.
      obtain ⟨skipped, rfl, hskip⟩ := exists_skipped hform
      obtain ⟨first, hfirst, hafter, htakes⟩ := formIn_takes_of ih hw
      obtain ⟨others, -, rfl, htakes'⟩ := ih hlist
      obtain ⟨d, first, rfl⟩ := List.exists_cons_of_ne_nil hfirst
      obtain ⟨rfl, rfl⟩ := List.cons.inj hafter
      refine ⟨skipped ++ (c :: first ++ others), by simp, by simp, fun start rest' hfollows => ?_⟩
      have htext : skipped ++ (c :: first ++ others) ++ rest' =
          skipped ++ c :: (first ++ (others ++ rest')) := by simp
      have hread := htakes (others ++ rest') (hfollows.append others)
      rw [List.cons_append] at hread
      rw [htext, listIn_form (hskip _) hc, hread]
      exact htakes' start rest' hfollows

lemma formIn_takes (h : formIn comments turns depth symbols cs = some (.ok (v, rest), symbols')) :
    ∃ taken, taken ≠ [] ∧ cs = taken ++ rest ∧
      Takes (formIn comments turns depth) symbols taken rest v symbols' :=
  formIn_takes_of listIn_takes h

lemma length_rest_formIn
    (h : formIn comments turns depth symbols cs = some (.ok (v, rest), symbols')) :
    rest.length < cs.length := by
  obtain ⟨taken, hne, rfl, -⟩ := formIn_takes h
  simpa [List.length_pos_iff] using hne

end Takes

section Ends

lemma listIn_mono_succ (h : listIn comments turns depth o symbols cs = some outcome) :
    listIn comments (turns + 1) depth o symbols cs = some outcome := by
  induction turns generalizing depth o symbols cs outcome with
  | zero => cases h
  | succ turns ih =>
    rcases skipBlank_cases comments cs with hend | ⟨after, hclose⟩ | ⟨c, after, hform, hc⟩
    · rwa [listIn_end hend] at h ⊢
    · rwa [listIn_close hclose] at h ⊢
    · rw [listIn_form hform hc] at h ⊢
      have hmore : ∀ {outcome},
          formIn comments turns (depth + 1) symbols (c :: after) = some outcome →
          formIn comments (turns + 1) (depth + 1) symbols (c :: after) = some outcome :=
        formBy_mono fun _ => ih
      rcases followedBy_eq_some h with ⟨f, table, hf, rfl⟩ | ⟨v, rest, table, hv, hlist⟩
      · rw [hmore hf]
        rfl
      · rw [hmore hv]
        exact ih hlist

lemma listIn_mono {turns' : Nat} (h : listIn comments turns depth o symbols cs = some outcome)
    (hle : turns ≤ turns') : listIn comments turns' depth o symbols cs = some outcome := by
  induction hle with
  | refl => exact h
  | step _ ih => exact listIn_mono_succ ih

lemma formIn_mono {turns' : Nat} (h : formIn comments turns depth symbols cs = some outcome)
    (hle : turns ≤ turns') : formIn comments turns' depth symbols cs = some outcome :=
  formBy_mono (fun _ hlist => listIn_mono hlist hle) h

lemma listIn_ends (h : cs.length < turns) :
    ∃ outcome, listIn comments turns depth o symbols cs = some outcome := by
  induction turns generalizing depth o symbols cs with
  | zero => cases h
  | succ turns ih =>
    rcases skipBlank_cases comments cs with hend | ⟨after, hclose⟩ | ⟨c, after, hform, hc⟩
    · exact ⟨_, listIn_end hend⟩
    · exact ⟨_, listIn_close hclose⟩
    · rw [listIn_form hform hc]
      have hlength := length_skipBlank_le comments cs
      rw [hform] at hlength
      -- An inner list has one character less, and so has the text after the element.
      obtain ⟨⟨answer, table⟩, hanswer⟩ :
          ∃ outcome, formIn comments turns (depth + 1) symbols (c :: after) = some outcome :=
        formBy_ends (fun rest hrest => ih (by omega)) _
      rw [hanswer]
      cases answer with
      | error f => exact ⟨_, rfl⟩
      | ok r =>
        have hrest := length_rest_formIn hanswer
        exact ih (by omega)

lemma formIn_ends (h : cs.length ≤ turns) :
    ∃ outcome, formIn comments turns depth symbols cs = some outcome :=
  formBy_ends (fun _ hrest => listIn_ends (by omega)) depth

end Ends

section Comes

def Comes (comments : Bool) (p base : Progress) (cs : List Char) :
    Outcome (Value × List Char) → Prop
  | (.ok (v, rest), symbols) =>
    Steps p (lexemes comments cs) ((base.withSymbols symbols).add v) (lexemes comments rest)
  | (.error f, symbols) => ∃ q, p.run (lexemes comments cs) = (q, .error f) ∧ q.symbols = symbols

variable {p q base : Progress}

lemma Comes.after_steps {cs' : List Char}
    (hsteps : Steps p (lexemes comments cs) q (lexemes comments cs'))
    (h : Comes comments q base cs' outcome) : Comes comments p base cs outcome := by
  obtain ⟨answer, table⟩ := outcome
  cases answer with
  | error f =>
    obtain ⟨r, hrun, hsymbols⟩ := h
    exact ⟨r, hsteps.run_eq.trans hrun, hsymbols⟩
  | ok r => exact hsteps.trans h

lemma comes_withSymbols : Comes comments p (base.withSymbols symbols) cs outcome ↔
    Comes comments p base cs outcome := by
  obtain ⟨answer, table⟩ := outcome
  cases answer <;> rfl

lemma NoForm.comes (hf : NoForm p.pending.length cs f) (hn : NoTrivia comments cs)
    (hne : cs ≠ []) (hclose : cs.head? = some ')' → p.pending = []) :
    Comes comments p base cs (.error f, p.symbols) := by
  obtain ⟨c, rest, rfl⟩ := List.exists_cons_of_ne_nil hne
  obtain ⟨l, hl⟩ : ∃ l, lexemeAt (c :: rest) = some l := by
    cases hl : lexemeAt (c :: rest) with
    | none => cases lexemeAt_eq_none hl
    | some l => exact ⟨l, rfl⟩
  have hstep : p.step l = .error f := by
    refine hf.step hl rfl fun ht => hclose ?_
    rcases lexemeAt_cases hl hn with ⟨h, -⟩ | ⟨-, h⟩ | ⟨_, h, -⟩ | ⟨_, h, -⟩ | ⟨h, -⟩ | ⟨h, -⟩
    · cases ht.symm.trans h
    · rw [h]
      rfl
    all_goals cases ht.symm.trans h
  refine ⟨p, ?_, rfl⟩
  rw [lexemes_of_noTrivia hn, hl]
  simp only [Progress.run, hstep]

def Progress.inner (p : Progress) (o : OpenList) : Progress :=
  { p with pending := o :: p.pending }

lemma formIn_comes_of (hlist : ∀ {o cs},
      listIn comments turns p.pending.length o p.symbols cs = some outcome →
      Comes comments (p.inner o) p cs outcome)
    (h : formIn comments turns p.pending.length p.symbols cs = some outcome)
    (hn : NoTrivia comments cs) (hne : cs ≠ []) (hclose : cs.head? = some ')' → p.pending = []) :
    Comes comments p p cs outcome := by
  rw [formIn] at h
  rcases formBy_cases hn p.pending.length with ⟨inner, rfl, hd⟩ | ⟨t, after, rfl, ht, hs, hd⟩ |
    ⟨f, hf⟩
  · rw [formBy_open hd] at h
    have hopen : Steps p (lexemes comments ('(' :: inner)) (p.inner ⟨'(' :: inner, []⟩)
        (lexemes comments inner) := by
      rw [lexemes_open]
      exact .head (Progress.inside_of_lt hd) .refl
    exact (hlist h).after_steps hopen
  · rw [formBy_leaf ht hs hd] at h
    obtain rfl := Option.some.inj h
    have hw : t.Within p.pending.length := by cases ht <;> exact hd
    exact tree_steps hs hw
  · rw [hf.fails] at h
    obtain rfl := Option.some.inj h
    exact hf.comes hn hne hclose

lemma listIn_comes (h : listIn comments turns p.pending.length o p.symbols cs = some outcome) :
    Comes comments (p.inner o) p cs outcome := by
  induction turns generalizing p o cs outcome with
  | zero => cases h
  | succ turns ih =>
    have hn := noTrivia_skipBlank comments cs
    have hskip : Steps (p.inner o) (lexemes comments cs) (p.inner o)
        (lexemes comments (skipBlank comments cs)) := by
      rw [lexemes_skipBlank]
      exact .refl
    refine Comes.after_steps hskip ?_
    rcases skipBlank_cases comments cs with hend | ⟨after, hclose⟩ | ⟨c, after, hform, hc⟩
    · rw [listIn_end hend] at h
      obtain rfl := Option.some.inj h
      rw [hend]
      refine ⟨p.inner o, ?_, rfl⟩
      rw [lexemes_of_noTrivia (by simp [NoTrivia])]
      rfl
    · rw [listIn_close hclose] at h
      obtain rfl := Option.some.inj h
      rw [hclose]
      refine (?_ : Steps _ _ _ _)
      rw [lexemes_close]
      exact .head rfl .refl
    · rw [listIn_form hform hc] at h
      rw [hform] at hn ⊢
      have hcomes : ∀ {outcome},
          formIn comments turns (p.pending.length + 1) p.symbols (c :: after) = some outcome →
          Comes comments (p.inner o) (p.inner o) (c :: after) outcome := fun hform =>
        formIn_comes_of (p := p.inner o) ih hform hn (by simp) (by simp [hc])
      rcases followedBy_eq_some h with ⟨f, table, hf, rfl⟩ | ⟨v, rest, table, hv, hlist⟩
      · exact hcomes hf
      · have hrest := ih (p := p.withSymbols table) hlist
        have hsteps : Steps (p.inner o) (lexemes comments (c :: after))
            ((p.withSymbols table).inner { o with elements := v :: o.elements })
            (lexemes comments rest) := hcomes hv
        exact (comes_withSymbols.1 hrest).after_steps hsteps

lemma formIn_comes (h : formIn comments turns p.pending.length p.symbols cs = some outcome)
    (hn : NoTrivia comments cs) (hne : cs ≠ []) (hclose : cs.head? = some ')' → p.pending = []) :
    Comes comments p p cs outcome :=
  formIn_comes_of listIn_comes h hn hne hclose

lemma programIn_eq (h : cs.length < turns) (hp : p.pending = []) :
    programIn comments turns p.forms p.symbols cs =
      let (q, ending) := p.run (lexemes comments cs)
      some (ending.map fun _ => q.forms.reverse, q.symbols) := by
  induction turns generalizing p cs with
  | zero => cases h
  | succ turns ih =>
    have hlength := length_skipBlank_le comments cs
    have hn := noTrivia_skipBlank comments cs
    rw [programIn, ← lexemes_skipBlank]
    cases hskip : skipBlank comments cs with
    | nil =>
      rw [lexemes_of_noTrivia (by simp [NoTrivia])]
      simp [lexemeAt, Progress.run, Progress.finish_ok_iff.2 hp, Except.map]
    | cons c rest =>
      rw [hskip] at hn hlength
      obtain ⟨⟨answer, table⟩, hanswer⟩ : ∃ outcome,
          formIn comments turns p.pending.length p.symbols (c :: rest) = some outcome :=
        formIn_ends (by omega)
      have hcomes := formIn_comes hanswer hn (by simp) fun _ => hp
      rw [hp, List.length_nil] at hanswer
      change followedBy (formIn comments turns 0 p.symbols (c :: rest)) _ = _
      rw [hanswer]
      cases answer with
      | error f =>
        obtain ⟨q, hrun, rfl⟩ := hcomes
        simp [followedBy, hrun, Except.map]
      | ok r =>
        have hrest := length_rest_formIn hanswer
        have hadd : (p.withSymbols table).add r.1 =
            { p with symbols := table, forms := r.1 :: p.forms } := by
          simp [Progress.add, Progress.withSymbols, hp]
        have hsteps : Steps p (lexemes comments (c :: rest)) ((p.withSymbols table).add r.1)
            (lexemes comments r.2) := hcomes
        rw [hadd] at hsteps
        rw [hsteps.run_eq]
        exact ih (p := { p with symbols := table, forms := r.1 :: p.forms }) (by omega) hp

end Comes

structure SkipEnds (comments : Bool) (cs : List Char) : Prop where
  suffix : skipBlank comments cs <:+ cs
  head : ∀ c ∈ (skipBlank comments cs).head?,
    c ∉ [' ', '\t', '\r', '\n'] ∧ (comments = true → c ≠ ';')
  again : skipBlank comments (skipBlank comments cs) = skipBlank comments cs
  turns (turns : Nat) : cs.length < turns → skipIn comments turns cs = some (skipBlank comments cs)

structure FormEnds (comments : Bool) (depth : Nat) (symbols : SymbolTable) (cs : List Char) :
    Prop where
  turns : ∃ outcome, ∀ turns, cs.length ≤ turns →
    formIn comments turns depth symbols cs = some outcome
  takes {turns : Nat} {v : Value} {rest : List Char} {symbols' : SymbolTable} :
    formIn comments turns depth symbols cs = some (.ok (v, rest), symbols') →
      rest.length < cs.length ∧ ∃ taken, cs = taken ++ rest ∧ ∀ more turns', turns ≤ turns' →
        formIn comments turns' depth symbols (taken ++ '\n' :: more) =
          some (.ok (v, '\n' :: more), symbols')
  comes {turns : Nat} {outcome : Outcome (Value × List Char)} {p : Progress} :
    formIn comments turns depth symbols cs = some outcome → p.pending.length = depth →
      p.symbols = symbols → NoTrivia comments cs → cs ≠ [] → cs.head? ≠ some ')' →
      Comes comments p p cs outcome

lemma skipEnds (comments : Bool) (cs : List Char) : SkipEnds comments cs where
  suffix := skipBlank_suffix comments cs
  head c hc := by
    obtain ⟨hb, hsemicolon⟩ := noTrivia_skipBlank comments cs c hc
    exact ⟨by simpa [isBlank, and_assoc] using hb, hsemicolon⟩
  again := skipBlank_of_noTrivia (noTrivia_skipBlank comments cs)
  turns _ := skipIn_eq

lemma formEnds (comments : Bool) (depth : Nat) (symbols : SymbolTable) (cs : List Char) :
    FormEnds comments depth symbols cs where
  turns := by
    obtain ⟨outcome, h⟩ : ∃ outcome, formIn comments cs.length depth symbols cs = some outcome :=
      formIn_ends le_rfl
    exact ⟨outcome, fun turns hle => formIn_mono h hle⟩
  takes h := by
    obtain ⟨taken, -, hcs, htakes⟩ := formIn_takes h
    refine ⟨length_rest_formIn h, taken, hcs, fun more turns' hle => formIn_mono ?_ hle⟩
    exact htakes ('\n' :: more) fun c hc => .inr (by simpa using hc.symm)
  comes h hp hs hn hne hclose := by
    subst hp hs
    exact formIn_comes h hn hne fun hhead => absurd hhead hclose

/-- The reader makes progress on every text. Skipping ends in as many turns as there are characters
and one more, and so do the loops over the elements of a list and over the forms of a text, whatever
is wrong with it; the last is the reader itself. -/
theorem reading_makes_progress (comments : Bool) (depth : Nat) (symbols : SymbolTable)
    (cs : List Char) :
    SkipEnds comments cs ∧ FormEnds comments depth symbols cs ∧
    (∀ o, ∃ outcome, ∀ turns, cs.length < turns →
      listIn comments turns depth o symbols cs = some outcome) ∧
    ∀ turns, cs.length < turns →
      programIn comments turns [] symbols cs = some (forms comments symbols cs) := by
  refine ⟨skipEnds comments cs, formEnds comments depth symbols cs, fun o => ?_, fun turns h => ?_⟩
  · obtain ⟨outcome, h⟩ : ∃ outcome,
        listIn comments (cs.length + 1) depth o symbols cs = some outcome :=
      listIn_ends (Nat.lt_succ_self cs.length)
    exact ⟨outcome, fun turns hlt => listIn_mono h hlt⟩
  · exact programIn_eq (p := .start symbols) h rfl

def unfinished : List Char :=
  "(x ;)\n\"\")y (".toList

theorem reading_makes_progress_unfinished :
    (∀ more, formIn true 12 3 ⟨["x"]⟩ ("(x ;)\n\"\")".toList ++ '\n' :: more) =
      some (.ok (.list [.symbol ⟨0, "x"⟩, .string ""], '\n' :: more), ⟨["x"]⟩)) ∧
    skipIn true 13 unfinished = some unfinished ∧
    forms true ⟨["x"]⟩ unfinished = (.error ⟨.unclosed, ['(']⟩, ⟨["x", "y"]⟩) := by
  obtain ⟨hskip, hform, -, hprogram⟩ := reading_makes_progress true 3 ⟨["x"]⟩ unfinished
  have hread : formIn true 12 3 ⟨["x"]⟩ unfinished =
      some (.ok (.list [.symbol ⟨0, "x"⟩, .string ""], "y (".toList), ⟨["x"]⟩) := rfl
  have hfail : programIn true 13 [] ⟨["x"]⟩ unfinished =
      some (.error ⟨.unclosed, ['(']⟩, ⟨["x", "y"]⟩) := rfl
  obtain ⟨-, taken, htaken, hmore⟩ := hform.takes hread
  have htext : "(x ;)\n\"\")".toList ++ "y (".toList = taken ++ "y (".toList := htaken
  rw [List.append_cancel_right htext]
  refine ⟨fun more => hmore more 12 le_rfl, hskip.turns 13 (by decide), ?_⟩
  exact Option.some.inj ((hprogram 13 (by decide)).symm.trans hfail)

end SmallScheme.Reader
