import Mathlib.Data.List.TakeWhile
import SmallScheme.Proofs.Grammar
import SmallScheme.Reader.Report

namespace SmallScheme.Reader

open Text Grammar

variable {comments : Bool}

lemma skipBlank_of_noTrivia {cs : List Char} (h : NoTrivia comments cs) :
    skipBlank comments cs = cs := by
  cases cs with
  | nil => rfl
  | cons c cs =>
    obtain ⟨hb, hc⟩ := h c rfl
    rw [skipBlank, if_neg (by simp [hb]), if_neg]
    simpa using hc

lemma skipComment_append {body cs : List Char} (hb : '\n' ∉ body)
    (hc : ∀ c ∈ cs.head?, c = '\n') :
    skipComment comments (body ++ cs) = skipBlank comments cs := by
  induction body with
  | nil =>
    cases cs with
    | nil => rfl
    | cons c cs =>
      obtain rfl := hc c rfl
      simp [skipComment, skipBlank, isBlank]
  | cons b body ih =>
    obtain ⟨hn, hb⟩ := not_or.1 (mt List.mem_cons.2 hb)
    rw [List.cons_append, skipComment, if_neg (by simpa using Ne.symm hn), ih hb]

lemma skipBlank_piece {piece : Piece} {cs : List Char} (hs : piece.Stands comments cs) :
    skipBlank comments (piece.text ++ cs) = skipBlank comments cs := by
  cases piece with
  | blank c =>
    have hc : isBlank c = true := hs
    simp [Piece.text, skipBlank, hc]
  | comment body =>
    obtain ⟨rfl, hb, hc⟩ := hs
    simp only [Piece.text, List.cons_append, skipBlank]
    rw [if_neg (by decide), if_pos (by decide), skipComment_append hb hc]

lemma skipBlank_gap {gap : Gap} {cs : List Char} (hs : gap.Stands comments cs) :
    skipBlank comments (gap.text ++ cs) = skipBlank comments cs := by
  induction gap with
  | nil => rfl
  | cons piece rest ih =>
    rw [Gap.text, List.append_assoc, skipBlank_piece hs.1, ih hs.2]

lemma lexemes_gap {gap : Gap} {cs : List Char} (hs : gap.Stands comments cs) :
    lexemes comments (gap.text ++ cs) = lexemes comments cs := by
  rw [lexemes, lexemes, next?, next?, skipBlank_gap hs]

lemma lexemes_of_noTrivia {cs : List Char} (h : NoTrivia comments cs) :
    lexemes comments cs =
      match lexemeAt cs with
      | none => []
      | some l => l :: lexemes comments l.rest := by
  rw [lexemes, next?, skipBlank_of_noTrivia h]
  split <;> simp_all

lemma noTrivia_cons {c : Char} {cs : List Char} (hb : isBlank c = false) (hc : c ≠ ';') :
    NoTrivia comments (c :: cs) := by
  intro d hd
  obtain rfl : c = d := by simpa using hd
  exact ⟨hb, fun _ => hc⟩

lemma lexemes_open (cs : List Char) :
    lexemes comments ('(' :: cs) = ⟨.opening, '(' :: cs, cs⟩ :: lexemes comments cs := by
  rw [lexemes_of_noTrivia (noTrivia_cons (by decide) (by decide))]
  rfl

lemma lexemes_close (cs : List Char) :
    lexemes comments (')' :: cs) = ⟨.closing, ')' :: cs, cs⟩ :: lexemes comments cs := by
  rw [lexemes_of_noTrivia (noTrivia_cons (by decide) (by decide))]
  rfl

lemma lexemeAt_string {body cs : List Char} (hb : '"' ∉ body) :
    lexemeAt ('"' :: (body ++ '"' :: cs)) =
      some ⟨.string body, '"' :: (body ++ '"' :: cs), cs⟩ := by
  have hbody : ∀ c ∈ body, isBody c = true := by
    intro c hc
    simp only [isBody, bne_iff_ne, ne_eq]
    rintro rfl
    exact hb hc
  obtain ⟨ht, hd⟩ := span_append (b := '"' :: cs) hbody (by simp [isBody])
  simp [lexemeAt, ht, hd]

lemma lexemes_string {body cs : List Char} (hb : '"' ∉ body) :
    lexemes comments ('"' :: (body ++ '"' :: cs)) =
      ⟨.string body, '"' :: (body ++ '"' :: cs), cs⟩ :: lexemes comments cs := by
  rw [lexemes_of_noTrivia (noTrivia_cons (by decide) (by decide)), lexemeAt_string hb]

lemma lexemeAt_atom {name cs : List Char} (hs : (Tree.atom name).Stands comments cs) :
    lexemeAt (name ++ cs) = some ⟨.atom name, name ++ cs, cs⟩ := by
  obtain ⟨hn, hcs⟩ := hs
  cases name with
  | nil => exact absurd rfl hn.nonempty
  | cons c name =>
    have hc := hn.chars c (by simp)
    obtain ⟨ht, -⟩ := span_append hn.chars hcs
    obtain ⟨-, hd⟩ := span_append (a := name) (fun d hd => hn.chars d (by simp [hd])) hcs
    have hparts : c ≠ '(' ∧ c ≠ ')' ∧ c ≠ '"' := by
      refine ⟨?_, ?_, ?_⟩ <;> rintro rfl <;> exact absurd hc (by decide)
    simp only [List.cons_append] at ht ⊢
    simp [lexemeAt, hparts, hc, ht, hd]

lemma lexemes_atom {name cs : List Char} (hs : (Tree.atom name).Stands comments cs) :
    lexemes comments (name ++ cs) = ⟨.atom name, name ++ cs, cs⟩ :: lexemes comments cs := by
  have hstart : NoTrivia comments (name ++ cs) := by
    obtain ⟨c, ds, ht, hb, -, hc⟩ := tree_head hs
    intro d hd
    obtain rfl : c = d := by simpa [show name = c :: ds from ht] using hd
    exact ⟨hb, hc⟩
  rw [lexemes_of_noTrivia hstart, lexemeAt_atom hs]

inductive Steps : Progress → List Lexeme → Progress → List Lexeme → Prop
  | refl {p : Progress} {ls : List Lexeme} : Steps p ls p ls
  | head {p q r : Progress} {l : Lexeme} {ls ls' : List Lexeme} :
      p.step l = .ok q → Steps q ls r ls' → Steps p (l :: ls) r ls'

namespace Steps

variable {p q r : Progress} {ls ls' ls'' : List Lexeme}

lemma trans (h : Steps p ls q ls') (h' : Steps q ls' r ls'') : Steps p ls r ls'' := by
  induction h with
  | refl => exact h'
  | head hs _ ih => exact .head hs (ih h')

lemma run_eq (h : Steps p ls q ls') : p.run ls = q.run ls' := by
  induction h with
  | refl => rfl
  | head hs _ ih => rw [Progress.run, hs, ← ih]

lemma length_le (h : Steps p ls q ls') : ls'.length ≤ ls.length := by
  induction h with
  | refl => exact Nat.le_refl _
  | head _ _ ih => exact Nat.le_succ_of_le ih

lemma unique (h : Steps p ls q ls') (h' : Steps p ls r ls') : q = r := by
  induction h with
  | refl =>
    cases h' with
    | refl => rfl
    | head _ h' => exact absurd h'.length_le (by simp)
  | head hs h ih =>
    cases h' with
    | refl => exact absurd h.length_le (by simp)
    | head hs' h' =>
      cases hs.symm.trans hs'
      exact ih h'

end Steps

namespace Progress

def addAll (p : Progress) (vs : List Value) : Progress :=
  vs.foldl add p

def withSymbols (p : Progress) (symbols : SymbolTable) : Progress :=
  { p with symbols }

lemma addAll_of_open {p : Progress} {o : OpenList} {os : List OpenList} (vs : List Value)
    (h : p.pending = o :: os) :
    p.addAll vs = { p with pending := { o with elements := vs.reverse ++ o.elements } :: os } := by
  induction vs generalizing p o with
  | nil =>
    cases p
    cases h
    rfl
  | cons v vs ih =>
    have hadd : (p.add v).pending = { o with elements := v :: o.elements } :: os := by
      rw [add, h]
    rw [addAll, List.foldl_cons]
    change (p.add v).addAll vs = _
    rw [ih hadd]
    simp [add, h]

lemma addAll_of_top {p : Progress} (vs : List Value) (h : p.pending = []) :
    p.addAll vs = { p with forms := vs.reverse ++ p.forms } := by
  induction vs generalizing p with
  | nil => rfl
  | cons v vs ih =>
    have hadd : (p.add v).pending = [] := by
      rw [add, h]
    rw [addAll, List.foldl_cons]
    change (p.add v).addAll vs = _
    rw [ih hadd]
    simp [add, h]

lemma add_withSymbols (p : Progress) (symbols : SymbolTable) (v : Value) :
    (p.withSymbols symbols).add v = (p.add v).withSymbols symbols := by
  obtain ⟨_, pending, _⟩ := p
  cases pending <;> rfl

lemma addAtom_eq (p : Progress) (a : Atom) :
    p.addAtom a = (p.withSymbols (a.value p.symbols).2).add (a.value p.symbols).1 := by
  cases a <;> rfl

lemma length_pending_add (p : Progress) (v : Value) :
    (p.add v).pending.length = p.pending.length := by
  obtain ⟨_, pending, _⟩ := p
  cases pending <;> rfl

@[simp]
lemma symbols_add (p : Progress) (v : Value) : (p.add v).symbols = p.symbols := by
  obtain ⟨_, pending, _⟩ := p
  cases pending <;> rfl

@[simp]
lemma symbols_withSymbols (p : Progress) (symbols : SymbolTable) :
    (p.withSymbols symbols).symbols = symbols := rfl

def opened (p : Progress) (start : List Char) : Progress :=
  { p with pending := ⟨start, []⟩ :: p.pending }

lemma inside_of_lt {p : Progress} {l : Lexeme} {next : Except Failure Progress}
    (h : p.pending.length < nestingLimit) : p.inside l next = next :=
  if_pos h

lemma step_close_opened (p : Progress) (start : List Char) (symbols : SymbolTable)
    (vs : List Value) (l : Lexeme) (hl : l.token = .closing) :
    (((p.opened start).withSymbols symbols).addAll vs).step l =
      .ok ((p.withSymbols symbols).add (.list vs)) := by
  have hopen : ((p.opened start).withSymbols symbols).pending = ⟨start, []⟩ :: p.pending := rfl
  rw [addAll_of_open vs hopen]
  simp [step, hl, close, opened, withSymbols]

end Progress

mutual

lemma tree_steps {t : Tree} {p : Progress} {after : List Char}
    (hs : t.Stands comments after) (hw : t.Within p.pending.length) :
    Steps p (lexemes comments (t.text ++ after))
      ((p.withSymbols (t.value p.symbols).2).add (t.value p.symbols).1)
      (lexemes comments after) := by
  cases t with
  | atom name =>
    have hw : p.pending.length < nestingLimit := hw
    rw [Tree.text, lexemes_atom hs]
    refine .head ?_ .refl
    simp only [Progress.step, Progress.inside_of_lt hw, Progress.addAtom_eq, Tree.value]
  | string body =>
    have hw : p.pending.length < nestingLimit := hw
    have htext : (Tree.string body).text ++ after = '"' :: (body ++ '"' :: after) := by
      simp [Tree.text]
    rw [htext, lexemes_string hs]
    refine .head ?_ .refl
    simp only [Progress.step, Progress.inside_of_lt hw, Tree.value]
    rfl
  | list gap forms =>
    obtain ⟨hw, hwf⟩ := hw
    have htext : (Tree.list gap forms).text ++ after =
        '(' :: (gap.text ++ (forms.text ++ ')' :: after)) := by simp [Tree.text]
    rw [htext, lexemes_open, lexemes_gap hs.1]
    refine .head (Progress.inside_of_lt hw) ?_
    apply (forms_steps (p := p.opened _) hs.2 hwf).trans
    rw [lexemes_close]
    exact .head (Progress.step_close_opened p _ _ _ _ rfl) .refl

lemma forms_steps {f : Forms} {p : Progress} {after : List Char}
    (hs : f.Stands comments after) (hw : f.Within p.pending.length) :
    Steps p (lexemes comments (f.text ++ after))
      ((p.withSymbols (f.values p.symbols).2).addAll (f.values p.symbols).1)
      (lexemes comments after) := by
  cases f with
  | nil => exact .refl
  | cons t gap rest =>
    have htext : (Forms.cons t gap rest).text ++ after =
        t.text ++ (gap.text ++ (rest.text ++ after)) := by simp [Forms.text]
    have hlength : ((p.withSymbols (t.value p.symbols).2).add (t.value p.symbols).1).pending.length
        = p.pending.length := Progress.length_pending_add _ _
    have hrest := forms_steps hs.2.2 (hlength ▸ hw.2)
    rw [htext, Forms.values_cons]
    apply (tree_steps hs.1 hw.1).trans
    rw [lexemes_gap hs.2.1]
    rw [Progress.symbols_add, Progress.symbols_withSymbols, ← Progress.add_withSymbols] at hrest
    exact hrest

end

mutual

lemma skipBlank_spec (comments : Bool) (cs : List Char) :
    ∃ gap : Gap, cs = gap.text ++ skipBlank comments cs ∧
      gap.Stands comments (skipBlank comments cs) ∧ NoTrivia comments (skipBlank comments cs) := by
  cases cs with
  | nil => exact ⟨[], rfl, trivial, by simp [skipBlank, NoTrivia]⟩
  | cons c cs =>
    rw [skipBlank]
    split
    · next hb =>
      obtain ⟨gap, hcs, hs, hn⟩ := skipBlank_spec comments cs
      refine ⟨.blank c :: gap, ?_, ⟨hb, hs⟩, hn⟩
      rw [Gap.text, Piece.text, List.append_assoc, ← hcs]
      rfl
    · next hb =>
      split
      · next hc =>
        obtain ⟨hcomments, rfl⟩ : comments = true ∧ c = ';' := by simpa using hc
        obtain ⟨body, gap, hcs, hbody, hline, hs, hn⟩ := skipComment_spec comments cs
        refine ⟨.comment body :: gap, ?_, ⟨⟨hcomments, hbody, hline⟩, hs⟩, hn⟩
        rw [Gap.text, Piece.text, List.append_assoc, List.cons_append, ← hcs]
      · next hc =>
        refine ⟨[], rfl, trivial, ?_⟩
        intro d hd
        obtain rfl : c = d := by simpa using hd
        exact ⟨by simpa using hb, by simpa using hc⟩

lemma skipComment_spec (comments : Bool) (cs : List Char) :
    ∃ (body : List Char) (gap : Gap), cs = body ++ (gap.text ++ skipComment comments cs) ∧
      '\n' ∉ body ∧ (∀ c ∈ (gap.text ++ skipComment comments cs).head?, c = '\n') ∧
      gap.Stands comments (skipComment comments cs) ∧
      NoTrivia comments (skipComment comments cs) := by
  cases cs with
  | nil => exact ⟨[], [], rfl, by simp, by simp [skipComment, Gap.text], trivial,
      by simp [skipComment, NoTrivia]⟩
  | cons c cs =>
    rw [skipComment]
    split
    · next hc =>
      obtain rfl : c = '\n' := by simpa using hc
      obtain ⟨gap, hcs, hs, hn⟩ := skipBlank_spec comments cs
      refine ⟨[], .blank '\n' :: gap, ?_, by simp, ?_, ⟨(by decide : isBlank '\n' = true), hs⟩, hn⟩
      · rw [Gap.text, Piece.text, List.nil_append, List.append_assoc, ← hcs]
        rfl
      · simp [Gap.text, Piece.text]
    · next hc =>
      obtain ⟨body, gap, hcs, hbody, hline, hs, hn⟩ := skipComment_spec comments cs
      refine ⟨c :: body, gap, ?_, ?_, hline, hs, hn⟩
      · rw [List.cons_append, ← hcs]
      · rintro hmem
        rcases List.mem_cons.1 hmem with rfl | hmem
        · simp at hc
        · exact hbody hmem

end

lemma isToken_takeWhile {c : Char} {cs : List Char} (hc : isTokenChar c = true)
    (hn : NoTrivia comments (c :: cs)) : IsToken comments ((c :: cs).takeWhile isTokenChar) where
  nonempty := by simp [hc]
  chars d hd := List.all_eq_true.1 List.all_takeWhile d hd
  noComment h := by simpa [hc] using (hn c rfl).2 h

lemma dropWhile_head {p : Char → Bool} {cs : List Char} :
    ∀ c ∈ (cs.dropWhile p).head?, p c = false := by
  intro c hc
  have h := List.head?_dropWhile_not p cs
  rw [Option.mem_def.1 hc] at h
  exact h

lemma lexemeAt_cases {ds : List Char} {l : Lexeme} (h : lexemeAt ds = some l)
    (hn : NoTrivia comments ds) :
    (l.token = .opening ∧ ds = '(' :: l.rest) ∨ (l.token = .closing ∧ ds = ')' :: l.rest) ∨
      (∃ body, l.token = .string body ∧ '"' ∉ body ∧ ds = '"' :: (body ++ '"' :: l.rest)) ∨
      (∃ name, l.token = .atom name ∧ (Tree.atom name).Stands comments l.rest ∧
        ds = name ++ l.rest) ∨
      (l.token = .unterminated ∧ ∃ cs, ds = '"' :: cs ∧ '"' ∉ cs) ∨
      (l.token = .stray ∧ ∃ c cs, ds = c :: cs ∧ isWhiteSpace c = true ∧ isBlank c = false) := by
  cases ds with
  | nil => simp [lexemeAt] at h
  | cons c cs =>
    simp only [lexemeAt] at h
    split at h
    · next hc =>
      obtain rfl : c = '(' := by simpa using hc
      obtain rfl := Option.some.inj h
      exact .inl ⟨rfl, rfl⟩
    split at h
    · next hc =>
      obtain rfl : c = ')' := by simpa using hc
      obtain rfl := Option.some.inj h
      exact .inr (.inl ⟨rfl, rfl⟩)
    split at h
    · next hc =>
      obtain rfl : c = '"' := by simpa using hc
      split at h
      · next hd =>
        obtain rfl := Option.some.inj h
        refine .inr (.inr (.inr (.inr (.inl ⟨rfl, cs, rfl, fun hmem => ?_⟩))))
        exact absurd (List.dropWhile_eq_nil_iff.1 hd '"' hmem) (by decide)
      · next d rest hd =>
        obtain rfl := Option.some.inj h
        have hq : isBody d = false := dropWhile_head d (by rw [hd]; rfl)
        obtain rfl : d = '"' := by simpa [isBody] using hq
        refine .inr (.inr (.inl ⟨_, rfl, ?_, ?_⟩))
        · intro hmem
          exact absurd (List.all_eq_true.1 List.all_takeWhile _ hmem) (by decide)
        · rw [← hd, List.takeWhile_append_dropWhile]
    split at h
    · next hc =>
      obtain rfl := Option.some.inj h
      have hdrop : cs.dropWhile isTokenChar = (c :: cs).dropWhile isTokenChar := by
        rw [List.dropWhile_cons, if_pos hc]
      refine .inr (.inr (.inr (.inl ⟨_, rfl, ⟨isToken_takeWhile hc hn, dropWhile_head⟩, ?_⟩)))
      rw [hdrop, List.takeWhile_append_dropWhile]
    · next ho hc hq ht =>
      obtain rfl := Option.some.inj h
      have hspace : isWhiteSpace c = true := by
        simpa [isTokenChar, show c ≠ '(' by simpa using ho, show c ≠ ')' by simpa using hc,
          show c ≠ '"' by simpa using hq] using ht
      exact .inr (.inr (.inr (.inr (.inr ⟨rfl, c, cs, rfl, hspace, (hn c rfl).1⟩))))

def Segment (comments : Bool) (depth : Nat) (cs after : List Char) : Prop :=
  ∃ (gap : Gap) (forms : Forms), cs = gap.text ++ (forms.text ++ after) ∧
    gap.Stands comments (forms.text ++ after) ∧ forms.Stands comments after ∧ forms.Within depth

def Closes (comments : Bool) : Nat → List Char → Prop
  | 0, cs => Segment comments 0 cs []
  | depth + 1, cs => ∃ after, Segment comments (depth + 1) cs (')' :: after) ∧
      Closes comments depth after

lemma Segment.cons {depth : Nat} {gap : Gap} {t : Tree} {cs after : List Char}
    (h : Segment comments depth cs after) (hg : gap.Stands comments (t.text ++ cs))
    (hs : t.Stands comments cs) (hw : t.Within depth) :
    Segment comments depth (gap.text ++ (t.text ++ cs)) after := by
  obtain ⟨gap', forms, rfl, hg', hf, hwf⟩ := h
  refine ⟨gap, .cons t gap' forms, by simp [Forms.text], ?_, ⟨hs, hg', hf⟩, ⟨hw, hwf⟩⟩
  simpa [Forms.text] using hg

lemma Closes.cons {depth : Nat} {gap : Gap} {t : Tree} {cs : List Char}
    (h : Closes comments depth cs) (hg : gap.Stands comments (t.text ++ cs))
    (hs : t.Stands comments cs) (hw : t.Within depth) :
    Closes comments depth (gap.text ++ (t.text ++ cs)) := by
  cases depth with
  | zero => exact Segment.cons h hg hs hw
  | succ depth =>
    obtain ⟨after, hseg, hcl⟩ := h
    exact ⟨after, hseg.cons hg hs hw, hcl⟩

lemma Closes.close {depth : Nat} {gap : Gap} {cs : List Char} (h : Closes comments depth cs)
    (hg : gap.Stands comments (')' :: cs)) :
    Closes comments (depth + 1) (gap.text ++ ')' :: cs) :=
  ⟨cs, ⟨gap, .nil, rfl, hg, trivial, trivial⟩, h⟩

lemma Closes.open {depth : Nat} {gap : Gap} {cs : List Char}
    (h : Closes comments (depth + 1) cs) (hg : gap.Stands comments ('(' :: cs))
    (hw : depth < nestingLimit) : Closes comments depth (gap.text ++ '(' :: cs) := by
  obtain ⟨after, ⟨gap', forms, rfl, hg', hf, hwf⟩, hcl⟩ := h
  have htext : (Tree.list gap' forms).text ++ after =
      '(' :: (gap'.text ++ (forms.text ++ ')' :: after)) := by simp [Tree.text]
  rw [← htext] at hg ⊢
  exact hcl.cons hg ⟨hg', hf⟩ ⟨hw, hwf⟩

namespace Progress

lemma run_cons_ok {p q : Progress} {l : Lexeme} {ls : List Lexeme}
    (h : p.run (l :: ls) = (q, .ok ())) : ∃ r, p.step l = .ok r ∧ r.run ls = (q, .ok ()) := by
  rw [run] at h
  cases hs : p.step l with
  | error failure => simp [hs] at h
  | ok r =>
    simp only [hs] at h
    exact ⟨r, rfl, h⟩

lemma inside_ok {p q : Progress} {l : Lexeme} {next : Except Failure Progress}
    (h : p.inside l next = .ok q) : p.pending.length < nestingLimit ∧ next = .ok q := by
  unfold inside at h
  split at h
  · next hl => exact ⟨hl, h⟩
  · cases h

lemma finish_ok_iff {p : Progress} : p.finish = .ok () ↔ p.pending = [] := by
  cases hp : p.pending <;> simp [finish, hp]

end Progress

lemma lexemeAt_eq_none {cs : List Char} (h : lexemeAt cs = none) : cs = [] := by
  cases cs with
  | nil => rfl
  | cons c cs =>
    simp only [lexemeAt] at h
    split at h
    · cases h
    split at h
    · cases h
    split at h
    · split at h <;> cases h
    split at h <;> cases h

lemma lexemeAt_start {cs : List Char} {l : Lexeme} (h : lexemeAt cs = some l) : l.start = cs := by
  cases cs with
  | nil => cases h
  | cons c cs =>
    simp only [lexemeAt] at h
    repeat' split at h
    all_goals
      obtain rfl := Option.some.inj h
      rfl

lemma Progress.step_cases {p r : Progress} {cs : List Char} {l : Lexeme}
    (hl : lexemeAt cs = some l) (hn : NoTrivia comments cs) (hstep : p.step l = .ok r) :
    (cs = '(' :: l.rest ∧ p.pending.length < nestingLimit ∧ r = p.opened cs) ∨
    (∃ o os, cs = ')' :: l.rest ∧ p.pending = o :: os ∧
      r = { p with pending := os }.add (.list o.elements.reverse)) ∨
    ∃ (t : Tree) (v : Value) (symbols : SymbolTable), cs = t.text ++ l.rest ∧
      t.Stands comments l.rest ∧ t.Within p.pending.length ∧ r = (p.withSymbols symbols).add v := by
  rcases lexemeAt_cases hl hn with ⟨ht, hd⟩ | ⟨ht, hd⟩ | ⟨body, ht, hb, hd⟩ |
    ⟨name, ht, hs, hd⟩ | ⟨ht, -⟩ | ⟨ht, -⟩
  · simp only [step, ht] at hstep
    obtain ⟨hlt, hr⟩ := inside_ok hstep
    rw [lexemeAt_start hl] at hr
    exact .inl ⟨hd, hlt, (Except.ok.inj hr).symm⟩
  · simp only [step, ht, close] at hstep
    cases hp : p.pending with
    | nil => simp [hp] at hstep
    | cons o os =>
      simp only [hp] at hstep
      exact .inr (.inl ⟨o, os, hd, rfl, (Except.ok.inj hstep).symm⟩)
  · simp only [step, ht] at hstep
    obtain ⟨hlt, hr⟩ := inside_ok hstep
    refine .inr (.inr ⟨.string body, _, p.symbols, ?_, hb, hlt, (Except.ok.inj hr).symm⟩)
    simp [Tree.text, hd]
  · simp only [step, ht] at hstep
    obtain ⟨hlt, hr⟩ := inside_ok hstep
    rw [addAtom_eq] at hr
    exact .inr (.inr ⟨.atom name, _, _, hd, hs, hlt, (Except.ok.inj hr).symm⟩)
  · simp only [step, ht] at hstep
    cases (inside_ok hstep).2
  · simp only [step, ht] at hstep
    cases (inside_ok hstep).2

lemma closes_of_step {p r : Progress} {gap : Gap} {cs : List Char} {l : Lexeme}
    (hl : lexemeAt cs = some l) (hn : NoTrivia comments cs) (hg : gap.Stands comments cs)
    (hstep : p.step l = .ok r) (hrest : Closes comments r.pending.length l.rest) :
    Closes comments p.pending.length (gap.text ++ cs) := by
  rcases Progress.step_cases hl hn hstep with ⟨rfl, hlt, rfl⟩ | ⟨o, os, rfl, hp, rfl⟩ |
    ⟨t, v, symbols, rfl, hs, hw, rfl⟩
  · exact Closes.open hrest hg hlt
  · rw [Progress.length_pending_add] at hrest
    rw [hp]
    exact Closes.close hrest hg
  · rw [Progress.length_pending_add] at hrest
    exact Closes.cons hrest hg hs hw

lemma closes_of_run {p q : Progress} {cs : List Char}
    (h : p.run (lexemes comments cs) = (q, .ok ())) : Closes comments p.pending.length cs := by
  -- The induction is on the length of the text, since what is left after a lexeme is shorter.
  obtain ⟨n, hlength⟩ : ∃ n, cs.length = n := ⟨_, rfl⟩
  induction n using Nat.strongRecOn generalizing p cs with
  | ind n ih =>
    obtain ⟨gap, hcs, hg, hn⟩ := skipBlank_spec comments cs
    generalize skipBlank comments cs = ds at hcs hg hn
    subst hcs
    rw [lexemes_gap hg, lexemes_of_noTrivia hn] at h
    cases hl : lexemeAt ds with
    | none =>
      obtain rfl := lexemeAt_eq_none hl
      rw [hl] at h
      rw [Progress.finish_ok_iff.1 (Prod.mk.inj h).2]
      exact ⟨gap, .nil, rfl, hg, trivial, trivial⟩
    | some l =>
      rw [hl] at h
      obtain ⟨r, hstep, hrun⟩ := Progress.run_cons_ok h
      have hshort : l.rest.length < n := by
        have := length_rest_lexemeAt hl
        simp only [List.length_append] at hlength
        omega
      exact closes_of_step hl hn hg hstep (ih _ hshort hrun rfl)

lemma derives_of_run {symbols : SymbolTable} {q : Progress} {cs : List Char}
    (h : (Progress.start symbols).run (lexemes comments cs) = (q, .ok ())) :
    ∃ p : Program, p.Derives comments cs ∧ p.forms.Within 0 := by
  obtain ⟨gap, forms, rfl, hg, hf, hw⟩ := closes_of_run h
  rw [List.append_nil] at hg ⊢
  exact ⟨⟨gap, forms⟩, ⟨rfl, hg, hf⟩, hw⟩

lemma run_of_derives {p : Program} {cs : List Char} (symbols : SymbolTable)
    (hp : p.Derives comments cs) (hw : p.forms.Within 0) :
    (Progress.start symbols).run (lexemes comments cs) =
      (⟨(p.forms.values symbols).2, [], (p.forms.values symbols).1.reverse⟩, .ok ()) := by
  have hsteps := forms_steps (p := Progress.start symbols) hp.forms hw
  rw [List.append_nil, Progress.addAll_of_top _ rfl] at hsteps
  rw [← hp.text, Program.text, lexemes_gap hp.gap, hsteps.run_eq, lexemes]
  simp [next?, skipBlank, lexemeAt, Progress.run, Progress.finish, Progress.withSymbols,
    Progress.start]

lemma forms_ok_iff {cs : List Char} {symbols symbols' : SymbolTable} {vs : List Value} :
    forms comments symbols cs = (.ok vs, symbols') ↔
      ∃ p : Program, p.Derives comments cs ∧ p.forms.Within 0 ∧
        p.forms.values symbols = (vs, symbols') := by
  constructor
  · intro h
    cases hrun : (Progress.start symbols).run (lexemes comments cs) with
    | mk q outcome =>
      cases outcome with
      | error failure => simp [forms, hrun, Except.map] at h
      | ok u =>
        obtain ⟨p, hp, hw⟩ := derives_of_run hrun
        rw [run_of_derives symbols hp hw] at hrun
        obtain ⟨rfl, -⟩ := Prod.mk.inj hrun
        refine ⟨p, hp, hw, ?_⟩
        rw [forms, run_of_derives symbols hp hw] at h
        simpa [Except.map, Prod.ext_iff] using h
  · rintro ⟨p, hp, hw, hvalues⟩
    simp [forms, run_of_derives symbols hp hw, hvalues, Except.map]

lemma mapError_ok_iff {α : Type} {report : Failure → ReadError} {r : Except Failure α} {a : α} :
    r.mapError report = .ok a ↔ r = .ok a := by
  cases r with
  | error failure =>
    change Except.error _ = Except.ok a ↔ _
    simp
  | ok b =>
    change Except.ok b = Except.ok a ↔ _
    simp

lemma readAll_ok_iff {text : String} {symbols symbols' : SymbolTable} {vs : List Value} :
    readAll comments text symbols = (.ok vs, symbols') ↔
      forms comments symbols text.toList = (.ok vs, symbols') := by
  simp only [readAll, Prod.ext_iff, mapError_ok_iff]

namespace Progress

variable {p q : Progress} {l : Lexeme} {ls : List Lexeme}

def count (p : Progress) : Nat :=
  p.forms.length + min 1 p.pending.length

lemma count_add (p : Progress) (v : Value) : (p.add v).count = p.forms.length + 1 := by
  obtain ⟨_, pending, _⟩ := p
  cases pending <;> simp [count, add]

lemma count_step (h : p.step l = .ok q) : q.count = p.forms.length + 1 := by
  unfold step at h
  split at h
  · unfold close at h
    split at h
    · cases h
    · obtain rfl := Except.ok.inj h
      exact count_add _ _
  · obtain rfl := Except.ok.inj (inside_ok h).2
    simp [count]
  · obtain rfl := Except.ok.inj (inside_ok h).2
    exact count_add _ _
  · obtain rfl := Except.ok.inj (inside_ok h).2
    rw [addAtom_eq, count_add]
    rfl
  · cases (inside_ok h).2
  · cases (inside_ok h).2

lemma count_run (h : p.run ls = (q, .ok ())) : p.count ≤ q.forms.length := by
  induction ls generalizing p with
  | nil =>
    obtain ⟨rfl, hfinish⟩ := Prod.mk.inj h
    simp [count, finish_ok_iff.1 hfinish]
  | cons l ls ih =>
    obtain ⟨r, hstep, hrun⟩ := run_cons_ok h
    have hr := ih hrun
    rw [count_step hstep] at hr
    have hp : p.count ≤ p.forms.length + 1 := by
      unfold count
      omega
    omega

lemma runFirst_ok_iff (hp : p.forms = []) :
    p.runFirst ls = (q, .ok []) ↔ p.run ls = (q, .ok ()) ∧ q.forms.length ≤ 1 := by
  induction ls generalizing p with
  | nil =>
    cases hfinish : p.finish with
    | error failure => simp [runFirst, run, hfinish, Except.map]
    | ok u =>
      simp only [runFirst, run, hfinish, Except.map, Prod.mk.injEq, and_true]
      exact ⟨fun h => ⟨h, by simp [← h, hp]⟩, And.left⟩
  | cons l ls ih =>
    cases hstep : p.step l with
    | error failure => simp [runFirst, run, hstep]
    | ok r =>
      have hcount := count_step hstep
      rw [hp] at hcount
      simp only [runFirst, run, hstep]
      split
      · next hr => exact ih (List.isEmpty_iff.1 hr)
      · next hr =>
        have hpos : 0 < r.forms.length := by
          rw [List.length_pos_iff]
          simpa using hr
        have hpending : r.pending = [] := by
          rw [← List.length_eq_zero_iff]
          simp only [count, List.length_nil] at hcount
          omega
        have hlength : r.forms.length = 1 := by
          simpa [count, hpending] using hcount
        -- No list is open now, so any lexeme more begins another form.
        cases ls with
        | nil =>
          simp only [run, finish_ok_iff.2 hpending, Prod.mk.injEq, and_true]
          exact ⟨fun h => ⟨h, h ▸ Nat.le_of_eq hlength⟩, And.left⟩
        | cons l' ls =>
          simp only [Prod.mk.injEq, Except.ok.injEq, reduceCtorEq, and_false, false_iff, not_and,
            Nat.not_le]
          intro hrun
          obtain ⟨r', hstep', hrun'⟩ := run_cons_ok hrun
          have hq := count_run hrun'
          rw [count_step hstep', hlength] at hq
          exact hq

end Progress

lemma reverse_eq_toList_iff {vs : List Value} {o : Option Value} :
    vs.reverse = o.toList ↔ vs.head? = o ∧ vs.length ≤ 1 := by
  match vs with
  | [] => cases o <;> simp
  | [v] => cases o <;> simp
  | v :: w :: vs =>
    have hlength : (v :: w :: vs).reverse.length ≠ o.toList.length := by
      cases o <;> simp
    simpa using fun h => hlength (congrArg List.length h)

lemma form?_ok_iff {cs : List Char} {symbols symbols' : SymbolTable} {o : Option Value} :
    form? comments symbols cs = (.ok o, symbols') ↔
      forms comments symbols cs = (.ok o.toList, symbols') := by
  have hiff : ∀ q, (Progress.start symbols).runFirst (lexemes comments cs) = (q, .ok []) ↔
      (Progress.start symbols).run (lexemes comments cs) = (q, .ok ()) ∧ q.forms.length ≤ 1 :=
    fun q => Progress.runFirst_ok_iff rfl
  constructor
  · intro h
    cases hrun : (Progress.start symbols).runFirst (lexemes comments cs) with
    | mk q outcome =>
      rw [form?, hrun] at h
      match outcome with
      | .error failure => simp at h
      | .ok (l :: ls) => simp at h
      | .ok [] =>
        obtain ⟨hall, hlength⟩ := (hiff q).1 hrun
        obtain ⟨hhead, rfl⟩ := Prod.mk.inj h
        have hreverse := reverse_eq_toList_iff.2 ⟨Except.ok.inj hhead, hlength⟩
        simp [forms, hall, Except.map, hreverse]
  · intro h
    cases hrun : (Progress.start symbols).run (lexemes comments cs) with
    | mk q outcome =>
      rw [forms, hrun] at h
      match outcome with
      | .error failure => simp [Except.map] at h
      | .ok () =>
        obtain ⟨hforms, rfl⟩ := Prod.mk.inj h
        obtain ⟨hhead, hlength⟩ := reverse_eq_toList_iff.1 (Except.ok.inj hforms)
        simp [form?, (hiff q).2 ⟨hrun, hlength⟩, hhead]

lemma read_ok_iff {text : String} {symbols symbols' : SymbolTable} {o : Option Value} :
    read comments text symbols = (.ok o, symbols') ↔
      forms comments symbols text.toList = (.ok o.toList, symbols') := by
  rw [← form?_ok_iff]
  simp only [read, Prod.ext_iff, mapError_ok_iff]

def nested (inner : Forms) : Nat → Forms
  | 0 => inner
  | n + 1 => .cons (.list [] (nested inner n)) [] .nil

lemma text_nested (inner : Forms) (n : Nat) :
    (nested inner n).text = List.replicate n '(' ++ inner.text ++ List.replicate n ')' := by
  induction n with
  | zero => simp [nested]
  | succ n ih =>
    rw [List.replicate_succ, List.replicate_succ']
    simp [nested, Forms.text, Tree.text, Gap.text, ih]

lemma stands_nested {inner : Forms} (n : Nat) {after : List Char} (ha : Ends after)
    (h : ∀ after, Ends after → inner.Stands comments after) :
    (nested inner n).Stands comments after := by
  induction n generalizing after with
  | zero => exact h after ha
  | succ n ih => exact ⟨⟨trivial, ih (.close _)⟩, trivial, trivial⟩

lemma within_nested (inner : Forms) (n : Nat) {depth : Nat} (hd : depth ≤ nestingLimit) :
    (nested inner n).Within depth ↔ depth + n ≤ nestingLimit ∧ inner.Within (depth + n) := by
  induction n generalizing depth with
  | zero => exact ⟨fun h => ⟨hd, h⟩, And.right⟩
  | succ n ih =>
    have hsucc : depth + 1 + n = depth + (n + 1) := by omega
    constructor
    · rintro ⟨⟨hlt, hw⟩, -⟩
      rw [← hsucc]
      exact (ih hlt).1 hw
    · rintro ⟨hle, hw⟩
      have hlt : depth + 1 ≤ nestingLimit := by omega
      rw [← hsucc] at hle hw
      exact ⟨⟨hlt, (ih hlt).2 ⟨hle, hw⟩⟩, trivial⟩

def Accepts (comments : Bool) (text : String) (symbols : SymbolTable) : Prop :=
  ∃ vs symbols', readAll comments text symbols = (.ok vs, symbols')

lemma accepts_nested_iff {inner : Forms}
    (h : ∀ after, Ends after → inner.Stands comments after) (n : Nat) (symbols : SymbolTable) :
    Accepts comments (String.ofList (List.replicate n '(' ++ inner.text ++ List.replicate n ')'))
        symbols ↔ n ≤ nestingLimit ∧ inner.Within n := by
  have hp : Program.Derives comments ⟨[], nested inner n⟩
      (List.replicate n '(' ++ inner.text ++ List.replicate n ')') :=
    ⟨text_nested inner n, trivial, stands_nested n (by simp [Ends]) h⟩
  have hwithin := within_nested inner n (Nat.zero_le nestingLimit)
  rw [Nat.zero_add] at hwithin
  rw [← hwithin]
  constructor
  · rintro ⟨vs, symbols', hread⟩
    rw [readAll_ok_iff, String.toList_ofList] at hread
    obtain ⟨q, hq, hw, -⟩ := forms_ok_iff.1 hread
    obtain rfl := program_unique hp hq
    exact hw
  · intro hw
    have hforms := forms_ok_iff.2 ⟨_, hp, hw, (rfl : (nested inner n).values symbols = (_, _))⟩
    rw [← String.toList_ofList (l := _ ++ _), ← readAll_ok_iff] at hforms
    exact ⟨_, _, hforms⟩

lemma accepts_nested_nil (n : Nat) (symbols : SymbolTable) :
    Accepts comments (String.ofList (List.replicate n '(' ++ List.replicate n ')')) symbols ↔
      n ≤ nestingLimit := by
  have hstands : ∀ after, Ends after → Forms.nil.Stands comments after := fun _ _ => trivial
  have h := accepts_nested_iff hstands n symbols
  simpa [Forms.text, Forms.Within] using h

lemma accepts_nested_token {name : List Char} (hn : IsToken comments name) (n : Nat)
    (symbols : SymbolTable) :
    Accepts comments (String.ofList (List.replicate n '(' ++ name ++ List.replicate n ')'))
        symbols ↔ n < nestingLimit := by
  have hstands : ∀ after, Ends after →
      (Forms.cons (.atom name) [] .nil).Stands comments after := by
    intro after ha
    refine ⟨⟨hn, fun c hc => ?_⟩, trivial, trivial⟩
    obtain rfl := ha c (by simpa [Gap.text, Forms.text] using hc)
    decide
  have h := accepts_nested_iff hstands n symbols
  have hwithin : (Forms.cons (.atom name) [] .nil).Within n ↔ n < nestingLimit :=
    and_iff_left trivial
  rw [hwithin] at h
  have htext : (Forms.cons (.atom name) [] .nil).text = name := by
    simp [Forms.text, Tree.text, Gap.text]
  rw [htext] at h
  rw [h]
  exact ⟨And.right, fun hlt => ⟨Nat.le_of_lt hlt, hlt⟩⟩

/-- The reader accepts exactly the texts that derive with no form directly inside 128 lists or
more. The derivation is unique, and the forms read are its values. -/
theorem readAll_ok_iff_derives (comments : Bool) (text : String) (symbols : SymbolTable) :
    (∀ vs symbols', readAll comments text symbols = (.ok vs, symbols') ↔
      ∃ p : Program, p.Derives comments text.toList ∧ p.forms.Within 0 ∧
        p.forms.values symbols = (vs, symbols')) ∧
    (∀ p q : Program, p.Derives comments text.toList → q.Derives comments text.toList → p = q) ∧
    (∀ n, Accepts comments (String.ofList (List.replicate n '(' ++ List.replicate n ')')) symbols ↔
      n ≤ 128) ∧
    (∀ n name, IsToken comments name →
      (Accepts comments (String.ofList (List.replicate n '(' ++ name ++ List.replicate n ')'))
        symbols ↔ n < 128)) := by
  refine ⟨fun vs symbols' => ?_, fun p q hp hq => program_unique hp hq,
    fun n => accepts_nested_nil n symbols, fun n name hn => accepts_nested_token hn n symbols⟩
  rw [readAll_ok_iff]
  exact forms_ok_iff

def adjacent : Program where
  gap := []
  forms := .cons (.list [] (.cons (.atom ['a']) [] (.cons (.string ['b']) [] .nil))) [] .nil

lemma isToken_a : IsToken true ['a'] :=
  isToken_of_all (by decide) (by decide) (by decide)

lemma adjacent_derives : adjacent.Derives true "(a\"b\")".toList where
  text := by decide
  gap := trivial
  forms :=
    have hbody : '"' ∉ ['b'] := by decide
    have hquote : isTokenChar '"' = false := by decide
    ⟨⟨trivial, ⟨isToken_a, ends_token hquote⟩, trivial, hbody, trivial, trivial⟩, trivial, trivial⟩

theorem readAll_ok_iff_derives_adjacent :
    readAll true "(a\"b\")" .empty =
      (.ok [.list [.symbol ⟨0, "a"⟩, .string "b"]], ⟨["a"]⟩) ∧
    (∀ p : Program, p.Derives true "(a\"b\")".toList → p = adjacent) ∧
    ¬ Accepts true (String.ofList (List.replicate 128 '(' ++ ['a'] ++ List.replicate 128 ')'))
      .empty := by
  obtain ⟨hread, hunique, -, htoken⟩ := readAll_ok_iff_derives true "(a\"b\")" .empty
  refine ⟨(hread _ _).2 ⟨adjacent, adjacent_derives, ?_, ?_⟩,
    fun p hp => hunique p adjacent hp adjacent_derives, fun h => ?_⟩
  · have hone : 1 < nestingLimit := by decide
    exact ⟨⟨by decide, hone, hone, trivial⟩, trivial⟩
  · rfl
  · exact absurd ((htoken 128 ['a'] isToken_a).1 h) (by decide)

end SmallScheme.Reader
