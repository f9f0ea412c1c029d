import Mathlib.Data.List.Induction
import SmallScheme.Proofs.Reading
import SmallScheme.Proofs.TextSession

namespace SmallScheme

namespace Reader

open Grammar

variable {comments : Bool} {symbols symbols' : SymbolTable} {vs : List Value}

namespace Progress

def withPast (p : Progress) (before : List Value) : Progress :=
  { p with forms := p.forms ++ before }

lemma add_withPast (p : Progress) (before : List Value) (v : Value) :
    (p.withPast before).add v = (p.add v).withPast before := by
  obtain ⟨_, pending, _⟩ := p
  cases pending <;> rfl

lemma addAtom_withPast (p : Progress) (before : List Value) (a : Atom) :
    (p.withPast before).addAtom a = (p.addAtom a).withPast before := by
  rw [addAtom_eq, addAtom_eq]
  exact add_withPast (p.withSymbols _) before _

lemma inside_withPast (p : Progress) (before : List Value) (l : Lexeme)
    (next : Except Failure Progress) :
    (p.withPast before).inside l (next.map (·.withPast before)) =
      (p.inside l next).map (·.withPast before) := by
  have hpending : (p.withPast before).pending = p.pending := rfl
  unfold inside
  rw [hpending]
  split <;> rfl

lemma close_withPast (p : Progress) (before : List Value) (l : Lexeme) :
    (p.withPast before).close l = (p.close l).map (·.withPast before) := by
  obtain ⟨symbols, pending, finished⟩ := p
  cases pending with
  | nil => rfl
  | cons o os => exact congrArg Except.ok (add_withPast ⟨symbols, os, finished⟩ before _)

lemma step_withPast (p : Progress) (before : List Value) (l : Lexeme) :
    (p.withPast before).step l = (p.step l).map (·.withPast before) := by
  unfold step
  cases l.token with
  | closing => exact close_withPast p before l
  | opening => exact inside_withPast p before l (.ok (p.opened l.start))
  | string body =>
    simp only [add_withPast]
    exact inside_withPast p before l (.ok _)
  | atom name =>
    simp only [addAtom_withPast]
    exact inside_withPast p before l (.ok _)
  | unterminated => exact inside_withPast p before l (.error _)
  | stray => exact inside_withPast p before l (.error _)

lemma run_withPast (p : Progress) (before : List Value) (ls : List Lexeme) :
    (p.withPast before).run ls = ((p.run ls).1.withPast before, (p.run ls).2) := by
  induction ls generalizing p with
  | nil => rfl
  | cons l ls ih =>
    simp only [run, step_withPast]
    cases p.step l with
    | error failure => rfl
    | ok q => exact ih q

end Progress

lemma run_line {p : Program} {cs : List Char} (symbols : SymbolTable)
    (hp : p.Derives comments cs) (hw : p.forms.Within 0) (line : List Char) :
    (Progress.start symbols).run (lexemes comments (cs ++ '\n' :: line)) =
      ((Progress.start (p.forms.values symbols).2).withPast (p.forms.values symbols).1.reverse).run
        (lexemes comments line) := by
  have hblank : Gap.Stands comments [.blank '\n'] line :=
    ⟨(by decide : Text.isBlank '\n' = true), trivial⟩
  have hgap := hp.gap.follow (follows_line p.forms.text line)
  have hforms := hp.forms.follow (follows_line [] line)
  have hsteps := (forms_steps (p := Progress.start symbols) hforms hw).run_eq
  rw [Progress.addAll_of_top _ rfl] at hsteps
  rw [← hp.text, Program.text, List.append_assoc, lexemes_gap hgap, ← lexemes_gap hblank]
  simpa [Progress.withPast, Progress.withSymbols, Progress.start, Gap.text, Piece.text]
    using hsteps

lemma forms_line {cs : List Char} (h : forms comments symbols cs = (.ok vs, symbols'))
    (line : List Char) :
    forms comments symbols (cs ++ '\n' :: line) =
      ((forms comments symbols' line).1.map (vs ++ ·), (forms comments symbols' line).2) := by
  obtain ⟨p, hp, hw, hvalues⟩ := forms_ok_iff.1 h
  have hrun := run_line symbols hp hw line
  rw [hvalues, Progress.run_withPast] at hrun
  simp only [forms, hrun]
  cases ((Progress.start symbols').run (lexemes comments line)).2 with
  | error failure => rfl
  | ok _ => simp [Except.map, Progress.withPast]

lemma readAll_line {a b : String} {ws : List Value} {symbols'' : SymbolTable}
    (ha : readAll comments a symbols = (.ok vs, symbols'))
    (hb : readAll comments b symbols' = (.ok ws, symbols'')) :
    readAll comments (a ++ "\n" ++ b) symbols = (.ok (vs ++ ws), symbols'') := by
  rw [readAll_ok_iff] at ha hb ⊢
  have htext : (a ++ "\n" ++ b).toList = a.toList ++ '\n' :: b.toList := by simp
  rw [htext, forms_line ha, hb]
  rfl

lemma readAll_empty (comments : Bool) (symbols : SymbolTable) :
    readAll comments "" symbols = (.ok [], symbols) :=
  readAll_ok_iff.2 (forms_ok_iff.2 ⟨⟨[], .nil⟩, ⟨rfl, trivial, trivial⟩, trivial, rfl⟩)

lemma readAll_lines {texts : List String} {text : String} {ws : List Value}
    {symbols'' : SymbolTable}
    (h : readAll comments ("\n".intercalate texts) symbols = (.ok vs, symbols'))
    (ht : readAll comments text symbols' = (.ok ws, symbols'')) :
    readAll comments ("\n".intercalate (texts ++ [text])) symbols =
      (.ok (vs ++ ws), symbols'') := by
  cases texts with
  | nil =>
    rw [String.intercalate_nil, readAll_empty] at h
    cases h
    simpa using ht
  | cons first rest =>
    rw [String.intercalate_append_of_ne_nil (by simp) (by simp), String.intercalate_singleton]
    exact readAll_line h ht

lemma readAll_any {text : String} (h : readAll comments text symbols = (.ok vs, symbols'))
    (table : SymbolTable) :
    ∃ ws table', readAll comments text table = (.ok ws, table') ∧ (ws = [] → vs = []) := by
  rw [readAll_ok_iff] at h
  obtain ⟨p, hp, hw, hvalues⟩ := forms_ok_iff.1 h
  refine ⟨_, _, readAll_ok_iff.2 (forms_ok_iff.2 ⟨p, hp, hw, rfl⟩), fun hnil => ?_⟩
  rcases p with ⟨gap, _ | ⟨t, gap', rest⟩⟩
  · exact (Prod.mk.inj hvalues).1.symm
  · cases hnil

instance (comments : Bool) (text : String) (symbols : SymbolTable) :
    Decidable (Accepts comments text symbols) :=
  match h : readAll comments text symbols with
  | (.ok vs, symbols') => .isTrue ⟨vs, symbols', h⟩
  | (.error _, _) => .isFalse fun ⟨_, _, h'⟩ => nomatch h.symm.trans h'

end Reader

lemma Eval.sequence_append (inner : Evaluator) (e : Scope) (last : Value) (xs ys : List Value) :
    sequence inner e last (xs ++ ys) =
      sequence inner e last xs >>= fun v => sequence inner e v ys := by
  induction xs generalizing last with
  | nil => rw [List.nil_append, sequence, pure_bind]
  | cons x xs ih =>
    rw [List.cons_append, sequence, sequence, bind_assoc]
    exact congrArg _ (funext ih)

namespace Session

def runTexts (texts : List String) : Action Value :=
  texts.foldlM (fun _ text => runText text) .unspecified

structure Alike (s s' : Session) : Prop where
  world : ∃ events, s'.world = { s.world with events }
  global : s'.global = s.global
  comments : s'.comments = s.comments

inductive EndAlike (symbols : SymbolTable) (valued : Prop) :
    EStateM.Result Error Session Value → EStateM.Result Error Session Value → Prop
  | ok {v v' : Value} {s s' : Session} : (valued → v = v') → s.symbols = symbols → s.Alike s' →
      EndAlike symbols valued (.ok v s) (.ok v' s')
  | error {err : Error} {s s' : Session} : s.Alike s' →
      EndAlike symbols valued (.error err s) (.error err s')

variable {s s' : Session} {symbols symbols' : SymbolTable} {valued valued' : Prop}

lemma EndAlike.imp {r r' : EStateM.Result Error Session Value} (h : EndAlike symbols valued r r')
    (hv : valued' → valued) : EndAlike symbols valued' r r' := by
  cases h with
  | ok heq hsymbols hs => exact .ok (heq ∘ hv) hsymbols hs
  | error hs => exact .error hs

lemma EndAlike.bind {m m' : Action Value} {f f' : Value → Action Value}
    (h : EndAlike symbols valued (m s) (m' s'))
    (hf : ∀ v v' u u', m' s' = .ok v' u' → u.symbols = symbols → u.Alike u' →
      EndAlike symbols' valued' (f v u) (f' v' u')) :
    EndAlike symbols' valued' ((m >>= f) s) ((m' >>= f') s') := by
  change EndAlike symbols' valued' (EStateM.bind m f s) (EStateM.bind m' f' s')
  unfold EStateM.bind
  generalize m s = result at h
  generalize m' s' = result' at h hf
  cases h with
  | ok _ hsymbols hs => exact hf _ _ _ _ rfl hsymbols hs
  | error hs => exact .error hs

lemma perform_bind {α β : Type} (m : Run α) (f : α → Run β) :
    perform (m >>= f) = perform m >>= fun a => perform (f a) := by
  funext s
  have hbind : (m >>= f) s.world = EStateM.bind m f s.world := rfl
  change _ = EStateM.bind (perform m) _ s
  unfold EStateM.bind perform
  rw [hbind, EStateM.bind]
  cases m s.world <;> rfl

lemma perform_ok {α : Type} {run : Run α} {a : α} (h : perform run s = .ok a s') :
    ∃ w, s' = { s with world := w } := by
  unfold perform at h
  cases hrun : run s.world with
  | ok b w =>
    rw [hrun] at h
    cases h
    exact ⟨w, rfl⟩
  | error err w => simp [hrun] at h

lemma sequence_alike (forms : List Value) (last last' : Value) (hs : s.Alike s') :
    EndAlike s.symbols (forms ≠ []) (perform (Eval.sequence evaluate s.global last forms) s)
      (perform (Eval.sequence evaluate s.global last' forms) s') := by
  cases forms with
  | nil => exact .ok (fun h => absurd rfl h) rfl hs
  | cons x xs =>
    -- The first form makes the value so far irrelevant; what is left differs in the log alone.
    have haligned : (Invariant.ofStores (fun _ => True) (fun _ _ _ => id) id fun _ => id).Aligned ()
        (fun _ _ => True) (Eval.sequence evaluate s.global last (x :: xs)) :=
      Invariant.aligned_sequence depthLimit (fun _ _ => trivial) trivial trivial
    obtain ⟨_, _, ho⟩ := haligned () le_rfl s.world s'.world
      ⟨Invariant.holds_ofStores trivial, hs.world⟩
    change EndAlike _ _ _ (perform (Eval.sequence evaluate s.global last (x :: xs)) s')
    unfold perform
    generalize Eval.sequence evaluate s.global last (x :: xs) s.world = result at ho
    generalize Eval.sequence evaluate s.global last (x :: xs) s'.world = result' at ho
    cases ho with
    | ok hv hw => exact .ok (fun _ => hv.1) rfl ⟨hw.2, hs.global, hs.comments⟩
    | error he hw =>
      obtain rfl := he
      exact .error ⟨hw.2, hs.global, hs.comments⟩

lemma runText_alike {text : String} {forms : List Value} (last : Value)
    (h : Reader.readAll s.comments text s.symbols = (.ok forms, symbols)) (hs : s.Alike s') :
    EndAlike symbols (forms ≠ []) (runText text s)
      (perform (Eval.sequence evaluate s'.global last forms) s') := by
  obtain ⟨⟨events, hw⟩, hglobal, hcomments⟩ := hs
  rw [runText_apply, h, hglobal]
  exact sequence_alike (s := { s with symbols, world := { s.world with events := _ } }) forms _ last
    ⟨⟨events, hw⟩, hglobal, hcomments⟩

lemma runTexts_alike {texts : List String}
    (h : ∀ text ∈ texts, Reader.Accepts s.comments text s.symbols) :
    ∃ forms symbols,
      Reader.readAll s.comments ("\n".intercalate texts) s.symbols = (.ok forms, symbols) ∧
      ∀ s', s.Alike s' → EndAlike symbols
        (∀ text ∈ texts.getLast?, (Reader.readAll s.comments text s.symbols).1 ≠ .ok [])
        (runTexts texts s) (perform (Eval.sequence evaluate s'.global .unspecified forms) s') := by
  -- Texts are taken off the end, since the last one decides the value.
  induction texts using List.reverseRecOn with
  | nil => exact ⟨[], s.symbols, Reader.readAll_empty _ _, fun _ hs => .ok (fun _ => rfl) rfl hs⟩
  | append_singleton texts text ih =>
    obtain ⟨forms, symbols, hread, hrun⟩ := ih fun t ht => h t (by simp [ht])
    obtain ⟨vs, _, hvs⟩ := h text (by simp)
    -- Run by itself, the text meets the symbols of the texts before it, as it does when joined.
    obtain ⟨ws, symbols', hws, hnil⟩ := Reader.readAll_any hvs symbols
    refine ⟨forms ++ ws, symbols', Reader.readAll_lines hread hws, fun s' hs => ?_⟩
    rw [runTexts, List.foldlM_append, Eval.sequence_append, perform_bind]
    refine (hrun s' hs).bind fun v v' u u' hu' hsymbols hu => ?_
    obtain ⟨w, rfl⟩ := perform_ok hu'
    have hread : Reader.readAll u.comments text u.symbols = (.ok ws, symbols') := by
      rw [hsymbols, ← hu.comments, hs.comments]
      exact hws
    have hne : (∀ t ∈ (texts ++ [text]).getLast?,
        (Reader.readAll s.comments t s.symbols).1 ≠ .ok []) → ws ≠ [] := by
      intro hlast hempty
      refine hlast text (by simp) ?_
      rw [hvs, hnil hempty]
    simp only [List.foldlM_cons, List.foldlM_nil, bind_pure]
    exact (runText_alike v' hread hu).imp hne

end Session

open Session in
/-- Texts that can be read end alike, run one after another or as one text, with the same value if
the last holds a form. A text that cannot be read changes nothing but the symbols. -/
theorem runTexts_ends_as_joined (s : Session) :
    (∀ texts, (∀ text ∈ texts, Reader.Accepts s.comments text s.symbols) →
      EndAlike (Reader.readAll s.comments ("\n".intercalate texts) s.symbols).2
        (∀ text ∈ texts.getLast?, (Reader.readAll s.comments text s.symbols).1 ≠ .ok [])
        (runTexts texts s) (runText ("\n".intercalate texts) s)) ∧
    ∀ text err symbols, Reader.readAll s.comments text s.symbols = (.error err, symbols) →
      runText text s = .error (.read err) { s with symbols } := by
  refine ⟨fun texts h => ?_, fun text err symbols hread => ?_⟩
  · obtain ⟨forms, symbols, hread, hrun⟩ := runTexts_alike h
    rw [runText_apply, hread]
    exact hrun { s with symbols, world := { s.world with events := _ } } ⟨⟨_, rfl⟩, rfl, rfl⟩
  · rw [runText_apply, hread]

namespace Session

def split : List String :=
  ["(define x #t) ; (", "", "(display x) x"]

def commented : Session :=
  { start .collecting with comments := true }

lemma accepts_split : ∀ text ∈ split,
    Reader.Accepts commented.comments text commented.symbols := by
  decide +kernel

lemma split_last : ∀ text ∈ split.getLast?,
    (Reader.readAll commented.comments text commented.symbols).1 ≠ .ok [] := by
  intro text htext hread
  obtain rfl : "(display x) x" = text := by simpa [split] using htext
  have hlength : ((Reader.readAll commented.comments "(display x) x" commented.symbols).1.map
      List.length).toOption = some 2 := by
    decide +kernel
  rw [hread] at hlength
  cases hlength

theorem runTexts_ends_as_joined_split :
    EndAlike (Reader.readAll true "(define x #t) ; (\n\n(display x) x" commented.symbols).2 True
      (runTexts split commented) (runText "(define x #t) ; (\n\n(display x) x" commented) ∧
    ∃ err symbols, runText "(display #t) )" commented =
      .error (.read err) { commented with symbols } := by
  obtain ⟨hrun, hfail⟩ := runTexts_ends_as_joined commented
  refine ⟨(hrun split accepts_split).imp fun _ => split_last, ?_⟩
  have hrejected : ¬ Reader.Accepts commented.comments "(display #t) )" commented.symbols := by
    decide +kernel
  cases hread : Reader.readAll commented.comments "(display #t) )" commented.symbols with
  | mk outcome symbols =>
    cases outcome with
    | ok vs => exact absurd ⟨vs, symbols, hread⟩ hrejected
    | error err => exact ⟨err, symbols, hfail _ err symbols hread⟩

end Session

end SmallScheme
