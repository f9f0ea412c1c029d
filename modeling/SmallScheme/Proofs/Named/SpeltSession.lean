import SmallScheme.Proofs.Named.Session
import SmallScheme.Proofs.Named.Spelling
import SmallScheme.Proofs.Reading

namespace SmallScheme

open List

namespace Reader

structure ProgressSpelt (p : Progress) (p' : Named.Reader.Progress) : Prop where
  sound : p.symbols.Sound
  pending : Forall₂ (fun o o' => o.start = o'.1 ∧ Forall₂ (Spelt p.symbols) o.elements o'.2)
    p.pending p'.pending
  forms : Forall₂ (Spelt p.symbols) p.forms p'.forms

namespace ProgressSpelt

variable {p : Progress} {p' : Named.Reader.Progress} {v : Value} {v' : Named.Value}

lemma add (h : ProgressSpelt p p') (hv : Spelt p.symbols v v') :
    ProgressSpelt (p.add v) (p'.add v') := by
  obtain ⟨symbols, pending, forms⟩ := p
  obtain ⟨pending', forms'⟩ := p'
  obtain ⟨hsound, hpending, hforms⟩ := h
  cases hpending with
  | nil => exact ⟨hsound, .nil, .cons hv hforms⟩
  | cons ho hos => exact ⟨hsound, .cons ⟨ho.1, .cons hv ho.2⟩ hos, hforms⟩

lemma withSymbols (h : ProgressSpelt p p') {symbols : SymbolTable} (hle : p.symbols ≤ symbols)
    (hsound : symbols.Sound) : ProgressSpelt { p with symbols } p' where
  sound := hsound
  pending := h.pending.imp fun _ _ ho => ⟨ho.1, ho.2.imp fun _ _ hv => hv.mono hle⟩
  forms := h.forms.imp fun _ _ hv => hv.mono hle

lemma addAtom (h : ProgressSpelt p p') (a : Atom) :
    p.symbols ≤ (p.addAtom a).symbols ∧
      ProgressSpelt (p.addAtom a) (p'.add (Named.Reader.atom a)) := by
  cases a with
  | bool b => exact ⟨(Progress.symbols_add p _).ge, h.add (.bool b)⟩
  | number x => exact ⟨(Progress.symbols_add p _).ge, h.add (.number x)⟩
  | name text =>
    have hle := p.symbols.le_intern text
    have hq := h.withSymbols hle (h.sound.intern text)
    refine ⟨?_, hq.add (.symbol (p.symbols.spells_intern text))⟩
    rw [Progress.addAtom, Progress.symbols_add]
    exact hle

def Next (p q : Progress) (q' : Named.Reader.Progress) : Prop :=
  p.symbols ≤ q.symbols ∧ ProgressSpelt q q'

lemma inside (h : ProgressSpelt p p') (l : Lexeme) {next : Except Failure Progress}
    {next' : Except Failure Named.Reader.Progress} (hnext : Alike (Next p) next next') :
    Alike (Next p) (p.inside l next) (p'.inside l next') := by
  unfold Progress.inside Named.Reader.Progress.inside
  rw [h.pending.length_eq]
  split
  · exact hnext
  · exact .error

lemma close (h : ProgressSpelt p p') (l : Lexeme) : Alike (Next p) (p.close l) (p'.close l) := by
  obtain ⟨symbols, pending, forms⟩ := p
  obtain ⟨pending', forms'⟩ := p'
  obtain ⟨hsound, hpending, hforms⟩ := h
  cases hpending with
  | nil => exact .error
  | @cons o o' os os' ho hos =>
    have hq : ProgressSpelt ⟨symbols, os, forms⟩ ⟨os', forms'⟩ := ⟨hsound, hos, hforms⟩
    have hlist : Spelt symbols (.list o.elements.reverse) (.list o'.2.reverse) :=
      .list (speltAll_iff.2 (rel_reverse ho.2))
    refine .ok ⟨?_, hq.add hlist⟩
    rw [Progress.symbols_add]

lemma step (h : ProgressSpelt p p') (l : Lexeme) : Alike (Next p) (p.step l) (p'.step l) := by
  unfold Progress.step Named.Reader.Progress.step
  cases l.token with
  | closing => exact h.close l
  | opening =>
    refine h.inside l (.ok ⟨le_rfl, h.sound, ?_, h.forms⟩)
    exact .cons ⟨rfl, .nil⟩ h.pending
  | string body => exact h.inside l (.ok ⟨(Progress.symbols_add p _).ge, h.add (.string _)⟩)
  | atom name => exact h.inside l (.ok (h.addAtom _))
  | unterminated => exact h.inside l .error
  | stray => exact h.inside l .error

lemma finish_eq (h : ProgressSpelt p p') : p.finish = p'.finish := by
  obtain ⟨symbols, pending, forms⟩ := p
  obtain ⟨pending', forms'⟩ := p'
  cases h.pending with
  | nil => rfl
  | cons ho _ =>
    exact congrArg (fun start => (.error ⟨.unclosed, start⟩ : Except Failure Unit)) ho.1

lemma run (h : ProgressSpelt p p') (ls : List Lexeme) :
    p.symbols ≤ (p.run ls).1.symbols ∧ (p.run ls).1.symbols.Sound ∧
      Alike (Forall₂ (Spelt (p.run ls).1.symbols))
        ((p.run ls).2.map fun _ => (p.run ls).1.forms.reverse) (p'.run ls) := by
  induction ls generalizing p p' with
  | nil =>
    refine ⟨le_rfl, h.sound, ?_⟩
    simp only [Progress.run, Named.Reader.Progress.run, h.finish_eq]
    cases p'.finish with
    | ok _ => exact .ok (rel_reverse h.forms)
    | error failure => exact .error
  | cons l ls ih =>
    have hstep := h.step l
    simp only [Progress.run, Named.Reader.Progress.run]
    generalize p.step l = next at hstep
    generalize p'.step l = next' at hstep
    cases hstep with
    | error => exact ⟨le_rfl, h.sound, .error⟩
    | ok hq =>
      obtain ⟨hle, hsound, halike⟩ := ih hq.2
      exact ⟨hq.1.trans hle, hsound, halike⟩

lemma head? {t : SymbolTable} {vs : List Value} {ws : List Named.Value}
    (h : Forall₂ (Spelt t) vs ws) : Option.Rel (Spelt t) vs.head? ws.head? := by
  cases h with
  | nil => exact .none
  | cons hv _ => exact .some hv

lemma isEmpty_eq {t : SymbolTable} {vs : List Value} {ws : List Named.Value}
    (h : Forall₂ (Spelt t) vs ws) : vs.isEmpty = ws.isEmpty := by
  cases h with
  | nil => rfl
  | cons _ _ => rfl

def only : Progress × Except Failure (List Lexeme) → Except Failure (Option Value)
  | (_, .error failure) => .error failure
  | (q, .ok []) => .ok q.forms.head?
  | (_, .ok (l :: _)) => .error (excess l)

lemma runFirst (h : ProgressSpelt p p') (ls : List Lexeme) :
    p.symbols ≤ (p.runFirst ls).1.symbols ∧ (p.runFirst ls).1.symbols.Sound ∧
      Alike (Option.Rel (Spelt (p.runFirst ls).1.symbols)) (only (p.runFirst ls))
        (p'.runFirst ls) := by
  induction ls generalizing p p' with
  | nil =>
    refine ⟨le_rfl, h.sound, ?_⟩
    simp only [Progress.runFirst, Named.Reader.Progress.runFirst, h.finish_eq]
    cases p'.finish with
    | ok _ => exact .ok (head? h.forms)
    | error failure => exact .error
  | cons l ls ih =>
    have hstep := h.step l
    simp only [Progress.runFirst, Named.Reader.Progress.runFirst]
    generalize p.step l = next at hstep
    generalize p'.step l = next' at hstep
    cases hstep with
    | error => exact ⟨le_rfl, h.sound, .error⟩
    | @ok q q' hq =>
      have hempty : q.forms.isEmpty = q'.forms.isEmpty := isEmpty_eq hq.2.forms
      simp only [hempty]
      by_cases hforms : q'.forms.isEmpty = true
      · obtain ⟨hle, hsound, halike⟩ := ih hq.2
        simp only [if_pos hforms]
        exact ⟨hq.1.trans hle, hsound, halike⟩
      · simp only [if_neg hforms]
        refine ⟨hq.1, hq.2.sound, ?_⟩
        cases ls with
        | nil => exact .ok (head? hq.2.forms)
        | cons l ls => exact .error

end ProgressSpelt

variable {t : SymbolTable}

lemma start_spelt (ht : t.Sound) : ProgressSpelt (Progress.start t) ⟨[], []⟩ :=
  ⟨ht, .nil, .nil⟩

lemma alike_report {α β : Type} {r : α → β → Prop} {x : Except Failure α} {x' : Except Failure β}
    (h : Alike r x x') (cs : List Char) :
    Alike r (x.mapError (·.report cs)) (x'.mapError (·.report cs)) := by
  cases h with
  | ok h => exact .ok h
  | error => exact .error

lemma readAll_spelt (ht : t.Sound) (comments : Bool) (text : String) :
    t ≤ (readAll comments text t).2 ∧ (readAll comments text t).2.Sound ∧
      Alike (Forall₂ (Spelt (readAll comments text t).2)) (readAll comments text t).1
        (Named.Reader.readAll comments text) := by
  obtain ⟨hle, hsound, halike⟩ := (start_spelt ht).run (lexemes comments text.toList)
  exact ⟨hle, hsound, alike_report halike text.toList⟩

lemma read_spelt (ht : t.Sound) (comments : Bool) (text : String) :
    t ≤ (read comments text t).2 ∧ (read comments text t).2.Sound ∧
      Alike (Option.Rel (Spelt (read comments text t).2)) (read comments text t).1
        (Named.Reader.read comments text) := by
  obtain ⟨hle, hsound, halike⟩ := (start_spelt ht).runFirst (lexemes comments text.toList)
  have hform : form? comments t text.toList =
      (ProgressSpelt.only ((Progress.start t).runFirst (lexemes comments text.toList)),
        ((Progress.start t).runFirst (lexemes comments text.toList)).1.symbols) := by
    unfold form?
    generalize (Progress.start t).runFirst (lexemes comments text.toList) = result
    rcases result with ⟨q, _ | _ | _⟩ <;> rfl
  simp only [read, hform]
  exact ⟨hle, hsound, alike_report halike text.toList⟩

end Reader

lemma WorldSpelt.mono {t t' : SymbolTable} {w : World} {w' : Named.World} (h : WorldSpelt t w w')
    (hle : t ≤ t') : WorldSpelt t' w w' :=
  h.withStore (h.store.mono hle)

structure SessionSpelt (t : SymbolTable) (s : Session) (s' : Named.Session) : Prop where
  symbols : s.symbols = t
  sound : t.Sound
  world : WorldSpelt t s.world s'.world
  global : s.global = s'.global
  comments : s.comments = s'.comments

def sessionSpelling : Correspondence SymbolTable Session Named.Session where
  states := SessionSpelt
  errors := Eq

namespace SessionSpelt

variable {t : SymbolTable} {s : Session} {s' : Named.Session}

lemma intern (h : SessionSpelt t s s') (name : String) :
    SessionSpelt (t.intern name).2 (s.intern name).2 s' := by
  obtain rfl := h.symbols
  exact ⟨rfl, h.sound.intern name, h.world.mono (s.symbols.le_intern name), h.global, h.comments⟩

lemma define (h : SessionSpelt t s s') (name : String) {v : Value} {w : Named.Value}
    (hv : Spelt t v w) :
    SessionSpelt (t.intern name).2 (s.define name v) (s'.define name w) := by
  obtain rfl := h.symbols
  have hi := h.intern name
  have hst := hi.world.store.put hi.sound s.global.frame (s.symbols.spells_intern name)
    (hv.mono (s.symbols.le_intern name))
  refine ⟨rfl, hi.sound, ?_, h.global, h.comments⟩
  unfold Named.Session.define
  rw [← h.global]
  exact hi.world.withStore hst

lemma define_host (p : HostProcedure) (name : String) (h : ∃ t, SessionSpelt t s s') :
    ∃ t, SessionSpelt t (s.define name (.host p)) (s'.define name (.host p)) := by
  obtain ⟨t, h⟩ := h
  exact ⟨_, h.define name (.host p)⟩

lemma sound_special :
    (SpecialForm.all.foldl (fun t form => (t.intern form.name).2) SymbolTable.empty).Sound :=
  ⟨by decide, by decide⟩

lemma start (sink : Sink) : ∃ t, SessionSpelt t (Session.start sink) (Named.Session.start sink) := by
  have hfold : ∀ (bs : List Builtin) {s : Session} {s' : Named.Session},
      (∃ t, SessionSpelt t s s') →
      ∃ t, SessionSpelt t (bs.foldl (fun s b => s.define b.name (.host b.procedure)) s)
        (bs.foldl (fun s b => s.define b.name (.host b.procedure)) s') := by
    intro bs
    induction bs with
    | nil => exact id
    | cons b bs ih => exact fun h => ih (define_host b.procedure b.name h)
  unfold Session.start Named.Session.start
  apply define_host
  apply hfold
  refine ⟨_, rfl, sound_special, ⟨⟨rfl, rfl, fun i => ?_⟩, rfl, rfl, rfl⟩, rfl, rfl⟩
  match i with
  | 0 => exact .nil
  | _ + 1 => exact .nil

end SessionSpelt

namespace SpeltSession

open Correspondence

variable {t : SymbolTable} {α β : Type} {r : SymbolTable → α → β → Prop}

lemma perform_aligned {m : Run α} {m' : Named.Run β}
    (h : ∀ l, t ≤ l → l.Sound → (spellingOf l).Aligned l (fun _ => r l) m m') :
    sessionSpelling.Aligned t r (Session.perform m) (Named.Session.perform m') := by
  intro l hle s s' hs
  obtain ⟨_, _, ho⟩ := h l hle hs.sound l le_rfl _ _ hs.world
  refine ⟨l, le_rfl, ?_⟩
  unfold Session.perform Named.Session.perform
  generalize m s.world = result at ho
  generalize m' s'.world = result' at ho
  cases ho with
  | ok hr hw => exact .ok hr ⟨hs.symbols, hs.sound, hw, hs.global, hs.comments⟩
  | error he hw => exact .error he ⟨hs.symbols, hs.sound, hw, hs.global, hs.comments⟩

lemma reading_aligned
    {reader : Bool → SymbolTable → Except ReadError α × SymbolTable}
    {reader' : Bool → Except ReadError β}
    (h : ∀ l, l.Sound → ∀ comments, l ≤ (reader comments l).2 ∧ (reader comments l).2.Sound ∧
      Alike (r (reader comments l).2) (reader comments l).1 (reader' comments)) :
    sessionSpelling.Aligned t r (Session.reading reader) (Named.Session.reading reader') := by
  intro l _ s s' hs
  have hsymbols := hs.symbols
  subst hsymbols
  obtain ⟨hle, hsound, halike⟩ := h s.symbols hs.sound s.comments
  unfold Session.reading Named.Session.reading
  rw [← hs.comments]
  generalize reader s.comments s.symbols = result at hle hsound halike
  obtain ⟨outcome, symbols⟩ := result
  have hs' : SessionSpelt symbols { s with symbols } s' :=
    ⟨rfl, hsound, hs.world.mono hle, hs.global, hs.comments⟩
  refine ⟨symbols, hle, ?_⟩
  generalize reader' s.comments = outcome' at halike
  cases halike with
  | ok hr => exact .ok hr hs'
  | error => exact .error rfl hs'

lemma evaluate_aligned {x : Value} {x' : Named.Value} (hx : Spelt t x x') (e : Scope) :
    sessionSpelling.Aligned t Spelt (Session.perform (evaluate x e))
      (Named.Session.perform (named.evaluate x' e)) := by
  apply perform_aligned
  intro l hle hl
  rw [evaluate_eq]
  exact (spellingSimulation SymbolTable hl).eval_aligned depthLimit (r := ()) (hx.mono hle) rfl

lemma apply_aligned {p : Value} {p' : Named.Value} (hp : Spelt t p p') {args : List Value}
    {args' : List Named.Value} (h : Forall₂ (Spelt t) args args') :
    sessionSpelling.Aligned t Spelt (Session.perform (apply p args))
      (Named.Session.perform (named.apply p' args')) := by
  apply perform_aligned
  intro l hle hl
  rw [apply_eq]
  exact Simulation.apply_aligned (S := spellingSimulation SymbolTable hl) (hp.mono hle)
    (h.imp fun _ _ hv => hv.mono hle)

lemma read_aligned (text : String) :
    sessionSpelling.Aligned t (fun l => Option.Rel (Spelt l)) (Session.read text)
      (Named.Session.read text) :=
  reading_aligned fun _ hl comments => Reader.read_spelt hl comments text

lemma readAll_aligned (text : String) :
    sessionSpelling.Aligned t (fun l => Forall₂ (Spelt l)) (Session.readAll text)
      (Named.Session.readAll text) :=
  reading_aligned fun _ hl comments => Reader.readAll_spelt hl comments text

lemma evaluateText_aligned (text : String) (e : Scope) :
    sessionSpelling.Aligned t Spelt (Session.evaluateText text e)
      (Named.Session.evaluateText text e) := by
  refine (read_aligned text).bind fun l _ x x' hx => ?_
  cases hx with
  | some hx => exact evaluate_aligned hx e
  | none => exact aligned_pure fun _ _ => .unspecified

lemma runText_aligned (text : String) :
    sessionSpelling.Aligned t Spelt (Session.runText text) (Named.Session.runText text) := by
  refine (readAll_aligned text).bind fun l _ forms forms' hforms => ?_
  -- The log is kept on one side only.
  have hnote : ∀ {m : Session.Action Value} {m' : Named.Session.Action Named.Value},
      sessionSpelling.Aligned l Spelt m m' →
      sessionSpelling.Aligned l Spelt
        (Session.perform (Run.note (.running forms.length)) >>= fun _ => m) m' := by
    intro m m' h k hle s s' hs
    have hw := hs.world
    exact h k hle _ _ ⟨hs.symbols, hs.sound, ⟨hw.store, hw.sink, hw.output, hw.externals⟩,
      hs.global, hs.comments⟩
  apply hnote
  refine aligned_get fun k hle s s' hs => ?_
  rw [hs.global]
  apply perform_aligned
  intro j hkj hj
  have hrun : evaluate = numbered.evaluate := funext fun x => funext fun e => evaluate_eq x e
  rw [Eval.sequence_eq, hrun]
  exact Simulation.sequence_aligned (S := spellingSimulation SymbolTable hj)
    ((spellingSimulation SymbolTable hj).eval_aligned depthLimit) (r := ())
    (hforms.imp fun _ _ hx => hx.mono (hle.trans hkj)) rfl .unspecified

end SpeltSession

end SmallScheme
