import SmallScheme.Proofs.GlobalKeys

namespace SmallScheme

namespace Reader

variable {comments : Bool} {cs : List Char} {ts : List Token} {symbols symbols' : SymbolTable}

lemma Entered.le (h : Entered comments cs ts symbols symbols') : symbols ≤ symbols' := by
  change symbols.names <+: symbols'.names
  rw [h.names]
  exact List.prefix_append _ _

lemma le_of_readAll (comments : Bool) (text : String) (symbols : SymbolTable) :
    symbols ≤ (readAll comments text symbols).2 := by
  cases h : readAll comments text symbols with
  | mk outcome symbols' =>
    cases outcome with
    | ok vs =>
      obtain ⟨ts, hentered, -⟩ := entered_of_forms (readAll_ok_iff.1 h)
      exact hentered.le
    | error err =>
      obtain ⟨f, before, ts, hstopped⟩ := stopped_of_readAll h
      exact hstopped.entered.le

lemma le_of_read (comments : Bool) (text : String) (symbols : SymbolTable) :
    symbols ≤ (read comments text symbols).2 := by
  cases h : read comments text symbols with
  | mk outcome symbols' =>
    cases outcome with
    | ok form =>
      obtain ⟨ts, hentered, -⟩ := entered_of_forms (read_ok_iff.1 h)
      exact hentered.le
    | error err =>
      obtain ⟨f, before, ts, hstopped⟩ := stopped_of_read h
      exact hstopped.entered.le

lemma name_of_atom {sym : Symbol} (h : ((Atom.ofChars cs).value symbols).1 = .symbol sym) :
    sym.name.toList = cs := by
  rw [Atom.ofChars] at h
  split_ifs at h
  · cases h
  · cases h
  · split at h
    · cases h
    · cases h
      rw [SymbolTable.intern_name, String.toList_ofList]

lemma text_of_symbol {text : String} {sym : Symbol}
    (h : read comments text symbols = (.ok (some (.symbol sym)), symbols')) :
    ∃ gap gap' : Grammar.Gap, text.toList = gap.text ++ (sym.name.toList ++ gap'.text) ∧
      gap.Stands comments (sym.name.toList ++ gap'.text) ∧ gap'.Stands comments [] := by
  obtain ⟨⟨gap, forms⟩, ⟨htext, hgap, hforms⟩, -, hvalues⟩ := forms_ok_iff.1 (read_ok_iff.1 h)
  simp only [Grammar.Program.text] at htext
  cases forms with
  | nil => cases hvalues
  | cons tree gap' rest =>
    rw [Grammar.Forms.values_cons] at hvalues
    obtain ⟨hvs, -⟩ := Prod.mk.inj hvalues
    obtain ⟨htree, hrest⟩ := List.cons.inj hvs
    cases rest with
    | cons _ _ _ => cases hrest
    | nil =>
      cases tree with
      | string body => cases htree
      | list _ _ => cases htree
      | atom name =>
        rw [name_of_atom htree]
        simp only [Grammar.Forms.text, Grammar.Tree.text, List.append_nil] at htext hgap
        exact ⟨gap, gap', htext.symm, hgap, hforms.2.1⟩

end Reader

namespace Session

/-- Sessions that began afresh and did what hosts asked of them since: what `may` allows, if it is
to evaluate an expression, and otherwise anything. -/
inductive Reached (may : Session → Value → Scope → Prop) (sink : Sink) : Session → Prop
  | start : Reached may sink (start sink)
  | comments {s : Session} (on : Bool) : Reached may sink s →
      Reached may sink { s with comments := on }
  | intern {s : Session} (name : String) : Reached may sink s → Reached may sink (s.intern name).2
  | define {s : Session} (name : String) (v : Value) : Reached may sink s →
      Reached may sink (s.define name v)
  | register {s : Session} (name : String) (arity : Arity) (f : HostFunction) :
      Reached may sink s → Reached may sink (s.register name arity f)
  | newScope {s : Session} (e : Scope) : Reached may sink s → Reached may sink (s.newScope e).2
  | read {s : Session} (text : String) : Reached may sink s → Reached may sink (s.after (read text))
  | evaluate {s : Session} {x : Value} {e : Scope} : Reached may sink s → may s x e →
      Reached may sink (s.after (perform (evaluate x e)))
  | apply {s : Session} (p : Value) (args : List Value) : Reached may sink s →
      Reached may sink (s.after (perform (apply p args)))
  | request {s : Session} (q : TextRequest) : Reached may sink s →
      Reached may sink (s.after q.action)

structure Keyed (s : Session) : Prop where
  outermost : s.global.outer = []
  world : s.world.Keyed s.symbols s.global.frame

def Owns (s : Session) (x : Value) (e : Scope) : Prop :=
  e.frame = s.global.frame → ∀ sym ∈ x.symbols, s.symbols.Has sym

namespace Keyed

variable {s : Session}

lemma withSymbols (h : s.Keyed) {symbols : SymbolTable} (hle : s.symbols ≤ symbols) :
    Keyed { s with symbols } :=
  ⟨h.outermost, h.world.mono hle⟩

lemma withWorld (h : s.Keyed) {w : World} (hw : w.Keyed s.symbols s.global.frame) :
    Keyed { s with world := w } :=
  ⟨h.outermost, hw⟩

lemma perform (h : s.Keyed) {run : Run Value}
    (hrun : KeepsKeys s.symbols s.global.frame (fun _ => True) run) :
    (s.after (perform run)).Keyed := by
  have hend := hrun s.world h.world
  rw [after, Session.perform]
  generalize run s.world = result at hend
  cases hend with
  | ok _ hw => exact h.withWorld hw
  | error _ hw => exact h.withWorld hw

lemma define (h : s.Keyed) (name : String) (v : Value) : (s.define name v).Keyed := by
  have hinterned := h.withSymbols (s.symbols.le_intern name)
  exact hinterned.withWorld (hinterned.world.define (fun _ => s.symbols.has_intern name) v)

lemma defineBuiltins (h : s.Keyed) (bs : List Builtin) :
    (bs.foldl (fun s b => s.define b.name (.host b.procedure)) s).Keyed := by
  induction bs generalizing s with
  | nil => exact h
  | cons b bs ih => exact ih (h.define b.name _)

lemma evaluateText (h : s.Keyed) (text : String) (e : Scope) :
    (s.after (evaluateText text e)).Keyed := by
  have hle := Reader.le_of_read s.comments text s.symbols
  rw [after, evaluateText_apply]
  cases hread : Reader.read s.comments text s.symbols with
  | mk outcome symbols =>
    rw [hread] at hle
    rcases outcome with err | _ | x
    · exact h.withSymbols hle
    · exact h.withSymbols hle
    · obtain ⟨-, -, -, hsymbols⟩ := Reader.entered_of_forms (Reader.read_ok_iff.1 hread)
      refine perform (h.withSymbols hle) (keepsKeys_evaluate fun _ sym hsym => hsymbols sym ?_)
      exact Value.mem_symbolsAll.2 ⟨x, List.mem_singleton_self x, hsym⟩

lemma runText (h : s.Keyed) (text : String) : (s.after (runText text)).Keyed := by
  have hle := Reader.le_of_readAll s.comments text s.symbols
  rw [after, runText_apply]
  cases hread : Reader.readAll s.comments text s.symbols with
  | mk outcome symbols =>
    rw [hread] at hle
    cases outcome with
    | error err => exact h.withSymbols hle
    | ok forms =>
      obtain ⟨-, -, -, hsymbols⟩ := Reader.entered_of_forms (Reader.readAll_ok_iff.1 hread)
      have hworld := (h.withSymbols hle).world
      have hnoted : Keyed { s with
          symbols
          world := { s.world with events := s.world.events.push (.running forms.length) } } :=
        ⟨h.outermost, hworld.lt, hworld.has⟩
      exact hnoted.perform (keepsKeys_sequence s.global _ hsymbols)

lemma request (h : s.Keyed) (q : TextRequest) : (s.after q.action).Keyed := by
  cases q with
  | evaluate text e => exact h.evaluateText text e
  | run text => exact h.runText text
  | load path content =>
    have hnoted := h.withWorld (w := { s.world with
      events := s.world.events.push (.loading path) }) ⟨h.world.lt, h.world.has⟩
    cases content with
    | error fault => exact hnoted
    | ok text => exact hnoted.runText text

end Keyed

def bare (sink : Sink) : Session where
  symbols := SpecialForm.all.foldl (fun t form => (t.intern form.name).2) .empty
  world := { World.start sink with store := ⟨#[.empty], 0⟩ }
  global := ⟨0, []⟩
  comments := false

lemma start_eq (sink : Sink) :
    start sink = (Builtin.all.foldl (fun s b => s.define b.name (.host b.procedure))
      (bare sink)).define displayProcedure.name (.host displayProcedure) := rfl

lemma keyed_bare (sink : Sink) : (bare sink).Keyed := by
  refine ⟨rfl, Nat.one_pos, ?_⟩
  simp [bare, Store.frame, Frame.empty]

lemma keyed_start (sink : Sink) : (start sink).Keyed := by
  rw [start_eq]
  exact ((keyed_bare sink).defineBuiltins Builtin.all).define _ _

lemma Reached.keyed {sink : Sink} {s : Session} (h : Reached Owns sink s) : s.Keyed := by
  induction h with
  | start => exact keyed_start sink
  | comments on _ ih => exact ⟨ih.outermost, ih.world⟩
  | intern name _ ih => exact ih.withSymbols (SymbolTable.le_intern _ name)
  | define name v _ ih => exact ih.define name v
  | @register s name arity f _ ih =>
    have hpushed : Keyed { s with
        world := { s.world with externals := s.world.externals.push ⟨0, f⟩ } } :=
      ⟨ih.outermost, ih.world.lt, ih.world.has⟩
    exact hpushed.define name _
  | newScope e _ ih => exact ih.withWorld (ih.world.enter e.chain)
  | @read s text _ ih =>
    have hle := Reader.le_of_read s.comments text s.symbols
    rw [after, Session.read, reading]
    cases hread : Reader.read s.comments text s.symbols with
    | mk outcome symbols =>
      rw [hread] at hle
      cases outcome <;> exact ih.withSymbols hle
  | evaluate _ hown ih => exact ih.perform (keepsKeys_evaluate hown)
  | apply p args _ ih => exact ih.perform (keepsKeys_apply p args)
  | request q _ ih => exact ih.request q

end Session

lemma Store.lookup?_of_foreign {t t' : SymbolTable} {st : Store} {e : Scope} {sym : Symbol}
    (hkeys : ∀ i ∈ e.chain, ∀ k ∈ (st.frame i).bindings.map Prod.fst, t.Has k) (hle : t ≤ t')
    (hsym : t'.Has sym) (hnew : t.get? sym.name = none) : st.lookup? e sym = none := by
  rw [lookup?, List.findSome?_eq_none_iff]
  intro i hi
  apply Frame.get?_of_not_binds
  rw [Frame.not_binds_iff]
  intro b hb
  have hkey := hkeys i hi b.1 (List.mem_map_of_mem hb)
  by_contra hsame
  have hname := ((hkey.mono hle).same_iff hsym).1 (by simpa using hsame)
  rw [SymbolTable.Has, hname, hnew] at hkey
  cases hkey

namespace Session

variable {s : Session}

lemma evaluate_symbol (sym : Symbol) (e : Scope) (s : Session) :
    perform (evaluate (.symbol sym) e) s =
      match s.world.store.lookup? e sym with
      | some v => .ok v s
      | none => .error (.unbound sym.name) s := by
  have hlookup : evaluate (.symbol sym) e = Run.lookup e sym := rfl
  rw [perform, hlookup, Run.lookup, Run.get_bind_apply]
  cases s.world.store.lookup? e sym <;> rfl

lemma lookup_agrees
    (hkeys : ∀ i ∈ s.global.chain, ∀ k ∈ (s.world.store.frame i).bindings.map Prod.fst,
      s.symbols.Has k) {text : String} {sym : Symbol} {symbols : SymbolTable}
    (hread : Reader.read s.comments text s.symbols = (.ok (some (.symbol sym)), symbols)) :
    (∃ v, s.lookup sym.name = .ok v ∧
      evaluateText text s.global s = .ok v { s with symbols }) ∨
    (s.lookup sym.name = .error (.unbound sym.name) ∧
      evaluateText text s.global s = .error (.unbound sym.name) { s with symbols }) := by
  have hle := Reader.le_of_read s.comments text s.symbols
  rw [hread] at hle
  obtain ⟨-, -, -, hsymbols⟩ := Reader.entered_of_forms (Reader.read_ok_iff.1 hread)
  have hsym : symbols.Has sym := hsymbols sym (List.mem_singleton_self sym)
  simp only [evaluateText_apply, hread, evaluate_symbol, lookup]
  cases hget : s.symbols.get? sym.name with
  | none =>
    rw [Store.lookup?_of_foreign hkeys hle hsym hget]
    exact .inr ⟨rfl, rfl⟩
  | some sym' =>
    have hsym' : s.symbols.Has sym' := by rwa [SymbolTable.Has, SymbolTable.name_of_get? hget]
    have hname : sym'.name = sym.name := SymbolTable.name_of_get? hget
    have hsame := hsym'.mono hle
    rw [SymbolTable.Has, hname] at hsame
    obtain rfl := Option.some.inj (hsym.symm.trans hsame)
    cases hv : s.world.store.lookup? s.global sym with
    | none => simp [hv]
    | some v => simp [hv]

lemma lookup_define (h : s.Keyed) (name n : String) (v : Value) :
    (s.define name v).lookup n = if n = name then .ok v else s.lookup n := by
  have hsym := s.symbols.has_intern name
  have hle := s.symbols.le_intern name
  have hshows := Store.shows_put h.world.lt (s.symbols.intern name).1 v
  simp only [define, intern, lookup, Store.define]
  split_ifs with hn
  · rw [SymbolTable.Has, SymbolTable.intern_name] at hsym
    rw [hn, hsym]
    simp only [hshows.inside (e := s.global) ⟨beq_self_eq_true _, .here⟩]
  · cases hget : s.symbols.get? n with
    | none =>
      have hnew : n ∉ (s.symbols.intern name).2.names := by
        have hold := SymbolTable.not_mem_of_get? hget
        by_cases hmem : name ∈ s.symbols.names
        · rwa [SymbolTable.names_intern_of_mem hmem]
        · rw [SymbolTable.names_intern_of_not_mem hmem]
          simp [hold, hn]
      have hnone : (s.symbols.intern name).2.get? n = none := by simpa [SymbolTable.get?] using hnew
      rw [hnone]
    | some sym =>
      obtain rfl := SymbolTable.name_of_get? hget
      have hhas := SymbolTable.Has.mono hget hle
      have hdiffer : ¬ (s.symbols.intern name).1.same sym = true := by
        rw [hsym.same_iff hhas, SymbolTable.intern_name]
        exact fun hname => hn hname.symm
      rw [show (s.symbols.intern name).2.get? sym.name = some sym from hhas]
      simp only [hshows.outside (e := s.global) fun hseen => hdiffer hseen.1]

lemma lookup_builtins (h : s.Keyed) {bs : List Builtin} {b : Builtin} (hb : b ∈ bs) :
    (bs.foldl (fun s b => s.define b.name (.host b.procedure)) s).lookup b.name =
      .ok (.host b.procedure) := by
  induction bs using List.reverseRecOn with
  | nil => cases hb
  | append_singleton bs c ih =>
    rw [List.foldl_append, List.foldl_cons, List.foldl_nil, lookup_define (h.defineBuiltins bs)]
    split_ifs with hname
    · obtain ⟨rfl⟩ := Operation.name_injective (a := .builtin b) (b := .builtin c) hname
      rfl
    · rcases List.mem_append.1 hb with hb | hb
      · exact ih hb
      · exact absurd (congrArg Builtin.name (List.mem_singleton.1 hb)) hname

lemma lookup_builtin (sink : Sink) (b : Builtin) :
    (start sink).lookup b.name = .ok (.host b.procedure) := by
  have hne : b.name ≠ displayProcedure.name := by cases b <;> decide
  have hmem : b ∈ Builtin.all := by cases b <;> decide
  rw [start_eq, lookup_define ((keyed_bare sink).defineBuiltins Builtin.all), if_neg hne]
  exact lookup_builtins (keyed_bare sink) hmem

end Session

open Session in
/-- Whatever a host has asked of a session, if it evaluated in the global frame only what holds
symbols of the session: a text that reads as a symbol has the value that looking up the name finds,
and both fail alike if there is none. A name that the session does not know is bound in no frame
around. -/
theorem lookup_agrees_with_evaluation {sink : Sink} {s : Session} (h : Reached Owns sink s) :
    (∀ text i name symbols,
      Reader.read s.comments text s.symbols = (.ok (some (.symbol ⟨i, name⟩)), symbols) →
      (∃ gap gap' : Grammar.Gap, text.toList = gap.text ++ (name.toList ++ gap'.text) ∧
        gap.Stands s.comments (name.toList ++ gap'.text) ∧ gap'.Stands s.comments []) ∧
      ((∃ v, s.lookup name = .ok v ∧
          evaluateText text s.global s = .ok v { s with symbols }) ∨
        (s.lookup name = .error (.unbound name) ∧
          evaluateText text s.global s = .error (.unbound name) { s with symbols }))) ∧
    ∀ name, s.symbols.get? name = none → s.lookup name = .error (.unbound name) ∧
      ∀ i ∈ s.global.chain, ∀ k ∈ (s.world.store.frame i).bindings.map Prod.fst,
        k.name ≠ name := by
  have hkeyed := h.keyed
  have hkeys : ∀ i ∈ s.global.chain, ∀ k ∈ (s.world.store.frame i).bindings.map Prod.fst,
      s.symbols.Has k := by
    intro i hi
    rw [Scope.chain, hkeyed.outermost, List.mem_singleton] at hi
    rw [hi]
    exact hkeyed.world.has
  refine ⟨fun text i name symbols hread => ⟨Reader.text_of_symbol hread, ?_⟩, fun name hname => ?_⟩
  · exact lookup_agrees hkeys hread
  · refine ⟨by rw [lookup, hname], ?_⟩
    rintro i hi k hk rfl
    have hhas := hkeys i hi k hk
    rw [SymbolTable.Has, hname] at hhas
    cases hhas

namespace Session

def given : Session :=
  (start .collecting).define "x" (.bool true)

lemma symbols_given : given.symbols = ⟨["lambda", "define", "if", "set!", "+", "*", "-", "/", "=",
    "<", ">", "<=", ">=", "not", "display", "x"]⟩ := by
  decide +kernel

theorem lookup_agrees_with_evaluation_given : ∃ symbols,
    evaluateText " x" given.global given = .ok (.bool true) { given with symbols } ∧
    given.lookup "y" = .error (.unbound "y") := by
  have hreached : Reached Owns .collecting given := .define "x" _ .start
  have hread : Reader.read given.comments " x" given.symbols =
      (.ok (some (.symbol ⟨15, "x"⟩)), given.symbols) := by
    rw [symbols_given]
    cbv
  have hlookup : given.lookup "x" = .ok (.bool true) :=
    (lookup_define (keyed_start .collecting) "x" "x" _).trans (if_pos rfl)
  obtain ⟨hagrees, hforeign⟩ := lookup_agrees_with_evaluation hreached
  refine ⟨given.symbols, ?_, (hforeign "y" ?_).1⟩
  · rcases (hagrees _ _ _ _ hread).2 with ⟨v, hv, heval⟩ | ⟨hunbound, -⟩
    · cases hlookup.symm.trans hv
      exact heval
    · cases hlookup.symm.trans hunbound
  · rw [symbols_given]
    decide

end Session

end SmallScheme
