import SmallScheme.Proofs.Invariant
import SmallScheme.Proofs.LexicalScope

namespace SmallScheme

namespace Value

lemma isTextAll_iff {vs : List Value} : IsTextAll vs ↔ ∀ v ∈ vs, v.IsText := by
  induction vs with
  | nil => simp [IsTextAll]
  | cons v vs ih => simp [IsTextAll, ih]

/-- Not code: a closure has different parameters, and its body is made of one form or more, such as
the reader produces. -/
def IsResult : Value → Prop
  | symbol _ | list _ => False
  | closure _ params body _ =>
    params.Pairwise (fun s t => s.same t = false) ∧ body ≠ [] ∧ ∀ x ∈ body, x.IsText
  | _ => True

lemma IsResult.evaluate {v : Value} (h : v.IsResult) (e : Scope) (w : World) :
    evaluate v e w = .ok v w := by
  cases v with
  | symbol s => exact h.elim
  | list vs => exact h.elim
  | _ => rfl

def results : Invariant Unit where
  scopes _ _ := True
  code _ := IsText
  values _ := IsResult
  stores _ _ := True
  scopes_mono _ _ := trivial
  code_mono _ h := h
  values_mono _ h := h
  parts h := isTextAll_iff.1 h
  constant {_ x} h hc := by
    cases x with
    | symbol s => exact hc.elim
    | list vs => exact hc.elim
    | host p => exact h.elim
    | closure i params body e => exact h.elim
    | _ => trivial
  number _ _ := trivial
  bool _ _ := trivial
  unspecified _ := trivial
  captured h := ⟨h.2.2, trivial⟩
  closure _ hp hne hbody := ⟨hp, hne, hbody⟩
  put _ _ _ _ := trivial
  newClosure _ := trivial
  newChild _ _ := ⟨(), le_rfl, trivial, trivial⟩

end Value

namespace Session

lemma runText_apply (text : String) (s : Session) :
    runText text s =
      match Reader.readAll s.comments text s.symbols with
      | (.ok forms, symbols) =>
        perform (Eval.sequence evaluate s.global .unspecified forms) { s with
          symbols
          world := { s.world with events := s.world.events.push (.running forms.length) } }
      | (.error err, symbols) => .error (.read err) { s with symbols } := by
  change EStateM.bind (readAll text) _ s = _
  simp only [EStateM.bind, readAll, reading]
  rcases Reader.readAll s.comments text s.symbols with ⟨_ | forms, symbols⟩ <;> rfl

inductive TextRequest where
  | evaluate (text : String) (e : Scope)
  | run (text : String)
  | load (path : String) (content : Except String String)

def TextRequest.action : TextRequest → Action Value
  | evaluate text e => evaluateText text e
  | run text => runText text
  | load path content => Session.load path content

inductive Driven (sink : Sink) : Session → Prop
  | start : Driven sink (start sink)
  | comments {s : Session} (on : Bool) : Driven sink s → Driven sink { s with comments := on }
  | scope {s : Session} (outer : List Nat) : Driven sink s →
      Driven sink { s with world := { s.world with store := (s.world.store.enter outer).2 } }
  | request {s : Session} (q : TextRequest) : Driven sink s → Driven sink (s.after q.action)

def Tidy (s : Session) : Prop :=
  Value.results.Holds () s.world

lemma Tidy.define {s : Session} (h : s.Tidy) (name : String) {v : Value} (hv : v.IsResult) :
    (s.define name v).Tidy :=
  h.put s.global.frame (s.intern name).1 hv

lemma Tidy.defineBuiltins {s : Session} (h : s.Tidy) (bs : List Builtin) :
    (bs.foldl (fun s b => s.define b.name (.host b.procedure)) s).Tidy := by
  induction bs generalizing s with
  | nil => exact h
  | cons b bs ih => exact ih (h.define b.name trivial)

lemma holds_root (sink : Sink) : Value.results.Holds ()
    { World.start sink with store := Store.empty.newRoot.2 } := by
  refine ⟨fun i b hb => ?_, trivial, fun f hf => ?_⟩
  · rw [Store.newRoot, Store.frame_enter] at hb
    simp [Store.empty, Store.frame, Frame.empty] at hb
  · simp [World.start] at hf

lemma tidy_start (sink : Sink) : (start sink).Tidy := by
  unfold start
  apply Tidy.define
  · apply Tidy.defineBuiltins
    exact holds_root sink
  · trivial

inductive Yields : EStateM.Result Error Session Value → Prop
  | ok {v : Value} {s : Session} : v.IsResult → s.Tidy → Yields (.ok v s)
  | error {err : Error} {s : Session} : s.Tidy → Yields (.error err s)

lemma Tidy.perform {s : Session} (h : s.Tidy) {run : Run Value}
    (hrun : Value.results.Aligned () Value.results.values run) : Yields (perform run s) := by
  obtain ⟨_, -, hkept⟩ := Invariant.Aligned.kept hrun h
  unfold Session.perform
  generalize run s.world = result at hkept
  cases hkept with
  | ok hv hw => exact .ok hv hw
  | error hw => exact .error hw

lemma Tidy.evaluateText {s : Session} (h : s.Tidy) (text : String) (e : Scope) :
    Yields (evaluateText text e s) := by
  rw [evaluateText_apply]
  cases hread : Reader.read s.comments text s.symbols with
  | mk outcome symbols =>
    rcases outcome with err | _ | x
    · exact .error h
    · exact .ok trivial h
    · have hx := Reader.isText_of_read hread
      exact Tidy.perform (s := { s with symbols }) h (Invariant.aligned_eval depthLimit hx trivial)

lemma Tidy.runText {s : Session} (h : s.Tidy) (text : String) : Yields (runText text s) := by
  rw [runText_apply]
  cases hread : Reader.readAll s.comments text s.symbols with
  | mk outcome symbols =>
    rcases outcome with err | forms
    · exact .error h
    · have hforms := Value.isTextAll_iff.1 (Reader.isText_of_readAll hread)
      refine Tidy.perform ?_ (Invariant.aligned_sequence depthLimit hforms trivial trivial)
      exact ⟨h.bindings, h.stores, h.externals⟩

lemma Tidy.load {s : Session} (h : s.Tidy) (path : String) (content : Except String String) :
    Yields (load path content s) := by
  cases content with
  | error fault => exact .error ⟨h.bindings, h.stores, h.externals⟩
  | ok text =>
    have hnoted : Tidy { s with
        world := { s.world with events := s.world.events.push (.loading path) } } :=
      ⟨h.bindings, h.stores, h.externals⟩
    exact hnoted.runText text

lemma Tidy.answer {s : Session} (h : s.Tidy) (q : TextRequest) : Yields (q.action s) := by
  cases q with
  | evaluate text e => exact h.evaluateText text e
  | run text => exact h.runText text
  | load path content => exact h.load path content

lemma Driven.tidy {sink : Sink} {s : Session} (h : Driven sink s) : s.Tidy := by
  induction h with
  | start => exact tidy_start sink
  | comments on _ ih => exact ih
  | @scope s outer _ ih =>
    refine ih.withStore le_rfl (fun i b hb => ?_) trivial
    rw [Store.frame_enter] at hb
    exact ih.bindings i b hb
  | @request s q _ ih =>
    have hyields := ih.answer q
    unfold after
    generalize q.action s = result at hyields
    cases hyields with
    | ok _ hs => exact hs
    | error hs => exact hs

end Session

open Session in
/-- However a session is driven by texts, every value bound in one of its frames and every value it
returns is a result, and evaluates to itself in any scope. -/
theorem text_sessions_hold_results {sink : Sink} {s : Session} (h : Driven sink s) :
    (∀ i, ∀ b ∈ (s.world.store.frame i).bindings, b.2.IsResult) ∧
    ∀ (q : TextRequest) v s', q.action s = .ok v s' →
      v.IsResult ∧ ∀ e w, evaluate v e w = .ok v w := by
  refine ⟨h.tidy.bindings, fun q v s' hv => ?_⟩
  have hyields := h.tidy.answer q
  rw [hv] at hyields
  cases hyields with
  | ok hresult _ => exact ⟨hresult, hresult.evaluate⟩

namespace Session

def keeping : Session :=
  (start .collecting).after (TextRequest.run "(define k (lambda (x) (lambda () x)))").action

def answersProcedure : EStateM.Result Error Session Value → Bool
  | .ok v _ => v.isProcedure
  | .error _ _ => false

lemma driven_keeping : Driven .collecting keeping :=
  .request _ .start

theorem text_sessions_hold_results_keeping : ∃ v s',
    (TextRequest.evaluate "(k #t)" keeping.global).action keeping = .ok v s' ∧
      v.isProcedure = true ∧ v.IsResult ∧
      evaluate v keeping.global s'.world = .ok v s'.world := by
  have hanswer : answersProcedure
      ((TextRequest.evaluate "(k #t)" keeping.global).action keeping) = true := by
    decide +kernel
  have hresults := (text_sessions_hold_results driven_keeping).2
    (TextRequest.evaluate "(k #t)" keeping.global)
  generalize (TextRequest.evaluate "(k #t)" keeping.global).action keeping = r at hanswer hresults
  cases r with
  | ok v s' =>
    obtain ⟨hv, hself⟩ := hresults v s' rfl
    exact ⟨v, s', rfl, hanswer, hv, hself keeping.global s'.world⟩
  | error err s' => cases hanswer

end Session

end SmallScheme
