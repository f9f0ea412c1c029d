import SmallScheme.Proofs.Run
import SmallScheme.Proofs.Semantics

namespace SmallScheme

open Semantics

namespace World

def state (w : World) : State := ⟨w.store, w.output⟩

structure Plain (w : World) : Prop where
  sink : w.sink = .collecting
  externals : w.externals = #[]

end World

namespace Semantics

variable {st : Store} {e : Scope} {s : Symbol}

lemma findSome?_eq_some_iff_resolves {chain : List Nat} {v : Value} :
    chain.findSome? (fun i => (st.frame i).get? s) = some v ↔ ∃ i, Resolves st s chain i v := by
  induction chain with
  | nil =>
    constructor
    · simp
    · rintro ⟨i, h⟩
      cases h
  | cons i outer ih =>
    rw [List.findSome?_cons]
    cases hi : (st.frame i).get? s with
    | none =>
      simp only [ih]
      constructor
      · rintro ⟨j, h⟩
        exact ⟨j, .outside hi h⟩
      · rintro ⟨j, h⟩
        cases h with
        | here h => simp [hi] at h
        | outside _ h => exact ⟨j, h⟩
    | some u =>
      constructor
      · rintro h
        cases h
        exact ⟨i, .here hi⟩
      · rintro ⟨j, h⟩
        cases h with
        | here h => rw [← h, hi]
        | outside h _ => simp [hi] at h

lemma find?_eq_some_iff_resolves {chain : List Nat} {i : Nat} :
    chain.find? (fun i => (st.frame i).binds s) = some i ↔ ∃ v, Resolves st s chain i v := by
  induction chain with
  | nil =>
    constructor
    · simp
    · rintro ⟨v, h⟩
      cases h
  | cons k outer ih =>
    rw [List.find?_cons]
    cases hk : (st.frame k).get? s with
    | none =>
      simp only [Frame.binds, hk, Option.isSome_none]
      refine ih.trans (exists_congr fun v => ⟨.outside hk, ?_⟩)
      intro h
      cases h with
      | here h => simp [hk] at h
      | outside _ h => exact h
    | some u =>
      simp only [Frame.binds, hk, Option.isSome_some]
      constructor
      · intro h
        cases h
        exact ⟨u, .here hk⟩
      · rintro ⟨v, h⟩
        cases h with
        | here _ => rfl
        | outside h _ => simp [hk] at h

lemma lookup?_eq_some_iff {v : Value} :
    st.lookup? e s = some v ↔ ∃ i, Resolves st s e.chain i v :=
  findSome?_eq_some_iff_resolves

lemma home?_eq_some_iff {i : Nat} :
    st.home? e s = some i ↔ ∃ v, Resolves st s e.chain i v :=
  find?_eq_some_iff_resolves

lemma isBound_iff : st.isBound e s = true ↔ ∃ i v, Resolves st s e.chain i v := by
  rw [Store.isBound, Option.isSome_iff_exists]
  exact exists_congr fun i => home?_eq_some_iff

end Semantics

namespace Eval

variable {w w' : World}

lemma write_ok_iff {text : String} {b : Unit} (hw : w.Plain) :
    Run.write text w = .ok b w' ↔ { w with output := w.output ++ text } = w' := by
  have hf : w.sink.writeFault = none := by rw [hw.sink]; rfl
  have hg : w.sink.flushFault = none := by rw [hw.sink]; rfl
  simp only [Run.write, Run.bind_ok_iff, Run.get_ok_iff]
  constructor
  · rintro ⟨_, _, ⟨rfl, rfl⟩, h⟩
    simp only [hf, Run.bind_ok_iff, Run.modify_ok_iff, Run.get_ok_iff] at h
    obtain ⟨_, _, rfl, _, _, ⟨rfl, rfl⟩, h⟩ := h
    simp only [hg] at h
    exact (Run.pure_ok_iff.1 h).2
  · rintro rfl
    refine ⟨w, w, ⟨rfl, rfl⟩, ?_⟩
    simp only [hf, Run.bind_ok_iff, Run.modify_ok_iff, Run.get_ok_iff]
    refine ⟨(), _, rfl, _, _, ⟨rfl, rfl⟩, ?_⟩
    simp only [hg]
    exact Run.pure_ok_iff.2 ⟨rfl, rfl⟩

lemma check_eq_ok_iff {a : Arity} {count : Nat} {u : Unit} :
    a.check count = .ok u ↔ a.Admits count := by
  rw [← Arity.broken?_eq_none_iff, Arity.check]
  cases a.broken? count with
  | none => simp
  | some bound => simp

lemma display_ok_iff {args : List Value} {v : Value} (hw : w.Plain) :
    display args w = .ok v w' ↔
      .unspecified = v ∧ { w with output := w.output ++ displayLine args } = w' := by
  simp only [display, Run.bind_ok_iff, write_ok_iff hw, Run.pure_ok_iff]
  constructor
  · rintro ⟨_, _, rfl, hv, rfl⟩
    exact ⟨hv, rfl⟩
  · rintro ⟨hv, rfl⟩
    exact ⟨(), _, rfl, hv, rfl⟩

lemma callExternal_ne_ok {name : String} {slot : Nat} {args : List Value} {v : Value}
    (hw : w.Plain) : Run.callExternal name slot args w ≠ .ok v w' := by
  intro h
  simp only [Run.callExternal, Run.bind_ok_iff, Run.get_ok_iff] at h
  obtain ⟨_, _, ⟨rfl, rfl⟩, h⟩ := h
  simp [hw.externals] at h

lemma callHost_ok_iff {p : HostProcedure} {args : List Value} {v : Value} (hw : w.Plain) :
    callHost p args w = .ok v w' ↔
      ∃ text, Answers p args v text ∧
        { w with
          events := w.events.push (.hostCall p.name args.length)
          output := w.output ++ text } = w' := by
  let w₁ : World := { w with events := w.events.push (.hostCall p.name args.length) }
  have hw₁ : w₁.Plain := ⟨hw.sink, hw.externals⟩
  simp only [callHost, Run.bind_ok_iff, Run.note_ok_iff, Run.ofExcept_ok_iff, check_eq_ok_iff]
  constructor
  · rintro ⟨_, _, rfl, _, _, ⟨ha, rfl⟩, h⟩
    cases hc : p.code with
    | builtin b =>
      simp only [hc, Run.ofExcept_ok_iff] at h
      obtain ⟨hv, rfl⟩ := h
      exact ⟨"", .builtin hc ha hv, by simp⟩
    | display =>
      simp only [hc] at h
      obtain ⟨rfl, rfl⟩ := (display_ok_iff hw₁).1 h
      exact ⟨displayLine args, .display hc ha, rfl⟩
    | external slot =>
      simp only [hc] at h
      exact (callExternal_ne_ok hw₁ h).elim
  · rintro ⟨text, h, rfl⟩
    cases h with
    | builtin hc ha hv =>
      refine ⟨(), w₁, rfl, (), w₁, ⟨ha, rfl⟩, ?_⟩
      simp only [hc, Run.ofExcept_ok_iff]
      exact ⟨hv, by simp [w₁]⟩
    | display hc ha =>
      refine ⟨(), w₁, rfl, (), w₁, ⟨ha, rfl⟩, ?_⟩
      simp only [hc]
      exact (display_ok_iff hw₁).2 ⟨rfl, rfl⟩

structure Adequate (bound : Nat) (run : Evaluator) : Prop where
  sound {x : Value} {e : Scope} {v : Value} {w w' : World} (hw : w.Plain)
    (h : run x e w = .ok v w') :
    w'.Plain ∧ ∃ d : Derivation w.state e x v w'.state, d.nesting < bound
  complete {x : Value} {e : Scope} {v : Value} {w : World} {τ : State} (hw : w.Plain)
    (d : Derivation w.state e x v τ) (hd : d.nesting < bound) :
    ∃ w', run x e w = .ok v w' ∧ w'.Plain ∧ w'.state = τ

variable {inner body : Evaluator} {m : Nat} {e : Scope}

lemma operands_sound (hi : Adequate m inner) {xs vs : List Value} (hw : w.Plain)
    (h : operands inner e xs w = .ok vs w') :
    w'.Plain ∧ ∃ ds : Operands w.state e xs vs w'.state, ds.nesting < m + 1 := by
  induction xs generalizing w vs with
  | nil =>
    obtain ⟨rfl, rfl⟩ := operands_nil_ok_iff.1 h
    exact ⟨hw, .nil, by simp [Operands.nesting]⟩
  | cons x xs ih =>
    obtain ⟨v, us, w₁, hx, hxs, rfl⟩ := operands_cons_ok_iff.1 h
    obtain ⟨hw₁, d, hd⟩ := hi.sound hw hx
    obtain ⟨hw', ds, hds⟩ := ih hw₁ hxs
    refine ⟨hw', .cons d ds, ?_⟩
    simp only [Operands.nesting]
    omega

lemma operands_complete (hi : Adequate m inner) {xs vs : List Value} {τ : State} (hw : w.Plain)
    (ds : Operands w.state e xs vs τ) (hd : ds.nesting < m + 1) :
    ∃ w', operands inner e xs w = .ok vs w' ∧ w'.Plain ∧ w'.state = τ := by
  induction xs generalizing w vs with
  | nil =>
    cases ds
    exact ⟨w, operands_nil_ok_iff.2 ⟨rfl, rfl⟩, hw, rfl⟩
  | cons x xs ih =>
    cases ds with
    | cons d ds =>
      simp only [Operands.nesting] at hd
      obtain ⟨w₁, hx, hw₁, rfl⟩ := hi.complete hw d (by omega)
      obtain ⟨w', hxs, hw', rfl⟩ := ih hw₁ ds (by omega)
      exact ⟨w', operands_cons_ok_iff.2 ⟨_, _, w₁, hx, hxs, rfl⟩, hw', rfl⟩

lemma sequence_sound (hb : Adequate (m - 1) body) {last v : Value} {xs : List Value}
    (hw : w.Plain) (h : sequence body e last xs w = .ok v w') :
    w'.Plain ∧ ∃ b : Body w.state e last xs v w'.state, b.nesting < m + 1 := by
  induction xs generalizing w last with
  | nil =>
    obtain ⟨rfl, rfl⟩ := sequence_nil_ok_iff.1 h
    exact ⟨hw, .nil, by simp [Body.nesting]⟩
  | cons x xs ih =>
    obtain ⟨u, w₁, hx, hxs⟩ := sequence_cons_ok_iff.1 h
    obtain ⟨hw₁, d, hd⟩ := hb.sound hw hx
    obtain ⟨hw', b, hb⟩ := ih hw₁ hxs
    refine ⟨hw', .cons d b, ?_⟩
    simp only [Body.nesting]
    omega

lemma sequence_complete (hb : Adequate (m - 1) body) {last v : Value} {xs : List Value}
    {τ : State} (hw : w.Plain) (b : Body w.state e last xs v τ) (hd : b.nesting < m + 1) :
    ∃ w', sequence body e last xs w = .ok v w' ∧ w'.Plain ∧ w'.state = τ := by
  induction xs generalizing w last with
  | nil =>
    cases b
    exact ⟨w, sequence_nil_ok_iff.2 ⟨rfl, rfl⟩, hw, rfl⟩
  | cons x xs ih =>
    cases b with
    | cons d b =>
      simp only [Body.nesting] at hd
      obtain ⟨w₁, hx, hw₁, rfl⟩ := hb.complete hw d (by omega)
      obtain ⟨w', hxs, hw', rfl⟩ := ih hw₁ b (by omega)
      exact ⟨w', sequence_cons_ok_iff.2 ⟨_, w₁, hx, hxs⟩, hw', rfl⟩

lemma special_sound (hi : Adequate m inner) {form : SpecialForm} {head v : Value}
    {args : List Value} (hs : IsSpecial head form) (hw : w.Plain)
    (h : special form inner (head :: args) e w = .ok v w') :
    w'.Plain ∧ ∃ d : Derivation w.state e (.list (head :: args)) v w'.state,
      d.nesting < m + 1 := by
  cases form with
  | lambda =>
    obtain ⟨_, params, forms, hf, hn, hp, rfl, rfl⟩ := evalLambda_ok_iff.1 h
    cases hf
    exact ⟨⟨hw.sink, hw.externals⟩, .lambda hs hp hn, by simp [Derivation.nesting]⟩
  | define =>
    obtain ⟨_, s, x, u, w₁, hf, hx, rfl, rfl⟩ := evalDefine_ok_iff.1 h
    cases hf
    obtain ⟨hw₁, d, hd⟩ := hi.sound hw hx
    exact ⟨⟨hw₁.sink, hw₁.externals⟩, .define hs d, by simpa [Derivation.nesting] using hd⟩
  | conditional =>
    obtain ⟨_, test, first, second, hf, hbranch⟩ := evalConditional_ok_iff.1 h
    cases hf
    obtain ⟨u, w₁, ht, htaken⟩ := branch_ok_iff.1 hbranch
    obtain ⟨hw₁, d, hd⟩ := hi.sound hw ht
    rcases htaken with ⟨rfl, hx⟩ | ⟨hu, ⟨y, rfl, hy⟩ | ⟨rfl, rfl, rfl⟩⟩
    · obtain ⟨hw', d', hd'⟩ := hi.sound hw₁ hx
      refine ⟨hw', .first hs d d', ?_⟩
      simp only [Derivation.nesting]
      omega
    · obtain ⟨hw', d', hd'⟩ := hi.sound hw₁ hy
      refine ⟨hw', .second hs d hu d', ?_⟩
      simp only [Derivation.nesting]
      omega
    · exact ⟨hw₁, .neither hs d hu, by simpa [Derivation.nesting] using hd⟩
  | assignment =>
    obtain ⟨_, s, x, u, w₁, i, hf, hb, hx, hj, rfl, rfl⟩ := evalAssignment_ok_iff.1 h
    cases hf
    obtain ⟨hw₁, d, hd⟩ := hi.sound hw hx
    obtain ⟨k, old, hk⟩ := isBound_iff.1 hb
    obtain ⟨last, hl⟩ := home?_eq_some_iff.1 hj
    exact ⟨⟨hw₁.sink, hw₁.externals⟩, .assign hs hk d hl, by simpa [Derivation.nesting] using hd⟩

lemma call_sound (hi : Adequate m inner) (hb : Adequate (m - 1) body) {head procedure v : Value}
    {args : List Value} {w₁ : World} (ho : IsOrdinary head) (hw₁ : w₁.Plain)
    (d : Derivation w.state e head procedure w₁.state) (hd : d.nesting < m)
    (h : evalCall inner body procedure (head :: args) args e w₁ = .ok v w') :
    w'.Plain ∧ ∃ d : Derivation w.state e (.list (head :: args)) v w'.state,
      d.nesting < m + 1 := by
  rcases evalCall_ok_iff.1 h with ⟨p, vs, w₂, rfl, hx, hc⟩ |
    ⟨identity, params, forms, captured, vs, w₂, rfl, hl, hx, hc⟩ | ⟨hp, rfl, rfl, rfl⟩
  · obtain ⟨hw₂, ds, hds⟩ := operands_sound hi hw₁ hx
    obtain ⟨text, ha, rfl⟩ := (callHost_ok_iff hw₂).1 hc
    refine ⟨⟨hw₂.sink, hw₂.externals⟩, .host ho d ds ha, ?_⟩
    simp only [Derivation.nesting]
    omega
  · obtain ⟨hw₂, ds, hds⟩ := operands_sound hi hw₁ hx
    obtain ⟨hw', b, hb⟩ : w'.Plain ∧ ∃ b : Body (w₂.state.call captured params vs)
        (w₂.state.callScope captured) .unspecified forms v w'.state, b.nesting < m + 1 :=
      sequence_sound hb (by exact ⟨hw₂.sink, hw₂.externals⟩) (callClosure_ok_iff.1 hc)
    refine ⟨hw', .closure ho d hl ds b, ?_⟩
    simp only [Derivation.nesting]
    omega
  · exact ⟨hw₁, .alone ho d hp, by simpa [Derivation.nesting] using hd⟩

lemma evalForm_sound (hi : Adequate m inner) (hb : Adequate (m - 1) body) {form : List Value}
    {v : Value} (hw : w.Plain) (h : evalForm inner body form e w = .ok v w') :
    w'.Plain ∧ ∃ d : Derivation w.state e (.list form) v w'.state, d.nesting < m + 1 := by
  obtain ⟨head, args, rfl, ⟨s, hs, h⟩ | ⟨ho, procedure, w₁, hh, h⟩⟩ := evalForm_ok_iff.1 h
  · exact special_sound hi hs hw h
  · obtain ⟨hw₁, d, hd⟩ := hi.sound hw hh
    exact call_sound hi hb ho hw₁ d hd h

lemma evalForm_complete (hi : Adequate m inner) (hb : Adequate (m - 1) body)
    {form : List Value} {v : Value} {τ : State} (hw : w.Plain)
    (d : Derivation w.state e (.list form) v τ) (hd : d.nesting < m + 1) :
    ∃ w', evalForm inner body form e w = .ok v w' ∧ w'.Plain ∧ w'.state = τ := by
  cases d with
  | constant hc => cases hc
  | lambda hs hp hn =>
    exact ⟨_, evalForm_of_special hs (evalLambda_ok_iff.2 ⟨_, _, _, rfl, hn, hp, rfl, rfl⟩),
      ⟨hw.sink, hw.externals⟩, rfl⟩
  | @define _ _ _ head x v s hs d =>
    simp only [Derivation.nesting] at hd
    obtain ⟨w₁, hx, hw₁, rfl⟩ := hi.complete hw d (by omega)
    exact ⟨_, evalForm_of_special hs (evalDefine_ok_iff.2 ⟨head, s, x, v, w₁, rfl, hx, rfl, rfl⟩),
      ⟨hw₁.sink, hw₁.externals⟩, rfl⟩
  | @assign _ _ _ head x v _ _ s _ j hs hk d hl =>
    simp only [Derivation.nesting] at hd
    obtain ⟨w₁, hx, hw₁, rfl⟩ := hi.complete hw d (by omega)
    have hb := isBound_iff.2 ⟨_, _, hk⟩
    have hj := home?_eq_some_iff.2 ⟨_, hl⟩
    exact ⟨_, evalForm_of_special hs
      (evalAssignment_ok_iff.2 ⟨head, s, x, v, w₁, j, rfl, hb, hx, hj, rfl, rfl⟩),
      ⟨hw₁.sink, hw₁.externals⟩, rfl⟩
  | first hs d d' =>
    simp only [Derivation.nesting] at hd
    obtain ⟨w₁, ht, hw₁, rfl⟩ := hi.complete hw d (by omega)
    obtain ⟨w', hx, hw', rfl⟩ := hi.complete hw₁ d' (by omega)
    exact ⟨w', evalForm_of_branch hs (branch_ok_iff.2 ⟨_, w₁, ht, .inl ⟨rfl, hx⟩⟩), hw', rfl⟩
  | @second _ _ _ _ _ test x y _ _ hs d hu d' =>
    simp only [Derivation.nesting] at hd
    obtain ⟨w₁, ht, hw₁, rfl⟩ := hi.complete hw d (by omega)
    obtain ⟨w', hy, hw', rfl⟩ := hi.complete hw₁ d' (by omega)
    have h : branch inner test x (some y) e w = .ok v w' :=
      branch_ok_iff.2 ⟨_, w₁, ht, .inr ⟨hu, .inl ⟨y, rfl, hy⟩⟩⟩
    exact ⟨w', evalForm_of_branch hs h, hw', rfl⟩
  | @neither _ _ _ _ test x _ hs d hu =>
    simp only [Derivation.nesting] at hd
    obtain ⟨w₁, ht, hw₁, rfl⟩ := hi.complete hw d (by omega)
    have h : branch inner test x none e w = .ok .unspecified w₁ :=
      branch_ok_iff.2 ⟨_, w₁, ht, .inr ⟨hu, .inr ⟨rfl, rfl, rfl⟩⟩⟩
    exact ⟨w₁, evalForm_of_branch hs h, hw₁, rfl⟩
  | host ho d ds ha =>
    simp only [Derivation.nesting] at hd
    obtain ⟨w₁, hh, hw₁, rfl⟩ := hi.complete hw d (by omega)
    obtain ⟨w₂, hx, hw₂, rfl⟩ := operands_complete hi hw₁ ds (by omega)
    have hc := (callHost_ok_iff hw₂).2 ⟨_, ha, rfl⟩
    exact ⟨_, evalForm_of_call ho hh (evalCall_ok_iff.2 (.inl ⟨_, _, w₂, rfl, hx, hc⟩)),
      ⟨hw₂.sink, hw₂.externals⟩, rfl⟩
  | @closure _ _ _ _ _ captured _ _ _ params _ _ args ho d hl ds b =>
    simp only [Derivation.nesting] at hd
    obtain ⟨w₁, hh, hw₁, rfl⟩ := hi.complete hw d (by omega)
    obtain ⟨w₂, hx, hw₂, rfl⟩ := operands_complete hi hw₁ ds (by omega)
    let w₃ : World :=
      { w₂ with
        events := w₂.events.push (.closureCall params.length)
        store := (w₂.state.call captured params args).store }
    have hw₃ : w₃.Plain := ⟨hw₂.sink, hw₂.externals⟩
    have hn : b.nesting < m + 1 := by omega
    obtain ⟨w', hc, hw', rfl⟩ := sequence_complete (w := w₃) hb hw₃ b hn
    have hc := callClosure_ok_iff.2 hc
    exact ⟨w', evalForm_of_call ho hh
      (evalCall_ok_iff.2 (.inr (.inl ⟨_, _, _, _, _, w₂, rfl, hl, hx, hc⟩))), hw', rfl⟩
  | alone ho d hp =>
    simp only [Derivation.nesting] at hd
    obtain ⟨w₁, hh, hw₁, rfl⟩ := hi.complete hw d (by omega)
    exact ⟨w₁, evalForm_of_call ho hh (evalCall_ok_iff.2 (.inr (.inr ⟨hp, rfl, rfl, rfl⟩))),
      hw₁, rfl⟩

lemma level_adequate (hi : Adequate m inner) (hb : Adequate (m - 1) body) :
    Adequate (m + 1) (level inner body) where
  sound {x e v w w'} hw h := by
    cases x with
    | symbol s =>
      obtain ⟨hv, rfl⟩ := Run.lookup_ok_iff.1 h
      obtain ⟨i, hr⟩ := lookup?_eq_some_iff.1 hv
      exact ⟨hw, .symbol hr, by simp [Derivation.nesting]⟩
    | list form => exact evalForm_sound hi hb hw (within_ok_iff.1 h)
    | _ =>
      obtain ⟨rfl, rfl⟩ := Run.pure_ok_iff.1 h
      exact ⟨hw, .constant trivial, by simp [Derivation.nesting]⟩
  complete {x e v w τ} hw d hd := by
    cases x with
    | symbol s =>
      cases d with
      | constant hc => cases hc
      | symbol hr =>
        exact ⟨w, Run.lookup_ok_iff.2 ⟨lookup?_eq_some_iff.2 ⟨_, hr⟩, rfl⟩, hw, rfl⟩
    | list form =>
      obtain ⟨w', h, hw', hτ⟩ := evalForm_complete hi hb hw d hd
      exact ⟨w', within_ok_iff.2 h, hw', hτ⟩
    | _ =>
      cases d with
      | constant _ => exact ⟨w, Run.pure_ok_iff.2 ⟨rfl, rfl⟩, hw, rfl⟩

lemma eval_adequate (room : Nat) : Adequate room (eval room) := by
  induction room using Nat.strongRecOn with
  | ind room ih =>
    cases room with
    | zero =>
      constructor
      · intro x e v w w' _ h
        simp [eval_zero] at h
      · intro x e v w τ _ d hd
        omega
    | succ m =>
      rw [eval_succ]
      exact level_adequate (ih m (by omega)) (ih (m - 1) (by omega))

end Eval

theorem evaluate_ok_iff_derivation {w : World} (hw : w.Plain) (x : Value) (e : Scope) (v : Value)
    (τ : State) :
    (∃ w', evaluate x e w = .ok v w' ∧ w'.state = τ) ↔
      ∃ d : Derivation w.state e x v τ, d.nesting < depthLimit := by
  have ha := Eval.eval_adequate depthLimit
  constructor
  · rintro ⟨w', h, rfl⟩
    exact (ha.sound hw h).2
  · rintro ⟨d, hd⟩
    obtain ⟨w', h, -, hτ⟩ := ha.complete hw d hd
    exact ⟨w', h, hτ⟩

def rootWorld : World :=
  { World.start .collecting with store := ⟨#[.empty], 0⟩ }

def overwriting : Value :=
  -- `((lambda (x) (set! x #f) x) #t)`
  .list [.list [.symbol ⟨0, "lambda"⟩, .list [.symbol ⟨4, "x"⟩],
      .list [.symbol ⟨3, "set!"⟩, .symbol ⟨4, "x"⟩, .bool false], .symbol ⟨4, "x"⟩],
    .bool true]

theorem evaluate_ok_iff_derivation_overwriting :
    rootWorld.Plain ∧ ∃ τ, ∃ d : Derivation rootWorld.state ⟨0, []⟩ overwriting (.bool false) τ,
      d.nesting < depthLimit := by
  have hw : rootWorld.Plain := ⟨rfl, rfl⟩
  exact ⟨hw, _,
    (evaluate_ok_iff_derivation hw overwriting ⟨0, []⟩ (.bool false) _).1 ⟨_, rfl, rfl⟩⟩

end SmallScheme
