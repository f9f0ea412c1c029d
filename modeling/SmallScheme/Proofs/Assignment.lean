import SmallScheme.Proofs.ScopeGrowth
import SmallScheme.Proofs.Visibility

/-! An assignment changes the value in one slot that exists when its expression has been evaluated.
The slot is looked for twice, and since no evaluation loses a binding, the second time it is found
if the first time it was. -/

namespace SmallScheme

lemma Frame.keys_put {f : Frame} {s : Symbol} (h : f.binds s = true) (v : Value) :
    (f.put s v).bindings.map Prod.fst = f.bindings.map Prod.fst := by
  obtain ⟨bs⟩ := f
  change (putIn s v bs).map Prod.fst = bs.map Prod.fst
  induction bs with
  | nil => cases h
  | cons b rest ih =>
    obtain ⟨k, u⟩ := b
    rw [putIn]
    split
    · rfl
    · next hk =>
      have hrest : (⟨rest⟩ : Frame).binds s = true := by
        simpa [binds, get?, List.find?_cons, hk] using h
      rw [List.map_cons, ih hrest, List.map_cons]

namespace Store

variable {st st' : Store} {e : Scope} {s : Symbol}

structure Replaced (st st' : Store) (i : Nat) (s : Symbol) (v : Value) : Prop where
  size : st'.frames.size = st.frames.size
  closures : st'.closures = st.closures
  others {j : Nat} : j ≠ i → st'.frame j = st.frame j
  keys : (st'.frame i).bindings.map Prod.fst = (st.frame i).bindings.map Prod.fst
  slot (t : Symbol) : (st'.frame i).get? t = if s.same t then some v else (st.frame i).get? t

lemma replaced_put {i : Nat} (h : (st.frame i).binds s = true) (v : Value) :
    st.Replaced (st.put i s v) i s v := by
  have hframe : (st.put i s v).frame i = (st.frame i).put s v := by
    rw [frame_put, if_pos ⟨rfl, lt_size_of_binds h⟩]
  refine ⟨size_put st i s v, rfl, fun hj => ?_, ?_, fun t => ?_⟩
  · rw [frame_put, if_neg fun h => hj h.1.symm]
  · rw [hframe, Frame.keys_put h]
  · rw [hframe, Frame.get?_put]

lemma Grown.isBound (h : st.Grown st') (hb : st.isBound e s = true) :
    st'.isBound e s = true := by
  rw [isBound_eq_isSome_lookup?] at hb ⊢
  exact h.lookup hb

end Store

namespace Eval

variable {inner : Evaluator} {x : Value} {s : Symbol} {e : Scope} {w w' : World}

lemma grown_of_eval {room : Nat} {v : Value} (h : eval room x e w = .ok v w') :
    w.store.Grown w'.store := by
  have haligned : (Store.Grown.invariant w.store).Aligned () (fun _ _ => True) (eval room x e) :=
    Invariant.aligned_eval room trivial trivial
  obtain ⟨_, -, hkept⟩ := Invariant.Aligned.kept haligned (Invariant.holds_ofStores (.refl _))
  rw [h] at hkept
  cases hkept with
  | ok _ hw => exact hw.stores

lemma evalAssignment_unbound (head : Value) (h : w.store.isBound e s = false) :
    evalAssignment inner [head, .symbol s, x] e w = .error (.unbound s.name) w := by
  rw [evalAssignment, Run.get_bind_apply, if_neg (by simp [h])]
  rfl

lemma evalAssignment_of_error {err : Error} (head : Value) (h : w.store.isBound e s = true)
    (hx : inner x e w = .error err w') :
    evalAssignment inner [head, .symbol s, x] e w = .error err w' := by
  rw [evalAssignment, Run.get_bind_apply, if_pos h]
  exact Run.bind_of_error hx _

lemma evalAssignment_of_ok {v : Value} {i : Nat} (head : Value)
    (h : w.store.isBound e s = true) (hx : inner x e w = .ok v w') (hi : w'.store.Nearest e s i) :
    evalAssignment inner [head, .symbol s, x] e w =
      .ok .unspecified { w' with
        store := w'.store.put i s v
        events := w'.events.push (.assigned s.name v) } :=
  evalAssignment_ok_iff.2
    ⟨head, s, x, v, w', i, rfl, h, hx, Store.home?_eq_some_iff_nearest.2 hi, rfl, rfl⟩

end Eval

open Eval in
/-- What `(set! s x)` does. If no frame binds `s`, it fails and nothing has happened. Otherwise it
fails as `x` fails, and succeeds if `x` has a value: then that value stands in the slot of `s`
nearest to the scope by now, and nothing else has changed. -/
theorem assignment_exact {head : Value} (hhead : SpecialForm.ofHead? head = some .assignment)
    (room : Nat) (s : Symbol) (x : Value) (e : Scope) (w : World) :
    ((∀ i ∈ e.chain, (w.store.frame i).binds s = false) →
      eval (room + 1) (.list [head, .symbol s, x]) e w = .error (.unbound s.name) w) ∧
    ((∃ i ∈ e.chain, (w.store.frame i).binds s = true) →
      (∀ err w', eval room x e w = .error err w' →
        eval (room + 1) (.list [head, .symbol s, x]) e w =
          .error (err.within (formText [head, .symbol s, x])) w') ∧
      ∀ v w', eval room x e w = .ok v w' →
        ∃ i st, w'.store.Nearest e s i ∧ w'.store.Replaced st i s v ∧
          eval (room + 1) (.list [head, .symbol s, x]) e w =
            .ok .unspecified { w' with
              store := st
              events := w'.events.push (.assigned s.name v) }) := by
  rw [eval_of_special hhead]
  constructor
  · intro h
    exact within_of_error (evalAssignment_unbound head (Store.isBound_eq_false_iff.2 h))
  · intro h
    have hbound := Store.isBound_eq_true_iff.2 h
    refine ⟨fun err w' hx => within_of_error (evalAssignment_of_error head hbound hx),
      fun v w' hx => ?_⟩
    obtain ⟨i, hi⟩ := Store.exists_nearest ((grown_of_eval hx).isBound hbound)
    refine ⟨i, _, hi, Store.replaced_put hi.2 v, ?_⟩
    exact within_ok_iff.2 (evalAssignment_of_ok head hbound hx hi)

open Eval in
theorem assignment_exact_shadowed :
    (∃ w st, eval 2 (.list [.symbol ⟨1, "define"⟩, .symbol ⟨4, "x"⟩, .bool true]) ⟨1, [0]⟩
        .branching = .ok .unspecified w ∧
      w.store.Nearest ⟨1, [0]⟩ ⟨4, "x"⟩ 1 ∧ w.store.Replaced st 1 ⟨4, "x"⟩ .unspecified ∧
      eval 3 (.list [.symbol ⟨3, "set!"⟩, .symbol ⟨4, "x"⟩,
        .list [.symbol ⟨1, "define"⟩, .symbol ⟨4, "x"⟩, .bool true]]) ⟨1, [0]⟩ .branching =
          .ok .unspecified { w with
            store := st
            events := w.events.push (.assigned "x" .unspecified) }) ∧
    eval 3 (.list [.symbol ⟨3, "set!"⟩, .symbol ⟨5, "y"⟩,
      .list [.symbol ⟨1, "define"⟩, .symbol ⟨5, "y"⟩, .bool true]]) ⟨1, [0]⟩ .branching =
        .error (.unbound "y") .branching := by
  -- `(set! x (define x #t))` finds `x` in the outer frame first and then in the inner one, and
  -- `(set! y (define y #t))` does not get as far as binding `y`.
  have hhead : SpecialForm.ofHead? (.symbol ⟨3, "set!"⟩) = some .assignment := rfl
  obtain ⟨-, hbound⟩ := assignment_exact hhead 2 ⟨4, "x"⟩
    (.list [.symbol ⟨1, "define"⟩, .symbol ⟨4, "x"⟩, .bool true]) ⟨1, [0]⟩ .branching
  obtain ⟨hunbound, -⟩ := assignment_exact hhead 2 ⟨5, "y"⟩
    (.list [.symbol ⟨1, "define"⟩, .symbol ⟨5, "y"⟩, .bool true]) ⟨1, [0]⟩ .branching
  obtain ⟨-, hset⟩ := hbound ⟨0, by decide, rfl⟩
  obtain ⟨i, st, hi, hst, hrun⟩ := hset .unspecified _ rfl
  obtain rfl : 1 = i := Option.some.inj (Store.home?_eq_some_iff_nearest.2 hi)
  exact ⟨⟨_, st, rfl, hi, hst, hrun⟩, hunbound (by decide)⟩

end SmallScheme
