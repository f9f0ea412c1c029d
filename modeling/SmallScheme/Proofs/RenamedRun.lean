import SmallScheme.Proofs.Renaming
import SmallScheme.Proofs.Simulation

namespace SmallScheme

structure Origin where
  start : Renaming
  left : Store
  right : Store

/-- Two numberings agree on `r`, which pairs numbers below `n` and `n'`, or equal distances
above them: so the next number on the left is paired with the next on the right or with none. -/
def InStep (r : Nat → Nat → Prop) (n n' : Nat) : Prop :=
  ∀ i j, r i j → i < n ∧ j < n' ∨ ∃ d, i = n + d ∧ j = n' + d

lemma InStep.next {r : Nat → Nat → Prop} {n n' : Nat} (h : InStep r n n') :
    ∀ i j, r i j → (i = n ↔ j = n') := by
  intro i j hr
  rcases h i j hr with ⟨hi, hj⟩ | ⟨d, rfl, rfl⟩ <;> omega

lemma InStep.extend {r : Nat → Nat → Prop} {n n' : Nat} (h : InStep r n n') :
    InStep (fun i j => r i j ∨ i = n ∧ j = n') (n + 1) (n' + 1) := by
  rintro i j (hr | ⟨rfl, rfl⟩)
  · rcases h i j hr with ⟨hi, hj⟩ | ⟨d, rfl, rfl⟩
    · exact .inl (by omega)
    · cases d with
      | zero => exact .inl (by omega)
      | succ d => exact .inr ⟨d, by omega, by omega⟩
  · exact .inl (by omega)

def Since (r₀ r : Nat → Nat → Prop) (n₀ n n₀' n' : Nat) : Prop :=
  ∀ i j, r i j → r₀ i j ∨ (n₀ ≤ i ∧ i < n) ∧ n₀' ≤ j ∧ j < n'

lemma Since.extend {r₀ r : Nat → Nat → Prop} {n₀ n n₀' n' : Nat} (h : Since r₀ r n₀ n n₀' n')
    (hn : n₀ ≤ n) (hn' : n₀' ≤ n') :
    Since r₀ (fun i j => r i j ∨ i = n ∧ j = n') n₀ (n + 1) n₀' (n' + 1) := by
  rintro i j (hr | ⟨rfl, rfl⟩)
  · rcases h i j hr with h | h
    · exact .inl h
    · exact .inr (by omega)
  · exact .inr (by omega)

structure StoresMatch (o : Origin) (R : Renaming) (st st' : Store) : Prop where
  bindings {i j : Nat} : R.frame i j → ∀ s,
    Option.Rel (Renamed R) ((st.frame i).get? s) ((st'.frame j).get? s)
  frames_inStep : InStep R.frame st.frames.size st'.frames.size
  identities_inStep : InStep R.identity st.closures st'.closures
  frames_since : Since o.start.frame R.frame o.left.frames.size st.frames.size
    o.right.frames.size st'.frames.size
  identities_since : Since o.start.identity R.identity o.left.closures st.closures
    o.right.closures st'.closures
  untouched {i : Nat} : (∀ j, ¬ R.frame i j) → st.frame i = o.left.frame i
  left_le : o.left.frames.size ≤ st.frames.size ∧ o.left.closures ≤ st.closures
  right_le : o.right.frames.size ≤ st'.frames.size ∧ o.right.closures ≤ st'.closures

/-- Renamed arguments get renamed answers or the same error, now and when the renaming has
grown. A function may return a closure it captured only if the renaming knows that closure. -/
def HostFunction.Matches (R : Renaming) (f f' : HostFunction) : Prop :=
  ∀ S, R ≤ S → ∀ calls {args args' : List Value}, RenamedAll S args args' →
    Alike (Renamed S) (f calls args) (f' calls args')

def HostsMatch (R : Renaming) (hosts hosts' : Array External) : Prop :=
  ∀ slot : Nat, Option.Rel (fun x x' => x.function.Matches R x'.function) hosts[slot]? hosts'[slot]?

structure WorldsMatch (o : Origin) (R : Renaming) (w w' : World) : Prop where
  stores : StoresMatch o R w.store w'.store
  sink : w.sink = w'.sink
  output : w.output = w'.output
  calls : w.externals.map External.calls = w'.externals.map External.calls
  hosts : HostsMatch R w.externals w'.externals

def renamingOf (o : Origin) : Correspondence Renaming World World where
  states := WorldsMatch o
  errors := Eq

lemma rel_mono {α β : Type} {r r' : α → β → Prop} {a : Option α} {b : Option β}
    (hr : ∀ a b, r a b → r' a b) (h : Option.Rel r a b) : Option.Rel r' a b := by
  cases h with
  | some h => exact .some (hr _ _ h)
  | none => exact .none

namespace HostFunction

variable {R S : Renaming}

lemma Matches.mono {f f' : HostFunction} (h : f.Matches R f') (hRS : R ≤ S) : f.Matches S f' :=
  fun _ hST => h _ (hRS.trans hST)

lemma matches_constant {v v' : Value} (hv : Renamed R v v') :
    (constant v).Matches R (constant v') :=
  fun _ hRS _ _ _ _ => .ok (hv.mono hRS)

end HostFunction

lemma HostsMatch.mono {R S : Renaming} {hosts hosts' : Array External}
    (h : HostsMatch R hosts hosts') (hRS : R ≤ S) : HostsMatch S hosts hosts' :=
  fun slot => rel_mono (fun _ _ hf => hf.mono hRS) (h slot)

lemma HostsMatch.update {R : Renaming} {hosts hosts' : Array External}
    (h : HostsMatch R hosts hosts') {slot : Nat} {x x' : External} (hx : hosts[slot]? = some x)
    (hx' : hosts'[slot]? = some x') (n : Nat) :
    HostsMatch R (hosts.setIfInBounds slot { x with calls := n })
      (hosts'.setIfInBounds slot { x' with calls := n }) := by
  intro i
  rw [Array.getElem?_setIfInBounds, Array.getElem?_setIfInBounds]
  obtain ⟨hlt, -⟩ := Array.getElem?_eq_some_iff.1 hx
  obtain ⟨hlt', -⟩ := Array.getElem?_eq_some_iff.1 hx'
  by_cases hi : slot = i
  · have hf := h slot
    rw [hx, hx'] at hf
    rw [if_pos hi, if_pos hi, if_pos hlt, if_pos hlt']
    cases hf with
    | some hf => exact .some hf
  · rw [if_neg hi, if_neg hi]
    exact h i

namespace StoresMatch

variable {o : Origin} {R : Renaming} {st st' : Store}

lemma lookup (h : StoresMatch o R st st') {e e' : Scope} (he : R.Scopes e e') (s : Symbol) :
    Option.Rel (Renamed R) (st.lookup? e s) (st'.lookup? e' s) := by
  unfold Renaming.Scopes at he
  unfold Store.lookup?
  generalize e.chain = is at he
  generalize e'.chain = js at he
  induction he with
  | nil => exact .none
  | cons hf _ ih =>
    have hb := h.bindings hf s
    rw [List.findSome?_cons, List.findSome?_cons]
    generalize (st.frame _).get? s = r at hb
    generalize (st'.frame _).get? s = r' at hb
    cases hb with
    | some hv => exact .some hv
    | none => exact ih

lemma home (h : StoresMatch o R st st') {e e' : Scope} (he : R.Scopes e e') (s : Symbol) :
    Option.Rel R.frame (st.home? e s) (st'.home? e' s) := by
  unfold Renaming.Scopes at he
  unfold Store.home? Frame.binds
  generalize e.chain = is at he
  generalize e'.chain = js at he
  induction he with
  | nil => exact .none
  | cons hf _ ih =>
    have hb := h.bindings hf s
    rw [List.find?_cons, List.find?_cons]
    generalize (st.frame _).get? s = r at hb
    generalize (st'.frame _).get? s = r' at hb
    cases hb with
    | some hv => exact .some hf
    | none => exact ih

lemma isBound (h : StoresMatch o R st st') {e e' : Scope} (he : R.Scopes e e') (s : Symbol) :
    st.isBound e s = st'.isBound e' s := by
  have hh := h.home he s
  unfold Store.isBound
  generalize st.home? e s = r at hh
  generalize st'.home? e' s = r' at hh
  cases hh <;> rfl

lemma put (h : StoresMatch o R st st') {i j : Nat} (hf : R.frame i j) (s : Symbol)
    {v v' : Value} (hv : Renamed R v v') : StoresMatch o R (st.put i s v) (st'.put j s v') where
  bindings {k l} hk t := by
    rw [Store.frame_put, Store.frame_put]
    -- Both frames exist or neither does, so a write is lost on both sides or on none.
    have hsize : i < st.frames.size ↔ j < st'.frames.size := by
      rcases h.frames_inStep i j hf with ⟨hi, hj⟩ | ⟨d, rfl, rfl⟩ <;> omega
    by_cases hc : i = k ∧ i < st.frames.size
    · have hc' : j = l ∧ j < st'.frames.size := ⟨(R.frame_iff hf hk).1 hc.1, hsize.1 hc.2⟩
      rw [if_pos hc, if_pos hc', Frame.get?_put, Frame.get?_put]
      by_cases hs : s.same t = true
      · rw [if_pos hs, if_pos hs]
        exact .some hv
      · rw [if_neg hs, if_neg hs]
        exact h.bindings hf t
    · have hc' : ¬ (j = l ∧ j < st'.frames.size) := fun hc' =>
        hc ⟨(R.frame_iff hf hk).2 hc'.1, hsize.2 hc'.2⟩
      rw [if_neg hc, if_neg hc']
      exact h.bindings hk t
  frames_inStep := by simpa using h.frames_inStep
  identities_inStep := h.identities_inStep
  frames_since := by simpa using h.frames_since
  identities_since := h.identities_since
  untouched {k} hk := by
    have hne : ¬ (i = k ∧ i < st.frames.size) := by
      rintro ⟨rfl, -⟩
      exact hk j hf
    rw [Store.frame_put, if_neg hne]
    exact h.untouched hk
  left_le := ⟨by simpa using h.left_le.1, h.left_le.2⟩
  right_le := ⟨by simpa using h.right_le.1, h.right_le.2⟩

lemma defineAll (h : StoresMatch o R st st') {e e' : Scope} (he : R.Scopes e e')
    (params : List Symbol) {vs vs' : List Value} (hvs : List.Forall₂ (Renamed R) vs vs') :
    StoresMatch o R (st.defineAll e params vs) (st'.defineAll e' params vs') := by
  induction params generalizing st st' vs vs' with
  | nil =>
    rw [Store.defineAll, Store.defineAll]
    · exact h
    all_goals simp
  | cons s ss ih =>
    cases hvs with
    | nil => exact h
    | cons hv hvs => exact ih (h.put he.head s hv) hvs

lemma newChild (h : StoresMatch o R st st') {e e' : Scope} (he : R.Scopes e e') :
    ∃ S, R ≤ S ∧ S.Scopes (st.newChild e).1 (st'.newChild e').1 ∧
      StoresMatch o S (st.newChild e).2 (st'.newChild e').2 := by
  have hnext := h.frames_inStep.next
  let S := R.withFrame st.frames.size st'.frames.size hnext
  have hRS : R ≤ S := ⟨fun _ _ => .inl, fun _ _ hi => hi⟩
  refine ⟨S, hRS, .cons (.inr ⟨rfl, rfl⟩) (he.mono hRS), ?_⟩
  have hempty : ∀ (st : Store) s, (st.frame st.frames.size).get? s = none := by
    intro st s
    simp [Store.frame, Array.getD_eq_getD_getElem?, Frame.get?, Frame.empty]
  constructor
  case bindings =>
    intro i j hf s
    simp only [Store.newChild, Store.frame_enter]
    rcases hf with hf | ⟨rfl, rfl⟩
    · exact rel_mono (fun _ _ hv => hv.mono hRS) (h.bindings hf s)
    · rw [hempty, hempty]
      exact .none
  case frames_inStep =>
    simp only [Store.newChild, Store.size_enter]
    exact h.frames_inStep.extend
  case identities_inStep => exact h.identities_inStep
  case frames_since =>
    simp only [Store.newChild, Store.size_enter]
    exact h.frames_since.extend h.left_le.1 h.right_le.1
  case identities_since => exact h.identities_since
  case untouched =>
    intro i hi
    simp only [Store.newChild, Store.frame_enter]
    exact h.untouched fun j hf => hi j (.inl hf)
  case left_le => exact ⟨by simpa [Store.newChild] using Nat.le_succ_of_le h.left_le.1, h.left_le.2⟩
  case right_le =>
    exact ⟨by simpa [Store.newChild] using Nat.le_succ_of_le h.right_le.1, h.right_le.2⟩

lemma newClosure (h : StoresMatch o R st st') :
    ∃ S, R ≤ S ∧ S.identity st.closures st'.closures ∧
      StoresMatch o S st.newClosure.2 st'.newClosure.2 := by
  let S := R.withIdentity st.closures st'.closures h.identities_inStep.next
  have hRS : R ≤ S := ⟨fun _ _ hf => hf, fun _ _ => .inl⟩
  refine ⟨S, hRS, .inr ⟨rfl, rfl⟩, ?_⟩
  exact {
    bindings := fun hf s => rel_mono (fun _ _ hv => hv.mono hRS) (h.bindings hf s)
    frames_inStep := h.frames_inStep
    identities_inStep := h.identities_inStep.extend
    frames_since := h.frames_since
    identities_since := h.identities_since.extend h.left_le.2 h.right_le.2
    untouched := h.untouched
    left_le := ⟨h.left_le.1, Nat.le_succ_of_le h.left_le.2⟩
    right_le := ⟨h.right_le.1, Nat.le_succ_of_le h.right_le.2⟩ }

end StoresMatch

variable {o : Origin} {R : Renaming} {e e' : Scope}

namespace WorldsMatch

variable {w w' : World}

lemma withStore {st st' : Store} {S : Renaming} (h : WorldsMatch o R w w') (hRS : R ≤ S)
    (hst : StoresMatch o S st st') :
    WorldsMatch o S { w with store := st } { w' with store := st' } :=
  ⟨hst, h.sink, h.output, h.calls, h.hosts.mono hRS⟩

lemma called (h : WorldsMatch o R w w') {slot : Nat} {x x' : External}
    (hx : w.externals[slot]? = some x) (hx' : w'.externals[slot]? = some x') (n : Nat) :
    WorldsMatch o R { w with externals := w.externals.setIfInBounds slot { x with calls := n } }
      { w' with externals := w'.externals.setIfInBounds slot { x' with calls := n } } where
  stores := h.stores
  sink := h.sink
  output := h.output
  calls := by
    rw [Array.map_setIfInBounds, Array.map_setIfInBounds, h.calls]
  hosts := h.hosts.update hx hx' n

lemma calls_eq (h : WorldsMatch o R w w') {slot : Nat} {x x' : External}
    (hx : w.externals[slot]? = some x) (hx' : w'.externals[slot]? = some x') :
    x.calls = x'.calls := by
  have hcalls := congrArg (fun calls => calls[slot]?) h.calls
  simpa [hx, hx'] using hcalls

end WorldsMatch

namespace Run

open Correspondence

lemma ofExcept_aligned {α β : Type} {r : Renaming → α → β → Prop} {x : Except Error α}
    {x' : Except Error β} (h : Alike (r R) x x')
    (hmono : ∀ S, R ≤ S → ∀ a b, r R a b → r S a b) :
    (renamingOf o).Aligned R r (ofExcept x) (ofExcept x') := by
  cases h with
  | ok h => exact aligned_pure fun S hRS => hmono S hRS _ _ h
  | error => exact aligned_throw rfl

lemma note_aligned (event event' : Event) :
    (renamingOf o).Aligned R (fun _ _ _ => True) (note event) (note event') :=
  aligned_modify fun _ _ _ _ hw =>
    ⟨hw.stores, hw.sink, hw.output, hw.calls, hw.hosts⟩

lemma lookup_aligned (he : R.Scopes e e') (s : Symbol) :
    (renamingOf o).Aligned R Renamed (lookup e s) (lookup e' s) := by
  apply aligned_get
  intro S hRS w w' hw
  have hl := hw.stores.lookup (he.mono hRS) s
  generalize w.store.lookup? e s = found at hl
  generalize w'.store.lookup? e' s = found' at hl
  cases hl with
  | some hv => exact aligned_pure fun _ h => hv.mono h
  | none => exact aligned_throw rfl

lemma define_aligned (he : R.Scopes e e') (s : Symbol) {v v' : Value} (hv : Renamed R v v') :
    (renamingOf o).Aligned R (fun _ _ _ => True) (define e s v) (define e' s v') :=
  aligned_modify fun _ hRS _ _ hw =>
    hw.withStore le_rfl (hw.stores.put (he.mono hRS).head s (hv.mono hRS))

lemma assign_aligned (he : R.Scopes e e') (s : Symbol) {v v' : Value} (hv : Renamed R v v') :
    (renamingOf o).Aligned R (fun _ _ _ => True) (assign e s v) (assign e' s v') := by
  apply aligned_get
  intro S hRS w w' hw
  have hh := hw.stores.home (he.mono hRS) s
  generalize w.store.home? e s = home at hh
  generalize w'.store.home? e' s = home' at hh
  cases hh with
  | some hf =>
    apply aligned_modify
    intro T hST u u' hu
    exact hu.withStore le_rfl (hu.stores.put (hST.1 _ _ hf) s (hv.mono (hRS.trans hST)))
  | none => exact aligned_throw rfl

lemma newChild_aligned (he : R.Scopes e e') :
    (renamingOf o).Aligned R Renaming.Scopes (newChild e) (newChild e') := by
  intro S hRS w w' hw
  obtain ⟨T, hST, he', hst⟩ := hw.stores.newChild (he.mono hRS)
  exact ⟨T, hST, .ok he' (hw.withStore hST hst)⟩

lemma newClosure_aligned (he : R.Scopes e e') (params : List Symbol) {body body' : List Value}
    (hb : RenamedAll R body body') :
    (renamingOf o).Aligned R Renamed (newClosure params body e) (newClosure params body' e') := by
  intro S hRS w w' hw
  obtain ⟨T, hST, hi, hst⟩ := hw.stores.newClosure
  have hRT := hRS.trans hST
  exact ⟨T, hST, .ok (.closure hi (hb.mono hRT) (he.mono hRT)) (hw.withStore hST hst)⟩

lemma write_aligned (text : String) :
    (renamingOf o).Aligned R (fun _ _ _ => True) (write text) (write text) := by
  intro S _ w w' hw
  have hw' : WorldsMatch o S { w with output := w.output ++ text }
      { w' with output := w'.output ++ text } :=
    ⟨hw.stores, hw.sink, congrArg (· ++ text) hw.output, hw.calls, hw.hosts⟩
  refine ⟨S, le_rfl, ?_⟩
  rw [write_apply, write_apply, congrArg Sink.writeFault hw.sink,
    congrArg Sink.flushFault hw.sink]
  cases w'.sink.writeFault with
  | some fault => exact .error rfl hw
  | none =>
    cases w'.sink.flushFault with
    | some fault => exact .error rfl hw'
    | none => exact .ok trivial hw'

lemma callExternal_aligned (name : String) (slot : Nat) {args args' : List Value}
    (h : RenamedAll R args args') :
    (renamingOf o).Aligned R Renamed (callExternal name slot args)
      (callExternal name slot args') := by
  intro S hRS w w' hw
  rw [callExternal_apply, callExternal_apply]
  have hslot := hw.hosts slot
  generalize hx : w.externals[slot]? = found at hslot
  generalize hx' : w'.externals[slot]? = found' at hslot
  cases hslot with
  | none => exact ⟨S, le_rfl, .error rfl hw⟩
  | @some x x' hf =>
    have hanswer := hf S le_rfl (x.calls + 1) (h.mono hRS)
    simp only [← hw.calls_eq hx hx']
    exact ofExcept_aligned hanswer (fun _ hST _ _ hv => hv.mono hST) S le_rfl _ _
      (hw.called hx hx' (x.calls + 1))

end Run

namespace Eval

open Correspondence Run

lemma displayLine_eq {args args' : List Value} (h : List.Forall₂ (Renamed R) args args') :
    displayLine args = displayLine args' := by
  have hmap : args.map Value.displayed = args'.map Value.displayed := by
    induction h with
    | nil => rfl
    | cons hv _ ih => rw [List.map_cons, List.map_cons, hv.displayed_eq, ih]
  rw [displayLine, displayLine, hmap]

lemma callHost_aligned (p : HostProcedure) {args args' : List Value}
    (h : List.Forall₂ (Renamed R) args args') :
    (renamingOf o).Aligned R Renamed (callHost p args) (callHost p args') := by
  unfold callHost
  rw [h.length_eq]
  refine (note_aligned _ _).bind fun S hRS _ _ _ => ?_
  refine Aligned.bind (r := fun _ _ _ => True) ?_ fun T hST _ _ _ => ?_
  · cases p.arity.check args'.length with
    | ok u => exact aligned_pure fun _ _ => trivial
    | error err => exact aligned_throw rfl
  · have hargs : List.Forall₂ (Renamed T) args args' :=
      h.imp fun _ _ hv => hv.mono (hRS.trans hST)
    cases p.code with
    | builtin b => exact ofExcept_aligned (apply_renamed b hargs) fun _ hTU _ _ hv => hv.mono hTU
    | display =>
      refine Aligned.bind (r := fun _ _ _ => True) ?_ fun _ _ _ _ _ =>
        aligned_pure fun _ _ => .unspecified
      rw [displayLine_eq hargs]
      exact write_aligned _
    | external slot => exact callExternal_aligned p.name slot (renamedAll_iff.2 hargs)

end Eval

open Correspondence Run

lemma enter_aligned (he : R.Scopes e e') (params : List Symbol) {args args' : List Value}
    (ha : List.Forall₂ (Renamed R) args args') :
    (renamingOf o).Aligned R Renaming.Scopes (numbered.enter e params args)
      (numbered.enter e' params args') := by
  refine (note_aligned _ _).bind fun S hRS _ _ _ => ?_
  refine (newChild_aligned (he.mono hRS)).bind fun T hST frame frame' hframe => ?_
  refine (aligned_modify fun U hTU w w' hw => ?_).bind fun U hTU _ _ _ => ?_
  · refine hw.withStore le_rfl (hw.stores.defineAll (hframe.mono hTU) params ?_)
    exact ha.imp fun _ _ hv => hv.mono (hRS.trans (hST.trans hTU))
  · exact aligned_pure fun _ hle => (hframe.mono hTU).mono hle

lemma isBound_aligned (he : R.Scopes e e') (s : Symbol) :
    (renamingOf o).Aligned R (fun _ => Eq) (numbered.isBound e s) (numbered.isBound e' s) := by
  apply aligned_get
  intro S hRS w w' hw
  rw [hw.stores.isBound (he.mono hRS) s]
  exact aligned_pure fun _ _ => rfl

def renamingSimulation (o : Origin) : Simulation numbered numbered Renaming Unit where
  runs := renamingOf o
  texts := Eq
  names _ := Eq
  values := Renamed
  code R _ := Renamed R
  scopes R _ := R.Scopes
  errors_refl _ := rfl
  errors_text f _ h := congrArg f h
  errors_within h h' := congr (congrArg Error.within h) h'
  text_name h := congrArg Symbol.name h
  text_value h := h.written_eq
  text_code h := h.written_eq
  same_eq h h' := congrArg₂ Symbol.same h h'
  special_eq h := numbered.special?_congr h
  values_mono hle h := h.mono hle
  code_mono hle h := h.mono hle
  scopes_mono hle h := h.mono hle
  unspecified _ := .unspecified
  code_shapes h := by
    cases h with
    | symbol s => exact .symbol rfl
    | list hs => exact .list hs.forall₂
    | number x => exact .constant trivial trivial (.number x)
    | string text => exact .constant trivial trivial (.string text)
    | bool b => exact .constant trivial trivial (.bool b)
    | host p => exact .constant trivial trivial (.host p)
    | closure hi hb he => exact .constant trivial trivial (.closure hi hb he)
    | unspecified => exact .constant trivial trivial .unspecified
  value_shapes h := by
    cases h with
    | bool b => exact .bool b
    | host p => exact .host p
    | closure _ hb he =>
      exact .closure ⟨rfl, fun hargs _ => ⟨(), hb.forall₂, enter_aligned he _ hargs⟩⟩
    | _ => exact .inert trivial trivial
  lookup he hs := by
    subst hs
    exact lookup_aligned he _
  isBound he hs := by
    subst hs
    exact isBound_aligned he _
  define he hs hv := by
    subst hs
    refine (note_aligned _ _).bind fun S hRS _ _ _ => ?_
    exact define_aligned (he.mono hRS) _ (hv.mono hRS)
  assign he hs hv := by
    subst hs
    refine (note_aligned _ _).bind fun S hRS _ _ _ => ?_
    exact assign_aligned (he.mono hRS) _ (hv.mono hRS)
  newClosure he _ _ hps hb := by
    obtain rfl := List.forall₂_eq_eq_eq ▸ hps
    exact newClosure_aligned he _ (renamedAll_iff.2 hb)
  callHost p := Eval.callHost_aligned p

lemma eval_aligned (o : Origin) (room : Nat) {x x' : Value} (hx : Renamed R x x')
    (he : R.Scopes e e') :
    (renamingOf o).Aligned R Renamed (Eval.eval room x e) (Eval.eval room x' e') := by
  rw [Eval.eval_eq]
  exact (renamingSimulation o).eval_aligned room (r := ()) hx he

lemma call_aligned (o : Origin) (room : Nat) {p p' : Value} (hp : Renamed R p p')
    {args args' : List Value} (h : RenamedAll R args args')
    (hfits : Simulation.Fits numbered p args) :
    (renamingOf o).Aligned R Renamed (Eval.call (Eval.eval room) p args)
      (Eval.call (Eval.eval room) p' args') := by
  rw [Eval.call_eq, Eval.call_eq, Eval.eval_eq]
  exact Simulation.call_aligned ((renamingSimulation o).eval_aligned room) hp h.forall₂ hfits

lemma apply_aligned (o : Origin) {p p' : Value} (hp : Renamed R p p') {args args' : List Value}
    (h : RenamedAll R args args') :
    (renamingOf o).Aligned R Renamed (apply p args) (apply p' args') := by
  rw [apply_eq, apply_eq]
  exact Simulation.apply_aligned (S := renamingSimulation o) hp h.forall₂

end SmallScheme
