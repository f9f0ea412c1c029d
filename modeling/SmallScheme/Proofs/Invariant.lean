import Mathlib.Order.CompleteBooleanAlgebra
import Mathlib.Order.CompletePartialOrder
import SmallScheme.Proofs.BuiltinView
import SmallScheme.Proofs.Reachability
import SmallScheme.Proofs.Simulation

/-! What evaluation keeps. A run is put beside itself, in worlds that differ in their log alone:
what every operation keeps is kept by the run, whether it succeeds or fails, and the log decides
nothing. -/

namespace SmallScheme

open Correspondence

def Twin {α : Type} (p : α → Prop) (a b : α) : Prop :=
  a = b ∧ p a

lemma forall₂_twin_iff {α : Type} {p : α → Prop} {as bs : List α} :
    List.Forall₂ (Twin p) as bs ↔ as = bs ∧ ∀ a ∈ as, p a := by
  constructor
  · intro h
    induction h with
    | nil => simp
    | cons hab _ ih =>
      obtain ⟨rfl, ha⟩ := hab
      obtain ⟨rfl, has⟩ := ih
      exact ⟨rfl, by simpa using ⟨ha, has⟩⟩
  · rintro ⟨rfl, h⟩
    induction as with
    | nil => exact .nil
    | cons a as ih =>
      refine .cons ⟨rfl, h a (by simp)⟩ (ih fun b hb => ?_)
      exact h b (List.mem_cons_of_mem a hb)

namespace Builtin

variable {p : Value → Prop}

lemma view_twin (hnumber : ∀ x, p (.number x)) (hbool : ∀ b, p (.bool b)) :
    Value.view.Respects Value.view (Twin p) where
  number x := ⟨rfl, hnumber x⟩
  bool b := ⟨rfl, hbool b⟩
  number? h := congrArg Value.number? h.1
  bool? h := congrArg Value.bool? h.1
  typeName h := congrArg Value.typeName h.1
  equal h h' := congr (congrArg Value.equal h.1) h'.1

lemma keeps (hnumber : ∀ x, p (.number x)) (hbool : ∀ b, p (.bool b)) {b : Builtin}
    {args : List Value} {v : Value} (hargs : ∀ a ∈ args, p a) (hv : b.apply args = .ok v) :
    p v := by
  have halike := View.apply_related (view_twin hnumber hbool) b (forall₂_twin_iff.2 ⟨rfl, hargs⟩)
  rw [← apply_eq, hv] at halike
  cases halike with
  | ok h => exact h.2

end Builtin

namespace Frame

lemma mem_of_get? {f : Frame} {s : Symbol} {v : Value} (h : f.get? s = some v) :
    ∃ b ∈ f.bindings, b.2 = v := by
  obtain ⟨b, hb, rfl⟩ := Option.map_eq_some_iff.1 h
  exact ⟨b, List.mem_of_find?_eq_some hb, rfl⟩

lemma mem_put {f : Frame} {s : Symbol} {v : Value} {b : Symbol × Value}
    (h : b ∈ (f.put s v).bindings) : b.2 = v ∨ b ∈ f.bindings := by
  obtain ⟨bs⟩ := f
  change b ∈ putIn s v bs at h
  change b.2 = v ∨ b ∈ bs
  induction bs with
  | nil =>
    obtain rfl := List.mem_singleton.1 h
    exact .inl rfl
  | cons c rest ih =>
    obtain ⟨k, w⟩ := c
    by_cases hk : k.same s = true
    · rw [putIn, if_pos hk] at h
      rcases List.mem_cons.1 h with rfl | h
      · exact .inl rfl
      · exact .inr (List.mem_cons_of_mem _ h)
    · rw [putIn, if_neg hk] at h
      rcases List.mem_cons.1 h with rfl | h
      · exact .inr (List.mem_cons_self ..)
      · exact (ih h).imp_right (List.mem_cons_of_mem _)

end Frame

namespace Store

lemma mem_of_lookup? {st : Store} {e : Scope} {s : Symbol} {v : Value}
    (h : st.lookup? e s = some v) : ∃ i, ∃ b ∈ (st.frame i).bindings, b.2 = v := by
  obtain ⟨i, -, hi⟩ := List.exists_of_findSome?_eq_some h
  exact ⟨i, Frame.mem_of_get? hi⟩

lemma mem_put {st : Store} {i k : Nat} {s : Symbol} {v : Value} {b : Symbol × Value}
    (h : b ∈ ((st.put i s v).frame k).bindings) : b.2 = v ∨ b ∈ (st.frame k).bindings := by
  rw [frame_put] at h
  split at h
  · next hk =>
    obtain ⟨rfl, -⟩ := hk
    exact Frame.mem_put h
  · exact .inr h

end Store

structure Invariant (κ : Type) [Preorder κ] where
  scopes : κ → Scope → Prop
  code : κ → Value → Prop
  values : κ → Value → Prop
  stores : κ → Store → Prop
  scopes_mono {k l : κ} {e : Scope} : k ≤ l → scopes k e → scopes l e
  code_mono {k l : κ} {x : Value} : k ≤ l → code k x → code l x
  values_mono {k l : κ} {v : Value} : k ≤ l → values k v → values l v
  parts {k : κ} {form : List Value} : code k (.list form) → ∀ x ∈ form, code k x
  constant {k : κ} {x : Value} : code k x → x.shape.IsConstant → values k x
  number (k : κ) (x : Float) : values k (.number x)
  bool (k : κ) (b : Bool) : values k (.bool b)
  unspecified (k : κ) : values k .unspecified
  captured {k : κ} {i : Nat} {params : List Symbol} {body : List Value} {e : Scope} :
    values k (.closure i params body e) → (∀ x ∈ body, code k x) ∧ scopes k e
  closure {k : κ} {i : Nat} {params : List Symbol} {body : List Value} {e : Scope} :
    scopes k e → params.Pairwise (fun s t => s.same t = false) → body ≠ [] →
    (∀ x ∈ body, code k x) → values k (.closure i params body e)
  put {k : κ} {st : Store} (i : Nat) (s : Symbol) (v : Value) :
    stores k st → stores k (st.put i s v)
  newClosure {k : κ} {st : Store} : stores k st → stores k st.newClosure.2
  newChild {k : κ} {st : Store} {e : Scope} : stores k st → scopes k e →
    ∃ l, k ≤ l ∧ stores l (st.newChild e).2 ∧ scopes l (st.newChild e).1

namespace Invariant

variable {κ : Type} [Preorder κ] (I : Invariant κ)

structure Holds (k : κ) (w : World) : Prop where
  bindings (i : Nat) : ∀ b ∈ (w.store.frame i).bindings, I.values k b.2
  stores : I.stores k w.store
  externals : ∀ f ∈ w.externals, ∀ l, k ≤ l → ∀ calls args v, (∀ a ∈ args, I.values l a) →
    f.function calls args = .ok v → I.values l v

def runs : Correspondence κ World World where
  states k w w' := I.Holds k w ∧ ∃ events, w' = { w with events }
  errors := Eq

abbrev Aligned {α : Type} (k : κ) (r : κ → α → Prop) (m : Run α) : Prop :=
  I.runs.Aligned k (fun l => Twin (r l)) m m

abbrev Does (k : κ) (m : Run Unit) : Prop :=
  I.runs.Aligned k (fun _ _ _ => True) m m

namespace Holds

variable {I} {k l : κ} {w : World}

lemma withStore {st : Store} (h : I.Holds k w) (hkl : k ≤ l)
    (hb : ∀ i, ∀ b ∈ (st.frame i).bindings, I.values l b.2) (hst : I.stores l st) :
    I.Holds l { w with store := st } where
  bindings := hb
  stores := hst
  externals f hf m hlm := h.externals f hf m (hkl.trans hlm)

lemma put (h : I.Holds k w) (i : Nat) (s : Symbol) {v : Value} (hv : I.values k v) :
    I.Holds k { w with store := w.store.put i s v } := by
  refine h.withStore le_rfl (fun j b hb => ?_) (I.put i s v h.stores)
  rcases Store.mem_put hb with hb | hb
  · rw [hb]
    exact hv
  · exact h.bindings j b hb

lemma defineAll (h : I.Holds k w) (e : Scope) (params : List Symbol) {args : List Value}
    (hargs : ∀ a ∈ args, I.values k a) :
    I.Holds k { w with store := w.store.defineAll e params args } := by
  induction params generalizing w args with
  | nil => exact h
  | cons s ss ih =>
    cases args with
    | nil => exact h
    | cons v vs =>
      have hput := h.put e.frame s (hargs v (by simp))
      exact ih hput fun a ha => hargs a (List.mem_cons_of_mem v ha)

lemma newChild (h : I.Holds k w) {e : Scope} (he : I.scopes k e) :
    ∃ l, k ≤ l ∧ I.Holds l { w with store := (w.store.newChild e).2 } ∧
      I.scopes l (w.store.newChild e).1 := by
  obtain ⟨l, hkl, hst, hinner⟩ := I.newChild h.stores he
  refine ⟨l, hkl, h.withStore hkl (fun i b hb => ?_) hst, hinner⟩
  rw [Store.newChild, Store.frame_enter] at hb
  exact I.values_mono hkl (h.bindings i b hb)

lemma lookup? (h : I.Holds k w) {e : Scope} {s : Symbol} {v : Value}
    (hv : w.store.lookup? e s = some v) : I.values k v := by
  obtain ⟨i, b, hb, rfl⟩ := Store.mem_of_lookup? hv
  exact h.bindings i b hb

end Holds

variable {I} {k : κ} {e : Scope}

lemma aligned_note (event : Event) : I.Does k (Run.note event) := by
  rintro l - w _ ⟨hw, events, rfl⟩
  exact ⟨l, le_rfl, .ok trivial ⟨⟨hw.bindings, hw.stores, hw.externals⟩, _, rfl⟩⟩

lemma aligned_modify {f : World → World} (hevents : ∀ w events,
    f { w with events } = { f w with events })
    (h : ∀ l, k ≤ l → ∀ w, I.Holds l w → I.Holds l (f w)) :
    I.Does k (modify f) := by
  rintro l hkl w _ ⟨hw, events, rfl⟩
  refine ⟨l, le_rfl, .ok trivial ⟨h l hkl w hw, events, ?_⟩⟩
  rw [hevents]

lemma aligned_ofExcept {α : Type} {r : κ → α → Prop} {outcome : Except Error α}
    (h : ∀ l, k ≤ l → ∀ a, outcome = .ok a → r l a) : I.Aligned k r (Run.ofExcept outcome) := by
  cases outcome with
  | ok a => exact aligned_pure fun l hkl => ⟨rfl, h l hkl a rfl⟩
  | error err => exact aligned_throw rfl

lemma aligned_lookup (e : Scope) (s : Symbol) : I.Aligned k I.values (Run.lookup e s) := by
  apply aligned_get
  rintro l - w _ ⟨hw, events, rfl⟩
  cases hv : w.store.lookup? e s with
  | none => exact aligned_throw rfl
  | some v => exact aligned_pure fun m hlm => ⟨rfl, I.values_mono hlm (hw.lookup? hv)⟩

lemma aligned_isBound (e : Scope) (s : Symbol) :
    I.runs.Aligned k (fun _ => Eq) (numbered.isBound e s) (numbered.isBound e s) := by
  apply aligned_get
  rintro l - w _ ⟨-, events, rfl⟩
  exact aligned_pure fun _ _ => rfl

lemma aligned_define (e : Scope) (s : Symbol) {v : Value} (hv : I.values k v) :
    I.Does k (Run.define e s v) :=
  aligned_modify (fun _ _ => rfl) fun _ hkl _ hw => hw.put e.frame s (I.values_mono hkl hv)

lemma aligned_assign (e : Scope) (s : Symbol) {v : Value} (hv : I.values k v) :
    I.Does k (Run.assign e s v) := by
  apply aligned_get
  rintro l hkl w _ ⟨-, events, rfl⟩
  cases hi : w.store.home? e s with
  | none => exact aligned_throw rfl
  | some i =>
    refine aligned_modify (fun _ _ => rfl) fun m hlm u hu => ?_
    exact hu.put i s (I.values_mono (hkl.trans hlm) hv)

lemma aligned_newClosure {params : List Symbol} {body : List Value} (he : I.scopes k e)
    (hp : params.Pairwise (fun s t => s.same t = false)) (hne : body ≠ [])
    (hbody : ∀ x ∈ body, I.code k x) : I.Aligned k I.values (Run.newClosure params body e) := by
  rintro l hkl w _ ⟨hw, events, rfl⟩
  have hstores : I.Holds l { w with store := w.store.newClosure.2 } :=
    hw.withStore le_rfl hw.bindings (I.newClosure hw.stores)
  have hclosure : I.values l (.closure w.store.closures params body e) :=
    I.closure (I.scopes_mono hkl he) hp hne fun x hx => I.code_mono hkl (hbody x hx)
  exact ⟨l, le_rfl, .ok ⟨rfl, hclosure⟩ ⟨hstores, events, rfl⟩⟩

lemma aligned_newChild (he : I.scopes k e) : I.Aligned k I.scopes (Run.newChild e) := by
  rintro l hkl w _ ⟨hw, events, rfl⟩
  obtain ⟨m, hlm, hm, hinner⟩ := hw.newChild (I.scopes_mono hkl he)
  exact ⟨m, hlm, .ok ⟨rfl, hinner⟩ ⟨hm, events, rfl⟩⟩

lemma aligned_enter (he : I.scopes k e) (params : List Symbol) {args : List Value}
    (hargs : ∀ a ∈ args, I.values k a) :
    I.Aligned k I.scopes (numbered.enter e params args) := by
  refine (aligned_note _).bind fun l hkl _ _ _ => ?_
  refine (aligned_newChild (I.scopes_mono hkl he)).bind fun m hlm frame _ hframe => ?_
  obtain ⟨rfl, hframe⟩ := hframe
  refine (aligned_modify (fun _ _ => rfl) fun n hmn w hw => ?_).bind fun n hmn _ _ _ => ?_
  · refine hw.defineAll frame params fun a ha => ?_
    exact I.values_mono (hkl.trans (hlm.trans hmn)) (hargs a ha)
  · exact aligned_pure fun _ hle => ⟨rfl, I.scopes_mono (hmn.trans hle) hframe⟩

lemma aligned_write (text : String) : I.Does k (Run.write text) := by
  rintro l - w _ ⟨hw, events, rfl⟩
  have hw' : I.Holds l { w with output := w.output ++ text } :=
    ⟨hw.bindings, hw.stores, hw.externals⟩
  refine ⟨l, le_rfl, ?_⟩
  rw [Run.write_apply, Run.write_apply]
  cases w.sink.writeFault with
  | some fault => exact .error rfl ⟨hw, events, rfl⟩
  | none =>
    cases w.sink.flushFault with
    | some fault => exact .error rfl ⟨hw', events, rfl⟩
    | none => exact .ok trivial ⟨hw', events, rfl⟩

lemma Holds.called {w : World} (h : I.Holds k w) {slot : Nat} {f : External}
    (hf : w.externals[slot]? = some f) :
    I.Holds k { w with
      externals := w.externals.setIfInBounds slot { f with calls := f.calls + 1 } } := by
  refine ⟨h.bindings, h.stores, fun g hg => ?_⟩
  rcases Array.mem_or_eq_of_mem_setIfInBounds hg with hg | rfl
  · exact h.externals g hg
  · exact h.externals f (Array.mem_of_getElem? hf)

lemma aligned_callExternal (name : String) (slot : Nat) {args : List Value}
    (hargs : ∀ a ∈ args, I.values k a) :
    I.Aligned k I.values (Run.callExternal name slot args) := by
  rintro l hkl w _ ⟨hw, events, rfl⟩
  rw [Run.callExternal_apply, Run.callExternal_apply]
  cases hf : w.externals[slot]? with
  | none => exact ⟨l, le_rfl, .error rfl ⟨hw, events, rfl⟩⟩
  | some f =>
    have hresult : I.Aligned l I.values (Run.ofExcept (f.function (f.calls + 1) args)) := by
      refine aligned_ofExcept fun m hlm v hv => ?_
      refine hw.externals f (Array.mem_of_getElem? hf) m hlm _ args v (fun a ha => ?_) hv
      exact I.values_mono (hkl.trans hlm) (hargs a ha)
    exact hresult l le_rfl _ _ ⟨hw.called hf, events, rfl⟩

lemma aligned_callHost (p : HostProcedure) {args : List Value}
    (hargs : ∀ a ∈ args, I.values k a) : I.Aligned k I.values (Eval.callHost p args) := by
  refine (aligned_note _).bind fun l hkl _ _ _ => ?_
  refine Aligned.bind (aligned_ofExcept (r := fun _ _ => True) fun _ _ _ _ => trivial)
    fun m hlm _ _ _ => ?_
  have hargs : ∀ a ∈ args, I.values m a := fun a ha =>
    I.values_mono (hkl.trans hlm) (hargs a ha)
  cases p.code with
  | builtin b =>
    refine aligned_ofExcept fun n hmn v hv => ?_
    exact Builtin.keeps (I.number n) (I.bool n) (fun a ha => I.values_mono hmn (hargs a ha)) hv
  | display =>
    refine (aligned_write _).bind fun n _ _ _ _ => ?_
    exact aligned_pure fun i _ => ⟨rfl, I.unspecified i⟩
  | external slot => exact aligned_callExternal p.name slot hargs

variable (I)

def simulation : Simulation numbered numbered κ Unit where
  runs := I.runs
  texts := Eq
  names _ := Eq
  values k := Twin (I.values k)
  code k _ := Twin (I.code k)
  scopes k _ := Twin (I.scopes k)
  errors_refl _ := rfl
  errors_text f _ h := congrArg f h
  errors_within h h' := congr (congrArg Error.within h) h'
  text_name h := congrArg Symbol.name h
  text_value h := congrArg Value.written h.1
  text_code h := congrArg Value.written h.1
  same_eq h h' := congrArg₂ Symbol.same h h'
  special_eq h := numbered.special?_congr h
  values_mono hle h := ⟨h.1, I.values_mono hle h.2⟩
  code_mono hle h := ⟨h.1, I.code_mono hle h.2⟩
  scopes_mono hle h := ⟨h.1, I.scopes_mono hle h.2⟩
  unspecified k := ⟨rfl, I.unspecified k⟩
  code_shapes := by
    rintro k _ x _ ⟨rfl, hx⟩
    cases x with
    | symbol s => exact .symbol rfl
    | list form => exact .list (forall₂_twin_iff.2 ⟨rfl, I.parts hx⟩)
    | _ => exact .constant trivial trivial ⟨rfl, I.constant hx trivial⟩
  value_shapes := by
    rintro k v _ ⟨rfl, hv⟩
    cases v with
    | bool b => exact .bool b
    | host p => exact .host p
    | closure i params body e =>
      obtain ⟨hbody, he⟩ := I.captured hv
      refine .closure ⟨rfl, fun hargs _ => ⟨(), forall₂_twin_iff.2 ⟨rfl, hbody⟩, ?_⟩⟩
      obtain ⟨rfl, hvalues⟩ := forall₂_twin_iff.1 hargs
      exact aligned_enter he params hvalues
    | _ => exact .inert trivial trivial
  lookup := by
    rintro k _ e _ s _ ⟨rfl, -⟩ rfl
    exact aligned_lookup e s
  isBound := by
    rintro k _ e _ s _ ⟨rfl, -⟩ rfl
    exact aligned_isBound e s
  define := by
    rintro k _ e _ s _ v _ ⟨rfl, -⟩ rfl ⟨rfl, hv⟩
    refine (aligned_note _).bind fun l hkl _ _ _ => ?_
    exact aligned_define e s (I.values_mono hkl hv)
  assign := by
    rintro k _ e _ s _ v _ ⟨rfl, -⟩ rfl ⟨rfl, hv⟩
    refine (aligned_note _).bind fun l hkl _ _ _ => ?_
    exact aligned_assign e s (I.values_mono hkl hv)
  newClosure := by
    rintro k _ e _ xs params params' body body' ⟨rfl, he⟩ hp hne hps hforms
    obtain rfl := List.forall₂_eq_eq_eq ▸ hps
    obtain ⟨rfl, hbody⟩ := forall₂_twin_iff.1 hforms
    rw [← Eval.parameters_eq] at hp
    obtain ⟨rest, -, rfl, hdistinct, -⟩ := Eval.parameters_ok_iff.1 hp
    exact aligned_newClosure he hdistinct hne hbody
  callHost p _ _ hargs := by
    obtain ⟨rfl, hvalues⟩ := forall₂_twin_iff.1 hargs
    exact aligned_callHost p hvalues

variable {I}

lemma aligned_eval (room : Nat) {x : Value} (hx : I.code k x) (he : I.scopes k e) :
    I.Aligned k I.values (Eval.eval room x e) := by
  rw [Eval.eval_eq]
  exact I.simulation.eval_aligned room (r := ()) ⟨rfl, hx⟩ ⟨rfl, he⟩

lemma aligned_sequence (room : Nat) {forms : List Value} (hforms : ∀ x ∈ forms, I.code k x)
    (he : I.scopes k e) {last : Value} (hlast : I.values k last) :
    I.Aligned k I.values (Eval.sequence (Eval.eval room) e last forms) := by
  rw [Eval.sequence_eq, Eval.eval_eq]
  exact Simulation.sequence_aligned (S := I.simulation) (r := ()) (I.simulation.eval_aligned room)
    (forall₂_twin_iff.2 ⟨rfl, hforms⟩) ⟨rfl, he⟩ ⟨rfl, hlast⟩

lemma aligned_apply {p : Value} (hp : I.values k p) {args : List Value}
    (hargs : ∀ a ∈ args, I.values k a) : I.Aligned k I.values (apply p args) := by
  rw [apply_eq]
  exact Simulation.apply_aligned (S := I.simulation) ⟨rfl, hp⟩ (forall₂_twin_iff.2 ⟨rfl, hargs⟩)

inductive Kept (I : Invariant κ) (k : κ) : EStateM.Result Error World Value → Prop
  | ok {v : Value} {w : World} : I.values k v → I.Holds k w → Kept I k (.ok v w)
  | error {err : Error} {w : World} : I.Holds k w → Kept I k (.error err w)

lemma kept_of_outcomes {result result' : EStateM.Result Error World Value}
    (h : I.runs.Outcomes k (fun l => Twin (I.values l)) result result') : I.Kept k result := by
  cases h with
  | ok hv hw => exact .ok hv.2 hw.1
  | error _ hw => exact .error hw.1

lemma Aligned.kept {m : Run Value} (h : I.Aligned k I.values m) {w : World}
    (hw : I.Holds k w) : ∃ l, k ≤ l ∧ I.Kept l (m w) := by
  obtain ⟨l, hkl, ho⟩ := h k le_rfl w w ⟨hw, w.events, rfl⟩
  exact ⟨l, hkl, kept_of_outcomes ho⟩

def ofStores (p : Store → Prop) (hput : ∀ {st} i s v, p st → p (st.put i s v))
    (hclosure : ∀ {st}, p st → p st.newClosure.2) (hchild : ∀ {st} e, p st → p (st.newChild e).2) :
    Invariant Unit where
  scopes _ _ := True
  code _ _ := True
  values _ _ := True
  stores _ := p
  scopes_mono _ _ := trivial
  code_mono _ _ := trivial
  values_mono _ _ := trivial
  parts _ _ _ := trivial
  constant _ _ := trivial
  number _ _ := trivial
  bool _ _ := trivial
  unspecified _ := trivial
  captured _ := ⟨fun _ _ => trivial, trivial⟩
  closure _ _ _ _ := trivial
  put := hput
  newClosure := hclosure
  newChild h _ := ⟨(), le_rfl, hchild _ h, trivial⟩

lemma holds_ofStores {p : Store → Prop} {hput hclosure hchild} {w : World} (h : p w.store) :
    (ofStores p hput hclosure hchild).Holds () w :=
  ⟨fun _ _ _ => trivial, h, fun _ _ _ _ _ _ _ _ _ => trivial⟩

end Invariant

end SmallScheme
