import Mathlib.Logic.Relation
import SmallScheme.Proofs.Invariant

/-! Where closures come from. The interpreter is run with a record of the closures that lambda
forms were evaluated to, in order. Every closure that code or a host can lay hands on stands in
the record, and closures in different places of it are different. -/

namespace SmallScheme

open Correspondence

namespace Value

mutual

def closures : Value → List Value
  | list vs => closuresAll vs
  -- Code may hold closures, so bodies are looked through as well.
  | closure i params body e => closure i params body e :: closuresAll body
  | _ => []

def closuresAll : List Value → List Value
  | [] => []
  | v :: vs => closures v ++ closuresAll vs

end

lemma mem_closuresAll {c : Value} {vs : List Value} :
    c ∈ closuresAll vs ↔ ∃ v ∈ vs, c ∈ v.closures := by
  induction vs with
  | nil => simp [closuresAll]
  | cons v vs ih => simp [closuresAll, ih]

end Value

/-! ### The record -/

structure Recorded where
  world : World
  made : List Value

namespace Recorded

def start (sink : Sink) : Recorded := ⟨.start sink, []⟩

variable {α : Type}

def withRecord (made : List Value) :
    EStateM.Result Error World α → EStateM.Result Error Recorded α
  | .ok a w => .ok a ⟨w, made⟩
  | .error err w => .error err ⟨w, made⟩

def withoutRecord : EStateM.Result Error Recorded α → EStateM.Result Error World α
  | .ok a r => .ok a r.world
  | .error err r => .error err r.world

def lift (m : Run α) : EStateM Error Recorded α := fun r =>
  withRecord r.made (m r.world)

end Recorded

open Recorded in
def recording : Machine Symbol Value Recorded where
  shape := Value.shape
  written := Value.written
  unspecified := .unspecified
  name := Symbol.name
  same := Symbol.same
  special? := SpecialForm.ofSymbol?
  lookup e s := lift (numbered.lookup e s)
  isBound e s := lift (numbered.isBound e s)
  define e s v := lift (numbered.define e s v)
  assign e s v := lift (numbered.assign e s v)
  newClosure params body e := do
    let c ← lift (Run.newClosure params body e)
    modify fun r => { r with made := r.made ++ [c] }
    pure c
  enter e params args := lift (numbered.enter e params args)
  callHost p args := lift (numbered.callHost p args)

structure Makings where
  made : List Value
  identity {i : Nat} {c : Value} : made[i]? = some c → ∃ params body e, c = .closure i params body e

namespace Makings

variable {k l : Makings} {v : Value}

instance : Preorder Makings where
  le k l := k.made <+: l.made
  le_refl k := List.prefix_refl k.made
  le_trans _ _ _ h h' := h.trans h'

def empty : Makings where
  made := []
  identity h := by simp at h

def extend (k : Makings) (params : List Symbol) (body : List Value) (e : Scope) : Makings where
  made := k.made ++ [.closure k.made.length params body e]
  identity {i c} h := by
    have hlt : i < (k.made ++ [Value.closure k.made.length params body e]).length :=
      (List.getElem?_eq_some_iff.1 h).1
    rw [List.length_append, List.length_singleton] at hlt
    by_cases hi : i < k.made.length
    · rw [List.getElem?_append_left hi] at h
      exact k.identity h
    · obtain rfl : i = k.made.length := by omega
      obtain rfl : Value.closure k.made.length params body e = c := by simpa using h
      exact ⟨params, body, e, rfl⟩

lemma le_extend (k : Makings) (params : List Symbol) (body : List Value) (e : Scope) :
    k ≤ k.extend params body e :=
  List.prefix_append k.made _

lemma equal_iff {i j : Nat} {c c' : Value} (hi : k.made[i]? = some c)
    (hj : k.made[j]? = some c') : c.equal c' = true ↔ i = j := by
  obtain ⟨_, _, _, rfl⟩ := k.identity hi
  obtain ⟨_, _, _, rfl⟩ := k.identity hj
  rw [Value.equal, beq_iff_eq]

def Accounts (k : Makings) (v : Value) : Prop :=
  ∀ c ∈ v.closures, c ∈ k.made

lemma Accounts.mono (h : k.Accounts v) (hkl : k ≤ l) : l.Accounts v :=
  fun c hc => List.IsPrefix.subset hkl (h c hc)

lemma accounts_list {vs : List Value} : k.Accounts (.list vs) ↔ ∀ v ∈ vs, k.Accounts v := by
  constructor
  · intro h v hv c hc
    exact h c (Value.mem_closuresAll.2 ⟨v, hv, hc⟩)
  · intro h c hc
    obtain ⟨v, hv, hc⟩ := Value.mem_closuresAll.1 hc
    exact h v hv c hc

lemma accounts_closure {i : Nat} {params : List Symbol} {body : List Value} {e : Scope} :
    k.Accounts (.closure i params body e) ↔
      .closure i params body e ∈ k.made ∧ ∀ x ∈ body, k.Accounts x := by
  rw [← accounts_list]
  exact List.forall_mem_cons

structure Holds (k : Makings) (w : World) : Prop where
  counter : w.store.closures = k.made.length
  bindings (i : Nat) : ∀ b ∈ (w.store.frame i).bindings, k.Accounts b.2
  externals : ∀ f ∈ w.externals, ∀ calls args v, f.function calls args = .ok v →
    ∀ c ∈ v.closures, c ∈ k.made ∨ ∃ a ∈ args, c ∈ a.closures

namespace Holds

variable {w : World}

lemma put (h : k.Holds w) (i : Nat) (s : Symbol) (hv : k.Accounts v) :
    k.Holds { w with store := w.store.put i s v } where
  counter := h.counter
  bindings j b hb := by
    rcases Store.mem_put hb with hb | hb
    · rw [hb]
      exact hv
    · exact h.bindings j b hb
  externals := h.externals

lemma defineAll (h : k.Holds w) (e : Scope) (params : List Symbol) {args : List Value}
    (hargs : ∀ a ∈ args, k.Accounts a) :
    k.Holds { w with store := w.store.defineAll e params args } := by
  induction params generalizing w args with
  | nil => exact h
  | cons s ss ih =>
    cases args with
    | nil => exact h
    | cons v vs =>
      have hput := h.put e.frame s (hargs v (List.mem_cons_self ..))
      exact ih hput fun a ha => hargs a (List.mem_cons_of_mem v ha)

lemma newChild (h : k.Holds w) (e : Scope) :
    k.Holds { w with store := (w.store.newChild e).2 } where
  counter := h.counter
  bindings i b hb := by
    rw [Store.newChild, Store.frame_enter] at hb
    exact h.bindings i b hb
  externals := h.externals

lemma called (h : k.Holds w) {slot : Nat} {f : External} (hf : w.externals[slot]? = some f) :
    k.Holds { w with
      externals := w.externals.setIfInBounds slot { f with calls := f.calls + 1 } } where
  counter := h.counter
  bindings := h.bindings
  externals g hg := by
    rcases Array.mem_or_eq_of_mem_setIfInBounds hg with hg | rfl
    · exact h.externals g hg
    · exact h.externals f (Array.mem_of_getElem? hf)

lemma newClosure (h : k.Holds w) (params : List Symbol) (body : List Value) (e : Scope) :
    (k.extend params body e).Holds { w with store := w.store.newClosure.2 } where
  counter := by
    change w.store.closures + 1 = (k.made ++ [_]).length
    rw [h.counter, List.length_append, List.length_singleton]
  bindings i b hb := (h.bindings i b hb).mono (k.le_extend params body e)
  externals f hf calls args v hv c hc :=
    (h.externals f hf calls args v hv c hc).imp_left fun hc => List.mem_append_left _ hc

end Holds

/-! ### Runs that make no closure -/

inductive Kept {α : Type} (k : Makings) (p : α → Prop) : EStateM.Result Error World α → Prop
  | ok {a : α} {w : World} : p a → k.Holds w → Kept k p (.ok a w)
  | error {err : Error} {w : World} : k.Holds w → Kept k p (.error err w)

def Keeps {α : Type} (k : Makings) (p : α → Prop) (m : Run α) : Prop :=
  ∀ w, k.Holds w → k.Kept p (m w)

section Keeps

variable {α β : Type} {p : α → Prop} {q : β → Prop}

lemma Keeps.bind {m : Run α} {f : α → Run β} (hm : k.Keeps p m)
    (hf : ∀ a, p a → k.Keeps q (f a)) : k.Keeps q (m >>= f) := by
  intro w hw
  have hkept := hm w hw
  change k.Kept q (EStateM.bind m f w)
  unfold EStateM.bind
  generalize m w = result at hkept
  cases hkept with
  | ok ha hu => exact hf _ ha _ hu
  | error hu => exact .error hu

lemma keeps_pure {a : α} (h : p a) : k.Keeps p (pure a) :=
  fun _ hw => .ok h hw

lemma keeps_throw (err : Error) : k.Keeps p (throw err) :=
  fun _ hw => .error hw

lemma keeps_get {f : World → Run α} (h : ∀ w, k.Holds w → k.Keeps p (f w)) :
    k.Keeps p (get >>= f) :=
  fun w hw => h w hw w hw

lemma keeps_modify {f : World → World} (h : ∀ w, k.Holds w → k.Holds (f w)) :
    k.Keeps (fun _ => True) (modify f) :=
  fun w hw => .ok trivial (h w hw)

lemma keeps_note (event : Event) : k.Keeps (fun _ => True) (Run.note event) :=
  keeps_modify fun _ hw => ⟨hw.counter, hw.bindings, hw.externals⟩

lemma keeps_ofExcept {outcome : Except Error α} (h : ∀ a, outcome = .ok a → p a) :
    k.Keeps p (Run.ofExcept outcome) := by
  cases outcome with
  | ok a => exact keeps_pure (h a rfl)
  | error err => exact keeps_throw err

lemma keeps_lookup (e : Scope) (s : Symbol) : k.Keeps k.Accounts (Run.lookup e s) := by
  apply keeps_get
  intro w hw
  cases hv : w.store.lookup? e s with
  | none => exact keeps_throw _
  | some v =>
    obtain ⟨i, b, hb, rfl⟩ := Store.mem_of_lookup? hv
    exact keeps_pure (hw.bindings i b hb)

lemma keeps_define (e : Scope) (s : Symbol) (hv : k.Accounts v) :
    k.Keeps (fun _ => True) (numbered.define e s v) := by
  refine (keeps_note _).bind fun _ _ => ?_
  exact keeps_modify fun _ hw => hw.put e.frame s hv

lemma keeps_assign (e : Scope) (s : Symbol) (hv : k.Accounts v) :
    k.Keeps (fun _ => True) (numbered.assign e s v) := by
  refine (keeps_note _).bind fun _ _ => keeps_get fun w _ => ?_
  cases w.store.home? e s with
  | none => exact keeps_throw _
  | some i => exact keeps_modify fun _ hw => hw.put i s hv

lemma keeps_enter (e : Scope) (params : List Symbol) {args : List Value}
    (hargs : ∀ a ∈ args, k.Accounts a) :
    k.Keeps (fun _ => True) (numbered.enter e params args) := by
  refine (keeps_note _).bind fun _ _ => ?_
  have hchild : k.Keeps (fun _ => True) (Run.newChild e) :=
    fun _ hw => .ok trivial (hw.newChild e)
  refine hchild.bind fun frame _ => ?_
  refine (keeps_modify fun _ hw => hw.defineAll frame params hargs).bind fun _ _ => ?_
  exact keeps_pure trivial

lemma keeps_write (text : String) : k.Keeps (fun _ => True) (Run.write text) := by
  intro w hw
  have hwritten : k.Holds { w with output := w.output ++ text } :=
    ⟨hw.counter, hw.bindings, hw.externals⟩
  rw [Run.write_apply]
  cases w.sink.writeFault with
  | some fault => exact .error hw
  | none =>
    cases w.sink.flushFault with
    | some fault => exact .error hwritten
    | none => exact .ok trivial hwritten

lemma keeps_callExternal (name : String) (slot : Nat) {args : List Value}
    (hargs : ∀ a ∈ args, k.Accounts a) : k.Keeps k.Accounts (Run.callExternal name slot args) := by
  intro w hw
  rw [Run.callExternal_apply]
  cases hf : w.externals[slot]? with
  | none => exact .error hw
  | some f =>
    refine keeps_ofExcept (fun v hv c hc => ?_) _ (hw.called hf)
    rcases hw.externals f (Array.mem_of_getElem? hf) _ args v hv c hc with hc | ⟨a, ha, hc⟩
    · exact hc
    · exact hargs a ha c hc

lemma keeps_callHost (h : HostProcedure) {args : List Value}
    (hargs : ∀ a ∈ args, k.Accounts a) : k.Keeps k.Accounts (Eval.callHost h args) := by
  refine (keeps_note _).bind fun _ _ => ?_
  refine (keeps_ofExcept (p := fun _ => True) fun _ _ => trivial).bind fun _ _ => ?_
  cases h.code with
  | builtin b =>
    refine keeps_ofExcept fun v hv => Builtin.keeps (fun x => ?_) (fun c => ?_) hargs hv
    · exact nofun
    · exact nofun
  | display => exact (keeps_write _).bind fun _ _ => keeps_pure nofun
  | external slot => exact keeps_callExternal h.name slot hargs

end Keeps

/-! ### The interpreter beside the one that keeps a record -/

def runs : Correspondence Makings World Recorded where
  states k w r := r = ⟨w, k.made⟩ ∧ k.Holds w
  errors := Eq

lemma aligned_lift {α : Type} {p : Makings → α → Prop} {q : Makings → α → α → Prop} {m : Run α}
    (hq : ∀ l a, p l a → q l a a) (h : ∀ l, k ≤ l → l.Keeps (p l) m) :
    runs.Aligned k q m (Recorded.lift m) := by
  rintro l hkl w _ ⟨rfl, hw⟩
  have hkept := h l hkl w hw
  refine ⟨l, le_rfl, ?_⟩
  rw [Recorded.lift]
  generalize m w = result at hkept
  cases hkept with
  | ok ha hu => exact .ok (hq l _ ha) ⟨rfl, hu⟩
  | error hu => exact .error rfl ⟨rfl, hu⟩

lemma aligned_newClosure (params : List Symbol) {body : List Value} (e : Scope)
    (hbody : ∀ x ∈ body, k.Accounts x) :
    runs.Aligned k (fun l => Twin l.Accounts) (Run.newClosure params body e)
      (recording.newClosure params body e) := by
  rintro l hkl w _ ⟨rfl, hw⟩
  have hnew := hw.newClosure params body e
  have hle := l.le_extend params body e
  refine ⟨l.extend params body e, hle, .ok ⟨rfl, ?_⟩ ⟨?_, hnew⟩⟩
  · refine accounts_closure.2 ⟨?_, fun x hx => (hbody x hx).mono (hkl.trans hle)⟩
    rw [hw.counter]
    exact List.mem_append_right l.made (List.mem_singleton_self _)
  · simp only [extend, hw.counter]

def simulation : Simulation numbered recording Makings Unit where
  runs := runs
  texts := Eq
  names _ := Eq
  values k := Twin k.Accounts
  code k _ := Twin k.Accounts
  scopes _ _ := Eq
  errors_refl _ := rfl
  errors_text f _ h := congrArg f h
  errors_within h h' := congr (congrArg Error.within h) h'
  text_name h := congrArg Symbol.name h
  text_value h := congrArg Value.written h.1
  text_code h := congrArg Value.written h.1
  same_eq h h' := congrArg₂ Symbol.same h h'
  special_eq h := numbered.special?_congr h
  values_mono hle h := ⟨h.1, h.2.mono hle⟩
  code_mono hle h := ⟨h.1, h.2.mono hle⟩
  scopes_mono _ h := h
  unspecified _ := ⟨rfl, nofun⟩
  code_shapes := by
    rintro k _ x _ ⟨rfl, hx⟩
    cases x with
    | symbol s => exact .symbol rfl
    | list form => exact .list (forall₂_twin_iff.2 ⟨rfl, accounts_list.1 hx⟩)
    | _ => exact .constant trivial trivial ⟨rfl, hx⟩
  value_shapes := by
    rintro k v _ ⟨rfl, hv⟩
    cases v with
    | bool b => exact .bool b
    | host p => exact .host p
    | closure i params body e =>
      -- The body was accounted for with the closure, when that was made.
      obtain ⟨-, hbody⟩ := accounts_closure.1 hv
      refine .closure ⟨rfl, fun hargs _ => ⟨(), forall₂_twin_iff.2 ⟨rfl, hbody⟩, ?_⟩⟩
      obtain ⟨rfl, hvalues⟩ := forall₂_twin_iff.1 hargs
      refine aligned_lift (fun _ _ _ => rfl) fun l hkl => keeps_enter e params fun a ha => ?_
      exact (hvalues a ha).mono hkl
    | _ => exact .inert trivial trivial
  lookup := by
    rintro k _ e _ s _ rfl rfl
    exact aligned_lift (fun _ _ h => ⟨rfl, h⟩) fun _ _ => keeps_lookup e s
  isBound := by
    rintro k _ e _ s _ rfl rfl
    refine aligned_lift (p := fun _ _ => True) (fun _ _ _ => rfl) fun _ _ => ?_
    exact keeps_get fun _ _ => keeps_pure trivial
  define := by
    rintro k _ e _ s _ v _ rfl rfl ⟨rfl, hv⟩
    exact aligned_lift (fun _ _ _ => trivial) fun l hkl => keeps_define e s (hv.mono hkl)
  assign := by
    rintro k _ e _ s _ v _ rfl rfl ⟨rfl, hv⟩
    exact aligned_lift (fun _ _ _ => trivial) fun l hkl => keeps_assign e s (hv.mono hkl)
  newClosure := by
    rintro k _ e _ xs params params' body body' rfl - - hps hforms
    obtain rfl := List.forall₂_eq_eq_eq ▸ hps
    obtain ⟨rfl, hbody⟩ := forall₂_twin_iff.1 hforms
    exact aligned_newClosure params e hbody
  callHost p _ _ hargs := by
    obtain ⟨rfl, hvalues⟩ := forall₂_twin_iff.1 hargs
    refine aligned_lift (fun _ _ h => ⟨rfl, h⟩) fun l hkl => keeps_callHost p fun a ha => ?_
    exact (hvalues a ha).mono hkl

end Makings

/-! ### Hosts -/

namespace Recorded

variable {r r' : Recorded} {k l : Makings}

def Owns (r : Recorded) (v : Value) : Prop :=
  ∀ c ∈ v.closures, c ∈ r.made

def Trusts (r : Recorded) (f : HostFunction) : Prop :=
  ∀ calls args v, f calls args = .ok v → ∀ c ∈ v.closures, c ∈ r.made ∨ ∃ a ∈ args, c ∈ a.closures

def reached : EStateM.Result Error Recorded Value → Recorded
  | .ok _ r => r
  | .error _ r => r

/-- A host evaluates, applies, and changes the world as it likes, with closures that evaluations
made. -/
inductive Step (r : Recorded) : Recorded → Prop
  | evaluate {x : Value} {e : Scope} : r.Owns x → Step r (reached (recording.evaluate x e r))
  | apply {p : Value} {args : List Value} : r.Owns p → (∀ a ∈ args, r.Owns a) →
      Step r (reached (recording.apply p args r))
  | host {w : World} : w.store.closures = r.world.store.closures →
      (∀ i, ∀ b ∈ (w.store.frame i).bindings, r.Owns b.2) →
      (∀ f ∈ w.externals, r.Trusts f.function) → Step r { r with world := w }

abbrev Steps : Recorded → Recorded → Prop :=
  Relation.ReflTransGen Step

def Yields (r : Recorded) (m : Run Value) (m' : EStateM Error Recorded Value) : Prop :=
  withoutRecord (m' r) = m r.world ∧ ∀ v r', m' r = .ok v r' → r'.Owns v

structure Faithful (r : Recorded) : Prop where
  evaluated {x : Value} (e : Scope) : r.Owns x →
    r.Yields (evaluate x e) (recording.evaluate x e)
  applied {p : Value} {args : List Value} : r.Owns p → (∀ a ∈ args, r.Owns a) →
    r.Yields (apply p args) (recording.apply p args)
  bound {i : Nat} {b : Symbol × Value} : b ∈ (r.world.store.frame i).bindings → r.Owns b.2
  apart {i j : Nat} {c c' : Value} : r.made[i]? = some c → r.made[j]? = some c' →
    (c.equal c' = true ↔ i = j)

def Sound (k : Makings) (r : Recorded) : Prop :=
  r.made = k.made ∧ k.Holds r.world

lemma sound_start (sink : Sink) : Sound .empty (start sink) := by
  refine ⟨rfl, rfl, fun i b hb => ?_, fun f hf => ?_⟩
  · simp [start, World.start, Store.empty, Store.frame, Frame.empty] at hb
  · simp [start, World.start] at hf

namespace Sound

lemma owns_iff (h : Sound k r) {v : Value} : r.Owns v ↔ k.Accounts v := by
  rw [Owns, Makings.Accounts, h.1]

lemma evaluated (h : Sound k r) {x : Value} (hx : r.Owns x) (e : Scope) :
    Makings.runs.Aligned k (fun l => Twin l.Accounts) (evaluate x e) (recording.evaluate x e) := by
  rw [evaluate_eq]
  exact Makings.simulation.eval_aligned depthLimit (r := ()) ⟨rfl, h.owns_iff.1 hx⟩ rfl

lemma applied (h : Sound k r) {p : Value} {args : List Value} (hp : r.Owns p)
    (hargs : ∀ a ∈ args, r.Owns a) :
    Makings.runs.Aligned k (fun l => Twin l.Accounts) (apply p args) (recording.apply p args) := by
  rw [apply_eq]
  refine Simulation.apply_aligned (S := Makings.simulation) ⟨rfl, h.owns_iff.1 hp⟩ ?_
  exact forall₂_twin_iff.2 ⟨rfl, fun a ha => h.owns_iff.1 (hargs a ha)⟩

lemma run (h : Sound k r) {m : Run Value} {m' : EStateM Error Recorded Value}
    (hm : Makings.runs.Aligned k (fun l => Twin l.Accounts) m m') :
    r.Yields m m' ∧ ∃ l, k ≤ l ∧ Sound l (reached (m' r)) := by
  obtain ⟨w, made⟩ := r
  obtain ⟨rfl, hw⟩ := h
  obtain ⟨l, hkl, ho⟩ := hm k le_rfl w _ ⟨rfl, hw⟩
  change (withoutRecord (m' ⟨w, k.made⟩) = m w ∧ ∀ v r', m' ⟨w, k.made⟩ = .ok v r' → r'.Owns v) ∧
    ∃ l, k ≤ l ∧ Sound l (reached (m' ⟨w, k.made⟩))
  generalize m' ⟨w, k.made⟩ = result' at ho
  generalize m w = result at ho
  cases ho with
  | error herr hs =>
    obtain ⟨rfl, hu⟩ := hs
    exact ⟨⟨congrArg (EStateM.Result.error · _) herr.symm, nofun⟩, l, hkl, rfl, hu⟩
  | ok hv hs =>
    obtain ⟨rfl, hu⟩ := hs
    obtain ⟨rfl, hv⟩ := hv
    refine ⟨⟨rfl, fun v r' hr => ?_⟩, l, hkl, rfl, hu⟩
    obtain ⟨rfl, rfl⟩ := EStateM.Result.ok.inj hr
    exact hv

lemma step (h : Sound k r) (hs : Step r r') : ∃ l, k ≤ l ∧ Sound l r' := by
  cases hs with
  | @evaluate x e hx => exact (h.run (h.evaluated hx e)).2
  | apply hp hargs => exact (h.run (h.applied hp hargs)).2
  | host hcounter hbound htrust =>
    refine ⟨k, le_rfl, h.1, hcounter.trans h.2.counter, fun i b hb => ?_, fun f hf => ?_⟩
    · exact h.owns_iff.1 (hbound i b hb)
    · rw [← h.1]
      exact htrust f hf

lemma steps (h : Sound k r) (hs : Steps r r') : ∃ l, k ≤ l ∧ Sound l r' := by
  induction hs with
  | refl => exact ⟨k, le_rfl, h⟩
  | tail _ hstep ih =>
    obtain ⟨l, hkl, hl⟩ := ih
    obtain ⟨m, hlm, hm⟩ := hl.step hstep
    exact ⟨m, hkl.trans hlm, hm⟩

lemma faithful (h : Sound k r) : r.Faithful where
  evaluated e hx := (h.run (h.evaluated hx e)).1
  applied hp hargs := (h.run (h.applied hp hargs)).1
  bound hb := h.owns_iff.2 (h.2.bindings _ _ hb)
  apart hi hj := by
    rw [h.1] at hi hj
    exact Makings.equal_iff hi hj

end Sound

lemma Steps.faithful {sink : Sink} (h : Steps (start sink) r) : r.Faithful := by
  obtain ⟨k, -, hk⟩ := (sound_start sink).steps h
  exact hk.faithful

lemma Steps.made_prefix {sink : Sink} (h : Steps (start sink) r) (h' : Steps r r') :
    r.made <+: r'.made := by
  obtain ⟨k, -, hk⟩ := (sound_start sink).steps h
  obtain ⟨l, hkl, hl⟩ := hk.steps h'
  rw [hk.1, hl.1]
  exact hkl

end Recorded

end SmallScheme
