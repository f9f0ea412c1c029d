import Mathlib.Logic.Relation
import SmallScheme.Proofs.Invariant

/-! The frames around a frame are settled when it is made. However a host goes on, by operations on
scopes and by evaluations, every scope in its hands leads outwards through older and older frames,
and no frame, no link and no binding is ever lost. -/

namespace SmallScheme

namespace Value

mutual

def scopes : Value → List Scope
  | list vs => scopesAll vs
  | closure _ _ body e => e :: scopesAll body
  | _ => []

def scopesAll : List Value → List Scope
  | [] => []
  | v :: vs => scopes v ++ scopesAll vs

end

lemma mem_scopesAll {e : Scope} {vs : List Value} :
    e ∈ scopesAll vs ↔ ∃ v ∈ vs, e ∈ v.scopes := by
  induction vs with
  | nil => simp [scopesAll]
  | cons v vs ih => simp [scopesAll, ih]

end Value

/-! ### Links -/

structure Links where
  outers : List (List Nat)
  linked {i j : Nat} {rest : List Nat} :
    outers[i]? = some (j :: rest) → j < i ∧ outers[j]? = some rest

namespace Links

variable {k l : Links} {e e' : Scope}

instance : Preorder Links where
  le k l := k.outers <+: l.outers
  le_refl k := List.prefix_refl k.outers
  le_trans _ _ _ h h' := h.trans h'

def Issued (k : Links) (e : Scope) : Prop :=
  k.outers[e.frame]? = some e.outer

lemma Issued.lt (h : k.Issued e) : e.frame < k.outers.length :=
  (List.getElem?_eq_some_iff.1 h).1

lemma Issued.mono (h : k.Issued e) (hkl : k ≤ l) : l.Issued e := by
  obtain ⟨more, hmore⟩ := hkl
  unfold Issued
  rw [← hmore, List.getElem?_append_left h.lt]
  exact h

lemma Issued.unique (h : k.Issued e) (h' : k.Issued e') (hf : e.frame = e'.frame) : e = e' := by
  obtain ⟨i, outer⟩ := e
  obtain ⟨j, outer'⟩ := e'
  obtain rfl : i = j := hf
  obtain rfl : outer = outer' := Option.some.inj (h.symm.trans h')
  rfl

lemma Issued.parent (h : k.Issued e) (hp : e.parent? = some e') :
    e'.frame < e.frame ∧ k.Issued e' := by
  obtain ⟨i, outer⟩ := e
  cases outer with
  | nil => cases hp
  | cons j rest =>
    obtain rfl := Option.some.inj hp
    exact k.linked h

lemma Issued.descends (h : k.Issued e) : e.chain.Pairwise (· > ·) := by
  obtain ⟨i, outer⟩ := e
  induction outer generalizing i with
  | nil => exact List.pairwise_singleton _ _
  | cons j rest ih =>
    obtain ⟨hj, hrest⟩ := k.linked h
    have hinner := ih j hrest
    refine List.pairwise_cons.2 ⟨fun m hm => ?_, hinner⟩
    rcases List.mem_cons.1 hm with rfl | hm
    · exact hj
    · exact Nat.lt_trans ((List.pairwise_cons.1 hinner).1 m hm) hj

def empty : Links where
  outers := []
  linked h := by simp at h

def extend (k : Links) (outer : List Nat)
    (h : ∀ {j rest}, outer = j :: rest → k.outers[j]? = some rest) : Links where
  outers := k.outers ++ [outer]
  linked {i j rest} hi := by
    have hlt : i < (k.outers ++ [outer]).length := (List.getElem?_eq_some_iff.1 hi).1
    rw [List.length_append, List.length_singleton] at hlt
    by_cases hlast : i < k.outers.length
    · rw [List.getElem?_append_left hlast] at hi
      obtain ⟨hj, hrest⟩ := k.linked hi
      rw [List.getElem?_append_left (Nat.lt_trans hj hlast)]
      exact ⟨hj, hrest⟩
    · obtain rfl : i = k.outers.length := by omega
      have hrest := h (by simpa using hi)
      have hj : j < k.outers.length := (List.getElem?_eq_some_iff.1 hrest).1
      rw [List.getElem?_append_left hj]
      exact ⟨hj, hrest⟩

lemma le_extend {outer : List Nat}
    (h : ∀ {j rest}, outer = j :: rest → k.outers[j]? = some rest) : k ≤ k.extend outer h :=
  List.prefix_append k.outers [outer]

lemma issued_extend {outer : List Nat}
    (h : ∀ {j rest}, outer = j :: rest → k.outers[j]? = some rest) :
    (k.extend outer h).Issued ⟨k.outers.length, outer⟩ := by
  simp [Issued, extend]

lemma exists_enter {st : Store} (hsize : st.frames.size = k.outers.length) {outer : List Nat}
    (h : ∀ {j rest}, outer = j :: rest → k.outers[j]? = some rest) :
    ∃ l : Links, k ≤ l ∧ (st.enter outer).2.frames.size = l.outers.length ∧
      l.Issued (st.enter outer).1 := by
  refine ⟨k.extend outer h, le_extend h, ?_, ?_⟩
  · rw [Store.size_enter, hsize]
    simp [extend]
  · rw [Store.enter, hsize]
    exact issued_extend h

def invariant : Invariant Links where
  scopes := Issued
  code k x := ∀ e ∈ x.scopes, k.Issued e
  values k v := ∀ e ∈ v.scopes, k.Issued e
  stores k st := st.frames.size = k.outers.length
  scopes_mono hkl h := h.mono hkl
  code_mono hkl h e he := (h e he).mono hkl
  values_mono hkl h e he := (h e he).mono hkl
  parts h x hx e he := h e (Value.mem_scopesAll.2 ⟨x, hx, he⟩)
  constant h _ := h
  number _ _ := by simp [Value.scopes]
  bool _ _ := by simp [Value.scopes]
  unspecified _ := by simp [Value.scopes]
  captured h := by
    refine ⟨fun x hx e he => h e ?_, h _ (List.mem_cons_self ..)⟩
    exact List.mem_cons_of_mem _ (Value.mem_scopesAll.2 ⟨x, hx, he⟩)
  closure he _ _ hbody e' he' := by
    rcases List.mem_cons.1 he' with rfl | he'
    · exact he
    · obtain ⟨x, hx, hxe⟩ := Value.mem_scopesAll.1 he'
      exact hbody x hx e' hxe
  put _ _ _ h := by simpa using h
  newClosure h := h
  newChild hsize he := by
    refine exists_enter hsize fun hchain => ?_
    obtain ⟨rfl, rfl⟩ := List.cons.inj hchain
    exact he

end Links

/-! ### Growth -/

structure Store.Grown (st st' : Store) : Prop where
  size_le : st.frames.size ≤ st'.frames.size
  binds {i : Nat} {s : Symbol} : (st.frame i).binds s = true → (st'.frame i).binds s = true

namespace Store.Grown

variable {st st' st'' : Store}

lemma refl (st : Store) : st.Grown st :=
  ⟨Nat.le_refl _, fun h => h⟩

lemma trans (h : st.Grown st') (h' : st'.Grown st'') : st.Grown st'' :=
  ⟨Nat.le_trans h.size_le h'.size_le, fun hb => h'.binds (h.binds hb)⟩

lemma put (h : st.Grown st') (i : Nat) (s : Symbol) (v : Value) : st.Grown (st'.put i s v) where
  size_le := by simpa using h.size_le
  binds {j t} hb := by
    rw [frame_put]
    split
    · next hj =>
      obtain ⟨rfl, -⟩ := hj
      rw [Frame.binds, Frame.get?_put]
      split
      · rfl
      · exact h.binds hb
    · exact h.binds hb

lemma enter (h : st.Grown st') (outer : List Nat) : st.Grown (st'.enter outer).2 where
  size_le := by simpa using Nat.le_succ_of_le h.size_le
  binds hb := by simpa using h.binds hb

lemma lookup (h : st.Grown st') {e : Scope} {s : Symbol} (hs : (st.lookup? e s).isSome = true) :
    (st'.lookup? e s).isSome = true := by
  obtain ⟨i, hi, hb⟩ := List.findSome?_isSome_iff.1 hs
  exact List.findSome?_isSome_iff.2 ⟨i, hi, h.binds hb⟩

lemma newClosure (h : st.Grown st') : st.Grown st'.newClosure.2 :=
  ⟨h.size_le, h.binds⟩

def invariant (st : Store) : Invariant Unit :=
  .ofStores st.Grown (fun i s v h => h.put i s v) newClosure fun e h => h.enter e.chain

end Store.Grown

/-! ### Walking outwards -/

namespace Scope

def climb {α : Type} (visit : Nat → Option α) : Nat → Scope → Option (Option α)
  | 0, _ => none
  | n + 1, e =>
    match visit e.frame, e.parent? with
    | some a, _ => some (some a)
    | none, some e' => climb visit n e'
    | none, none => some none

lemma climb_eq {α : Type} (visit : Nat → Option α) {n : Nat} {e : Scope}
    (h : e.chain.length ≤ n) : e.climb visit n = some (e.chain.findSome? visit) := by
  induction n generalizing e with
  | zero => simp [chain] at h
  | succ n ih =>
    obtain ⟨i, outer⟩ := e
    rw [climb, chain, List.findSome?_cons]
    cases visit i with
    | some a => rfl
    | none =>
      cases outer with
      | nil => rfl
      | cons j rest => exact ih (Nat.le_of_succ_le_succ h)

lemma length_outer_le {i : Nat} {outer : List Nat} (h : (i :: outer).Pairwise (· > ·)) :
    outer.length ≤ i := by
  induction outer generalizing i with
  | nil => exact Nat.zero_le i
  | cons j rest ih =>
    obtain ⟨hi, hrest⟩ := List.pairwise_cons.1 h
    exact Nat.le_trans (Nat.succ_le_succ (ih hrest)) (hi j (List.mem_cons_self ..))

end Scope

namespace Store

def collect (st : Store) : Nat → Scope → Option (List (String × Value))
  | 0, _ => none
  | n + 1, e =>
    match e.parent? with
    | some e' => (st.collect n e').map (insertFrame (st.frame e.frame))
    | none => some (insertFrame (st.frame e.frame) [])

lemma collect_eq (st : Store) {n : Nat} {e : Scope} (h : e.chain.length ≤ n) :
    st.collect n e = some (st.visible e) := by
  induction n generalizing e with
  | zero => simp [Scope.chain] at h
  | succ n ih =>
    obtain ⟨i, outer⟩ := e
    cases outer with
    | nil => rfl
    | cons j rest =>
      have hrest := ih (e := ⟨j, rest⟩) (Nat.le_of_succ_le_succ h)
      rw [collect, Scope.parent?]
      simp only [hrest]
      rfl

structure WalksEnd (st : Store) (e : Scope) : Prop where
  lookup (s : Symbol) :
    e.climb (fun i => (st.frame i).get? s) st.frames.size = some (st.lookup? e s)
  home (s : Symbol) :
    e.climb (Option.guard fun i => (st.frame i).binds s) st.frames.size = some (st.home? e s)
  visible : st.collect st.frames.size e = some (st.visible e)

lemma walksEnd_of_descends {st : Store} {e : Scope} (hlt : e.frame < st.frames.size)
    (h : e.chain.Pairwise (· > ·)) : st.WalksEnd e := by
  have hlength : e.chain.length ≤ st.frames.size :=
    Nat.le_trans (Nat.succ_le_succ (Scope.length_outer_le h)) hlt
  refine ⟨fun s => Scope.climb_eq _ hlength, fun s => ?_, st.collect_eq hlength⟩
  rw [Scope.climb_eq _ hlength, home?, List.find?_eq_findSome?_guard]

end Store

/-! ### Hosts -/

structure Host where
  world : World
  scopes : List Scope
  values : List Value

namespace Host

def start (sink : Sink) : Host := ⟨.start sink, [], []⟩

inductive Holds (h : Host) : Scope → Prop
  | given {e : Scope} : e ∈ h.scopes → Holds h e
  | value {e : Scope} {v : Value} : v ∈ h.values → e ∈ v.scopes → Holds h e
  | bound {e : Scope} {i : Nat} {b : Symbol × Value} :
      b ∈ (h.world.store.frame i).bindings → e ∈ b.2.scopes → Holds h e
  | parent {e e' : Scope} : Holds h e → e.parent? = some e' → Holds h e'

def Owns (h : Host) (v : Value) : Prop :=
  ∀ e ∈ v.scopes, h.Holds e

def Trusts (h : Host) (f : HostFunction) : Prop :=
  ∀ calls args v, f calls args = .ok v → ∀ e ∈ v.scopes, h.Holds e ∨ ∃ a ∈ args, e ∈ a.scopes

def withStore (h : Host) (st : Store) : Host :=
  { h with world := { h.world with store := st } }

def given (h : Host) (made : Scope × Store) : Host :=
  { h.withStore made.2 with scopes := made.1 :: h.scopes }

def after (h : Host) (run : Run Value) : Host :=
  match run h.world with
  | .ok v w => { h with world := w, values := v :: h.values }
  | .error _ w => { h with world := w }

def register (h : Host) (f : HostFunction) : Host :=
  { h with world := { h.world with externals := h.world.externals.push ⟨0, f⟩ } }

inductive Step (h : Host) : Host → Prop
  | newRoot : Step h (h.given h.world.store.newRoot)
  | newChild {e : Scope} : h.Holds e → Step h (h.given (h.world.store.newChild e))
  | define {e : Scope} {s : Symbol} {v : Value} : h.Holds e → h.Owns v →
      Step h (h.withStore (h.world.store.define e s v))
  | assign {e : Scope} {s : Symbol} {v : Value} : h.Holds e → h.Owns v →
      Step h (h.withStore ((h.world.store.assign? e s v).getD h.world.store))
  | evaluate {x : Value} {e : Scope} : h.Owns x → h.Holds e → Step h (h.after (evaluate x e))
  | apply {p : Value} {args : List Value} : h.Owns p → (∀ a ∈ args, h.Owns a) →
      Step h (h.after (apply p args))
  | register {f : HostFunction} : h.Trusts f → Step h (h.register f)

abbrev Steps : Host → Host → Prop :=
  Relation.ReflTransGen Step

lemma after_grown {h : Host} {run : Run Value}
    (hrun : (Store.Grown.invariant h.world.store).Aligned () (fun _ _ => True) run) :
    h.world.store.Grown (h.after run).world.store := by
  obtain ⟨_, -, hkept⟩ := Invariant.Aligned.kept hrun (Invariant.holds_ofStores (.refl _))
  unfold after
  generalize run h.world = result at hkept
  cases hkept with
  | ok _ hw => exact hw.stores
  | error hw => exact hw.stores

lemma Step.grown {h h' : Host} (hs : Step h h') : h.world.store.Grown h'.world.store := by
  have hrefl := Store.Grown.refl h.world.store
  cases hs with
  | newRoot => exact hrefl.enter []
  | @newChild e _ => exact hrefl.enter e.chain
  | @define e s v _ _ => exact hrefl.put e.frame s v
  | @assign e s v _ _ =>
    change h.world.store.Grown ((h.world.store.assign? e s v).getD h.world.store)
    rw [Store.assign?]
    cases h.world.store.home? e s with
    | none => exact hrefl
    | some i => exact hrefl.put i s v
  | evaluate _ _ =>
    apply after_grown
    exact Invariant.aligned_eval depthLimit trivial trivial
  | apply _ _ =>
    apply after_grown
    exact Invariant.aligned_apply trivial fun _ _ => trivial
  | register _ => exact hrefl

lemma Steps.grown {h h' : Host} (hs : Steps h h') : h.world.store.Grown h'.world.store := by
  induction hs with
  | refl => exact .refl _
  | tail _ hstep ih => exact ih.trans hstep.grown

structure Linked (k : Links) (h : Host) : Prop where
  world : Links.invariant.Holds k h.world
  scopes : ∀ e ∈ h.scopes, k.Issued e
  values : ∀ v ∈ h.values, ∀ e ∈ v.scopes, k.Issued e

namespace Linked

variable {k l : Links} {h h' : Host}

lemma start (sink : Sink) : Linked .empty (Host.start sink) where
  world := by
    refine ⟨fun i b hb => ?_, rfl, fun f hf => ?_⟩
    · simp [Host.start, World.start, Store.empty, Store.frame, Frame.empty] at hb
    · simp [Host.start, World.start] at hf
  scopes := by simp [Host.start]
  values := by simp [Host.start]

lemma issued (hk : Linked k h) {e : Scope} (he : h.Holds e) : k.Issued e := by
  induction he with
  | given he => exact hk.scopes _ he
  | value hv he => exact hk.values _ hv _ he
  | bound hb he => exact hk.world.bindings _ _ hb _ he
  | parent _ hp ih => exact (ih.parent hp).2

lemma owned (hk : Linked k h) {v : Value} (hv : h.Owns v) : ∀ e ∈ v.scopes, k.Issued e :=
  fun e he => hk.issued (hv e he)

lemma withWorld (hk : Linked k h) (hkl : k ≤ l) {w : World} (hw : Links.invariant.Holds l w) :
    Linked l { h with world := w } where
  world := hw
  scopes e he := (hk.scopes e he).mono hkl
  values v hv e he := (hk.values v hv e he).mono hkl

lemma given (hk : Linked k h) {outer : List Nat}
    (houter : ∀ {j rest}, outer = j :: rest → k.outers[j]? = some rest) :
    ∃ l, k ≤ l ∧ Linked l (h.given (h.world.store.enter outer)) := by
  obtain ⟨l, hkl, hsize, hissued⟩ := Links.exists_enter hk.world.stores houter
  have hworld : Links.invariant.Holds l
      { h.world with store := (h.world.store.enter outer).2 } := by
    refine hk.world.withStore hkl (fun i b hb => ?_) hsize
    rw [Store.frame_enter] at hb
    exact Links.invariant.values_mono hkl (hk.world.bindings i b hb)
  have hlinked := hk.withWorld hkl hworld
  refine ⟨l, hkl, hlinked.world, fun e he => ?_, hlinked.values⟩
  rcases List.mem_cons.1 he with rfl | he
  · exact hissued
  · exact hlinked.scopes e he

lemma after (hk : Linked k h) {run : Run Value}
    (hrun : Links.invariant.Aligned k Links.invariant.values run) :
    ∃ l, k ≤ l ∧ Linked l (h.after run) := by
  obtain ⟨l, hkl, hkept⟩ := Invariant.Aligned.kept hrun hk.world
  refine ⟨l, hkl, ?_⟩
  unfold Host.after
  generalize run h.world = result at hkept
  cases hkept with
  | error hw => exact hk.withWorld hkl hw
  | ok hv hw =>
    have hlinked := hk.withWorld hkl hw
    refine ⟨hlinked.world, hlinked.scopes, fun u hu => ?_⟩
    rcases List.mem_cons.1 hu with rfl | hu
    · exact hv
    · exact hlinked.values u hu

lemma register (hk : Linked k h) {f : HostFunction} (hf : h.Trusts f) :
    Linked k (h.register f) := by
  refine hk.withWorld le_rfl ⟨hk.world.bindings, hk.world.stores, fun g hg l hkl => ?_⟩
  rcases Array.mem_push.1 hg with hg | rfl
  · exact hk.world.externals g hg l hkl
  · intro calls args v hargs hv e he
    rcases hf calls args v hv e he with he | ⟨a, ha, he⟩
    · exact (hk.issued he).mono hkl
    · exact hargs a ha e he

lemma step (hk : Linked k h) (hs : Step h h') : ∃ l, k ≤ l ∧ Linked l h' := by
  cases hs with
  | newRoot => exact hk.given nofun
  | newChild he =>
    refine hk.given fun hchain => ?_
    obtain ⟨rfl, rfl⟩ := List.cons.inj hchain
    exact hk.issued he
  | @define e s v he hv =>
    exact ⟨k, le_rfl, hk.withWorld le_rfl (hk.world.put e.frame s (hk.owned hv))⟩
  | @assign e s v he hv =>
    refine ⟨k, le_rfl, hk.withWorld le_rfl ?_⟩
    rw [Store.assign?]
    cases h.world.store.home? e s with
    | none => exact hk.world
    | some i => exact hk.world.put i s (hk.owned hv)
  | evaluate hx he =>
    exact hk.after (Invariant.aligned_eval depthLimit (hk.owned hx) (hk.issued he))
  | apply hp hargs =>
    exact hk.after (Invariant.aligned_apply (hk.owned hp) fun a ha => hk.owned (hargs a ha))
  | register hf => exact ⟨k, le_rfl, hk.register hf⟩

lemma steps (hk : Linked k h) (hs : Steps h h') : ∃ l, k ≤ l ∧ Linked l h' := by
  induction hs with
  | refl => exact ⟨k, le_rfl, hk⟩
  | tail _ hstep ih =>
    obtain ⟨l, hkl, hl⟩ := ih
    obtain ⟨m, hlm, hm⟩ := hl.step hstep
    exact ⟨m, hkl.trans hlm, hm⟩

lemma lt_size (hk : Linked k h) {e : Scope} (he : h.Holds e) :
    e.frame < h.world.store.frames.size := by
  rw [show h.world.store.frames.size = k.outers.length from hk.world.stores]
  exact (hk.issued he).lt

end Linked

end Host

open Host in
/-- Whatever a host has done, each scope in its hands is made of frames that exist, every one older
than the one inside it, so that all walks outwards end. Whatever it does next, no frame is lost and
none loses a binding, a frame keeps the frames around it, and what is bound in a scope stays so. -/
theorem scopes_only_grow {sink : Sink} {h h' : Host} (hr : Steps (.start sink) h)
    (hs : Steps h h') :
    (∀ e, h.Holds e → (∀ i ∈ e.chain, i < h.world.store.frames.size) ∧
      e.chain.Pairwise (· > ·) ∧ h.world.store.WalksEnd e) ∧
    h.world.store.frames.size ≤ h'.world.store.frames.size ∧
    (∀ e e', h.Holds e → h'.Holds e' → e.frame = e'.frame → e.outer = e'.outer) ∧
    (∀ i s, (h.world.store.frame i).binds s = true → (h'.world.store.frame i).binds s = true) ∧
    ∀ e s, (h.world.store.lookup? e s).isSome = true →
      (h'.world.store.lookup? e s).isSome = true := by
  obtain ⟨k, -, hk⟩ := (Linked.start sink).steps hr
  obtain ⟨l, hkl, hl⟩ := hk.steps hs
  have hgrown := Steps.grown hs
  refine ⟨fun e he => ?_, hgrown.size_le, fun e e' he he' hf => ?_, fun i s hb => hgrown.binds hb,
    fun e s hs => hgrown.lookup hs⟩
  · have hissued := hk.issued he
    have hlt := hk.lt_size he
    refine ⟨fun i hi => ?_, hissued.descends, Store.walksEnd_of_descends hlt hissued.descends⟩
    rcases List.mem_cons.1 hi with rfl | hi
    · exact hlt
    · exact Nat.lt_trans ((List.pairwise_cons.1 hissued.descends).1 i hi) hlt
  · rw [((hk.issued he).mono hkl).unique (hl.issued he') hf]

namespace Host

def knotted : Host :=
  -- A frame that binds `f` to a closure in it: `(define f (lambda () f))`.
  ((Host.start .collecting).given (Host.start .collecting).world.store.newRoot).after
    (SmallScheme.evaluate (.list [.symbol ⟨1, "define"⟩, .symbol ⟨4, "f"⟩,
      .list [.symbol ⟨0, "lambda"⟩, .list [], .symbol ⟨4, "f"⟩]]) ⟨0, []⟩)

def pulled : Host :=
  -- The closure called, and its value, which it is itself, called again: `((f))`.
  knotted.after (SmallScheme.evaluate (.list [.list [.symbol ⟨4, "f"⟩]]) ⟨0, []⟩)

lemma steps_knotted : Steps (.start .collecting) knotted := by
  refine (Relation.ReflTransGen.single .newRoot).tail
    (.evaluate ?_ (.given (List.mem_cons_self ..)))
  simp [Owns, Value.scopes, Value.scopesAll]

lemma steps_pulled : Steps knotted pulled := by
  refine .single (.evaluate ?_ (.given (List.mem_cons_self ..)))
  simp [Owns, Value.scopes, Value.scopesAll]

end Host

open Host in
theorem scopes_only_grow_knot :
    (knotted.world.store.frame 0).get? ⟨4, "f"⟩ =
      some (.closure 0 [] [.symbol ⟨4, "f"⟩] ⟨0, []⟩) ∧
    pulled.world.store.frames.size = 3 ∧ knotted.world.store.WalksEnd ⟨0, []⟩ ∧
    (pulled.world.store.lookup? ⟨0, []⟩ ⟨4, "f"⟩).isSome = true := by
  obtain ⟨hwalk, -, -, -, hlookup⟩ := scopes_only_grow steps_knotted steps_pulled
  exact ⟨rfl, rfl, (hwalk ⟨0, []⟩ (.given (List.mem_cons_self ..))).2.2, hlookup _ _ rfl⟩

end SmallScheme
