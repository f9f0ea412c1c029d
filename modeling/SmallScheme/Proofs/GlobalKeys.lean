import SmallScheme.Proofs.ReadNames
import SmallScheme.Proofs.Ensures
import SmallScheme.Proofs.TextSession

/-! The keys of a session's global frame. Only a definition that stands in the global scope itself
adds one, so they are symbols of the session's table whatever else code and hosts do. -/

namespace SmallScheme

structure World.Keyed (t : SymbolTable) (g : Nat) (w : World) : Prop where
  lt : g < w.store.frames.size
  has : ∀ k ∈ (w.store.frame g).bindings.map Prod.fst, t.Has k

lemma Frame.has_put {t : SymbolTable} {f : Frame} {s : Symbol}
    (h : ∀ k ∈ f.bindings.map Prod.fst, t.Has k) (hs : f.binds s = false → t.Has s) (v : Value) :
    ∀ k ∈ (f.put s v).bindings.map Prod.fst, t.Has k := by
  cases hb : f.binds s with
  | true =>
    rw [keys_put hb]
    exact h
  | false =>
    rw [bindings_put_of_not_binds hb, List.map_append, List.forall_mem_append]
    exact ⟨h, by simpa using hs hb⟩

namespace World.Keyed

variable {t t' : SymbolTable} {g : Nat} {w : World}

lemma mono (h : w.Keyed t g) (hle : t ≤ t') : w.Keyed t' g :=
  ⟨h.lt, fun k hk => (h.has k hk).mono hle⟩

lemma put (h : w.Keyed t g) {i : Nat} {s : Symbol}
    (hs : i = g → (w.store.frame g).binds s = false → t.Has s) (v : Value) :
    Keyed t g { w with store := w.store.put i s v } := by
  refine ⟨by simpa using h.lt, ?_⟩
  rw [Store.frame_put]
  split_ifs with hi
  · obtain ⟨rfl, -⟩ := hi
    exact Frame.has_put h.has (hs rfl) v
  · exact h.has

lemma define (h : w.Keyed t g) {e : Scope} {s : Symbol} (hs : e.frame = g → t.Has s) (v : Value) :
    Keyed t g { w with store := w.store.define e s v } :=
  h.put (fun hi _ => hs hi) v

lemma defineAll (h : w.Keyed t g) {e : Scope} (he : e.frame ≠ g) (params : List Symbol)
    (args : List Value) : Keyed t g { w with store := w.store.defineAll e params args } := by
  induction params generalizing w args with
  | nil => exact h
  | cons s ss ih =>
    cases args with
    | nil => exact h
    | cons v vs => exact ih (h.define (fun hg => absurd hg he) v) vs

lemma enter (h : w.Keyed t g) (outer : List Nat) :
    Keyed t g { w with store := (w.store.enter outer).2 } := by
  refine ⟨?_, by simpa using h.has⟩
  have hlt := h.lt
  simp only [Store.size_enter]
  omega

end World.Keyed

open Run Correspondence

section Keyed

variable (t : SymbolTable) (g : Nat)

abbrev KeepsKeys {α : Type} (Q : α → Prop) (m : Run α) : Prop :=
  Ensures (World.Keyed t g) Q (fun _ => True) m

lemma upheld_keyed : Upheld (World.Keyed t g) (fun _ => True) fun _ => True where
  noted _ h := ⟨h.lt, h.has⟩
  written _ h := ⟨h.lt, h.has⟩
  called h _ := ⟨h.lt, h.has⟩
  number _ := trivial
  bool _ := trivial
  unspecified := trivial
  plain _ := trivial
  answers _ _ _ _ := trivial
  refuses _ _ _ _ := trivial

variable {t g}

lemma keepsKeys_lookup (e : Scope) (s : Symbol) : KeepsKeys t g (fun _ => True) (lookup e s) := by
  apply ensures_get
  intro w _
  cases w.store.lookup? e s with
  | none => exact ensures_throw trivial
  | some v => exact ensures_pure trivial

lemma keepsKeys_define {e : Scope} {s : Symbol} (hs : e.frame = g → t.Has s) (v : Value) :
    KeepsKeys t g (fun _ => True) (numbered.define e s v) := by
  refine ((upheld_keyed t g).note _).bind fun _ _ => ?_
  exact ensures_modify fun _ hw => hw.define hs v

lemma keepsKeys_assign (e : Scope) (s : Symbol) (v : Value) :
    KeepsKeys t g (fun _ => True) (numbered.assign e s v) := by
  -- What is assigned to is bound already, and its key stays as it is.
  refine ((upheld_keyed t g).note _).bind fun _ _ w hw => ?_
  rw [assign, get_bind_apply]
  cases hi : w.store.home? e s with
  | none => exact .error trivial hw
  | some i =>
    have hbinds : (w.store.frame i).binds s = true :=
      List.find?_some (p := fun i => (w.store.frame i).binds s) hi
    refine .ok trivial (hw.put ?_ v)
    rintro rfl hunbound
    cases hbinds.symm.trans hunbound

lemma keepsKeys_newClosure (params : List Symbol) (body : List Value) (e : Scope) :
    KeepsKeys t g (fun _ => True) (newClosure params body e) :=
  fun _ hw => .ok trivial ⟨hw.lt, hw.has⟩

lemma keepsKeys_enter (e : Scope) (params : List Symbol) (args : List Value) :
    KeepsKeys t g (fun inner => inner.frame ≠ g) (numbered.enter e params args) := by
  refine ((upheld_keyed t g).note _).bind fun _ _ => ?_
  have hchild : KeepsKeys t g (fun inner => inner.frame ≠ g) (newChild e) := by
    intro w hw
    have hlt := hw.lt
    refine .ok ?_ (hw.enter e.chain)
    change w.store.frames.size ≠ g
    omega
  refine hchild.bind fun inner hinner => ?_
  refine (ensures_modify fun _ hw => hw.defineAll hinner params args).bind fun _ _ => ?_
  exact ensures_pure hinner

variable (t g)

def keyedRuns : Correspondence Unit World World where
  states _ := Twin (World.Keyed t g)
  errors := Eq

variable {t g}

lemma Run.Ensures.aligned {α : Type} {Q : α → Prop} {r : α → α → Prop} {m : Run α}
    (h : KeepsKeys t g Q m) (hr : ∀ a, Q a → r a a) :
    (keyedRuns t g).Aligned () (fun _ => r) m m := by
  rintro _ - w _ ⟨rfl, hw⟩
  have hend := h w hw
  refine ⟨(), le_rfl, ?_⟩
  generalize m w = result at hend
  cases hend with
  | ok ha hu => exact .ok (hr _ ha) ⟨rfl, hu⟩
  | error _ hu => exact .error rfl ⟨rfl, hu⟩

lemma keepsKeys_of_aligned {m : Run Value} (h : (keyedRuns t g).Aligned () (fun _ => Eq) m m) :
    KeepsKeys t g (fun _ => True) m := by
  intro w hw
  obtain ⟨_, -, ho⟩ := h () le_rfl w w ⟨rfl, hw⟩
  generalize m w = result at ho
  cases ho with
  | ok _ hu => exact .ok trivial hu.2
  | error _ hu => exact .error trivial hu.2

variable (t g)

/-- Code that may run in the frame `g` has symbols of the table; what the bodies of closures hold
does not matter, since they run elsewhere. -/
def keyedSimulation : Simulation numbered numbered Unit Bool where
  runs := keyedRuns t g
  texts := Eq
  names inside := Twin fun s => inside = true → t.Has s
  values _ := Eq
  code _ inside := Twin fun x => inside = true → ∀ s ∈ x.symbols, t.Has s
  scopes _ inside := Twin fun e => inside = false → e.frame ≠ g
  errors_refl _ := rfl
  errors_text f _ h := congrArg f h
  errors_within h h' := congr (congrArg Error.within h) h'
  text_name h := congrArg Symbol.name h.1
  text_value h := congrArg Value.written h
  text_code h := congrArg Value.written h.1
  same_eq h h' := congrArg₂ Symbol.same h.1 h'.1
  special_eq h := numbered.special?_congr h.1
  values_mono _ h := h
  code_mono _ h := h
  scopes_mono _ h := h
  unspecified _ := Eq.refl Value.unspecified
  code_shapes := by
    rintro k inside x _ ⟨rfl, hx⟩
    cases x with
    | symbol s => exact .symbol ⟨rfl, fun hi => hx hi s (List.mem_singleton_self s)⟩
    | list form =>
      refine .list (forall₂_twin_iff.2 ⟨rfl, fun y hy hi s hs => hx hi s ?_⟩)
      exact Value.mem_symbolsAll.2 ⟨y, hy, hs⟩
    | _ => exact .constant trivial trivial rfl
  value_shapes := by
    rintro k v _ rfl
    cases v with
    | bool b => exact .bool b
    | host p => exact .host p
    | closure i params body e =>
      refine .closure ⟨rfl, fun hargs _ => ⟨false, forall₂_twin_iff.2 ⟨rfl, nofun⟩, ?_⟩⟩
      obtain rfl := List.forall₂_eq_eq_eq ▸ hargs
      exact (keepsKeys_enter e params _).aligned fun _ he => ⟨rfl, fun _ => he⟩
    | _ => exact .inert trivial trivial
  lookup := by
    rintro k inside e _ s _ ⟨rfl, -⟩ ⟨rfl, -⟩
    exact (keepsKeys_lookup e s).aligned fun _ _ => rfl
  isBound := by
    rintro k inside e _ s _ ⟨rfl, -⟩ ⟨rfl, -⟩
    have hbound : KeepsKeys t g (fun _ => True) (numbered.isBound e s) :=
      ensures_get fun _ _ => ensures_pure trivial
    exact hbound.aligned fun _ _ => rfl
  define := by
    rintro k inside e _ s _ v _ ⟨rfl, he⟩ ⟨rfl, hs⟩ rfl
    refine (keepsKeys_define (fun hg => ?_) v).aligned fun _ _ => trivial
    cases inside with
    | true => exact hs rfl
    | false => exact absurd hg (he rfl)
  assign := by
    rintro k inside e _ s _ v _ ⟨rfl, -⟩ ⟨rfl, -⟩ rfl
    exact (keepsKeys_assign e s v).aligned fun _ _ => trivial
  newClosure := by
    rintro k inside e _ xs params params' body body' ⟨rfl, -⟩ - - hps hforms
    obtain ⟨rfl, -⟩ := forall₂_twin_iff.1 hps
    obtain ⟨rfl, -⟩ := forall₂_twin_iff.1 hforms
    exact (keepsKeys_newClosure params body e).aligned fun _ _ => rfl
  callHost p _ _ hargs := by
    obtain rfl := List.forall₂_eq_eq_eq ▸ hargs
    exact ((upheld_keyed t g).callHost p fun _ _ => trivial).aligned fun _ _ => rfl

variable {t g}

lemma keepsKeys_evaluate {x : Value} {e : Scope}
    (h : e.frame = g → ∀ s ∈ x.symbols, t.Has s) :
    KeepsKeys t g (fun _ => True) (evaluate x e) := by
  apply keepsKeys_of_aligned
  rw [evaluate_eq]
  by_cases he : e.frame = g
  · exact (keyedSimulation t g).eval_aligned depthLimit (r := true) ⟨rfl, fun _ => h he⟩ ⟨rfl, nofun⟩
  · exact (keyedSimulation t g).eval_aligned depthLimit (r := false) ⟨rfl, nofun⟩ ⟨rfl, fun _ => he⟩

lemma keepsKeys_sequence {forms : List Value} (e : Scope) (last : Value)
    (h : ∀ s ∈ Value.symbolsAll forms, t.Has s) :
    KeepsKeys t g (fun _ => True) (Eval.sequence evaluate e last forms) := by
  induction forms generalizing last with
  | nil => exact ensures_pure trivial
  | cons x xs ih =>
    rw [Value.symbolsAll, List.forall_mem_append] at h
    exact (keepsKeys_evaluate fun _ => h.1).bind fun v _ => ih v h.2

lemma keepsKeys_apply (p : Value) (args : List Value) :
    KeepsKeys t g (fun _ => True) (apply p args) := by
  apply keepsKeys_of_aligned
  rw [apply_eq]
  exact Simulation.apply_aligned (S := keyedSimulation t g) rfl
    (List.forall₂_eq_eq_eq ▸ rfl)

end Keyed

end SmallScheme
