import Mathlib.Data.List.Nodup
import SmallScheme.Proofs.Named.Evaluation
import SmallScheme.Proofs.Reachability
import SmallScheme.Proofs.Simulation

/-! Symbols of one table are told apart by their numbers exactly as by their names. So the
interpreter evaluates as the one without a table does. -/

namespace SmallScheme

namespace SymbolTable

instance : Preorder SymbolTable where
  le t t' := t.names <+: t'.names
  le_refl t := List.prefix_rfl
  le_trans _ _ _ h h' := h.trans h'

structure Sound (t : SymbolTable) : Prop where
  nodup : t.names.Nodup
  special : SpecialForm.all.map SpecialForm.name <+: t.names

def Spells (t : SymbolTable) (s : Symbol) (name : String) : Prop :=
  s.name = name ∧ t.names[s.index]? = some name

variable {t t' : SymbolTable} {s s' : Symbol} {name name' : String}

lemma Spells.mono (h : t.Spells s name) (hle : t ≤ t') : t'.Spells s name := by
  obtain ⟨rest, hrest⟩ := hle
  have hlt : s.index < t.names.length := (List.getElem?_eq_some_iff.1 h.2).1
  refine ⟨h.1, ?_⟩
  rw [← hrest, List.getElem?_append_left hlt]
  exact h.2

lemma Spells.same_eq (ht : t.Sound) (h : t.Spells s name) (h' : t.Spells s' name') :
    s.same s' = (name == name') := by
  obtain ⟨hi, hn⟩ := List.getElem?_eq_some_iff.1 h.2
  obtain ⟨hi', hn'⟩ := List.getElem?_eq_some_iff.1 h'.2
  rw [Symbol.same, Bool.eq_iff_iff, beq_iff_eq, beq_iff_eq, ← hn, ← hn']
  exact ht.nodup.getElem_inj_iff.symm

lemma spells_special (ht : t.Sound) (form : SpecialForm) :
    t.Spells form.symbol form.name := by
  obtain ⟨rest, hrest⟩ := ht.special
  rw [Spells, ← hrest]
  cases form <;> exact ⟨rfl, rfl⟩

lemma Spells.special_eq (ht : t.Sound) (h : t.Spells s name) :
    SpecialForm.ofSymbol? s = SpecialForm.ofName? name := by
  unfold SpecialForm.ofSymbol? SpecialForm.ofName?
  congr 1
  funext form
  exact (spells_special ht form).same_eq ht h

lemma spells_of_get? (h : t.get? name = some s) : t.Spells s name := by
  obtain ⟨i, hi, rfl⟩ := Option.map_eq_some_iff.1 h
  refine ⟨rfl, ?_⟩
  obtain ⟨hlt, hn, -⟩ := List.idxOf?_eq_some_iff.1 hi
  exact List.getElem?_eq_some_iff.2 ⟨hlt, hn⟩

lemma not_mem_of_get? (h : t.get? name = none) : name ∉ t.names := by
  simpa [get?] using h

lemma le_intern (t : SymbolTable) (name : String) : t ≤ (t.intern name).2 := by
  unfold intern
  split
  · exact le_rfl
  · exact List.prefix_append _ _

lemma Sound.intern (ht : t.Sound) (name : String) : (t.intern name).2.Sound := by
  unfold SymbolTable.intern
  split
  · exact ht
  · next h =>
    have hnew := not_mem_of_get? h
    refine ⟨?_, ht.special.trans (List.prefix_append _ _)⟩
    rw [List.nodup_append]
    refine ⟨ht.nodup, List.nodup_singleton _, ?_⟩
    rintro a ha b hb rfl
    obtain rfl := List.mem_singleton.1 hb
    exact hnew ha

lemma spells_intern (t : SymbolTable) (name : String) :
    (t.intern name).2.Spells (t.intern name).1 name := by
  unfold intern
  split
  · next h => exact spells_of_get? h
  · exact ⟨rfl, by simp [size]⟩

end SymbolTable

mutual

inductive Spelt (t : SymbolTable) : Value → Named.Value → Prop
  | number (x : Float) : Spelt t (.number x) (.number x)
  | symbol {s : Symbol} {name : String} : t.Spells s name → Spelt t (.symbol s) (.symbol name)
  | string (text : String) : Spelt t (.string text) (.string text)
  | bool (b : Bool) : Spelt t (.bool b) (.bool b)
  | list {vs : List Value} {ws : List Named.Value} : SpeltAll t vs ws → Spelt t (.list vs) (.list ws)
  | host (p : HostProcedure) : Spelt t (.host p) (.host p)
  | closure (i : Nat) {params : List Symbol} {names : List String} {body : List Value}
      {body' : List Named.Value} (e : Scope) : List.Forall₂ t.Spells params names →
      SpeltAll t body body' → Spelt t (.closure i params body e) (.closure i names body' e)
  | unspecified : Spelt t .unspecified .unspecified

inductive SpeltAll (t : SymbolTable) : List Value → List Named.Value → Prop
  | nil : SpeltAll t [] []
  | cons {v : Value} {w : Named.Value} {vs : List Value} {ws : List Named.Value} :
      Spelt t v w → SpeltAll t vs ws → SpeltAll t (v :: vs) (w :: ws)

end

variable {t t' : SymbolTable}

lemma speltAll_iff {vs : List Value} {ws : List Named.Value} :
    SpeltAll t vs ws ↔ List.Forall₂ (Spelt t) vs ws := by
  constructor
  · intro h
    induction vs generalizing ws with
    | nil =>
      cases h
      exact .nil
    | cons v vs ih =>
      cases h with
      | cons h hs => exact .cons h (ih hs)
  · intro h
    induction h with
    | nil => exact .nil
    | cons h _ ih => exact .cons h ih

mutual

lemma Spelt.mono {v : Value} {w : Named.Value} (h : Spelt t v w) (hle : t ≤ t') :
    Spelt t' v w := by
  cases h with
  | number x => exact .number x
  | symbol hs => exact .symbol (hs.mono hle)
  | string text => exact .string text
  | bool b => exact .bool b
  | list hs => exact .list (hs.mono hle)
  | host p => exact .host p
  | closure i e hps hb => exact .closure i e (hps.imp fun _ _ hs => hs.mono hle) (hb.mono hle)
  | unspecified => exact .unspecified

lemma SpeltAll.mono {vs : List Value} {ws : List Named.Value} (h : SpeltAll t vs ws)
    (hle : t ≤ t') : SpeltAll t' vs ws := by
  cases h with
  | nil => exact .nil
  | cons h hs => exact .cons (h.mono hle) (hs.mono hle)

end

mutual

lemma Spelt.spell_eq (style : Style) {v : Value} {w : Named.Value} (h : Spelt t v w) :
    v.spell style = w.toValue.spell style := by
  cases h with
  | symbol hs => exact congrArg String.toList hs.1
  | list hs =>
    cases hs with
    | nil => rfl
    | cons h hs =>
      rw [Named.Value.toValue, Named.Value.toValues, Value.spell_cons, Value.spell_cons,
        h.spell_eq style, hs.spellRest_eq style]
  | @closure i params names _ _ e hps _ =>
    have hlen : params.length = (names.map (fun name => (⟨0, name⟩ : Symbol))).length := by
      rw [List.length_map, hps.length_eq]
    exact congrArg (fun n => "#<closure/".toList ++ Nat.toDigits 10 n ++ ['>']) hlen
  | _ => rfl

lemma SpeltAll.spellRest_eq (style : Style) {vs : List Value} {ws : List Named.Value}
    (h : SpeltAll t vs ws) :
    Value.spellRest style vs = Value.spellRest style (Named.Value.toValues ws) := by
  cases h with
  | nil => rfl
  | cons h hs =>
    rw [Named.Value.toValues, Value.spellRest_cons, Value.spellRest_cons, h.spell_eq style,
      hs.spellRest_eq style]

end

lemma Spelt.written_eq {v : Value} {w : Named.Value} (h : Spelt t v w) : v.written = w.written :=
  congrArg String.ofList (h.spell_eq .written)

lemma Spelt.displayed_eq {v : Value} {w : Named.Value} (h : Spelt t v w) :
    v.displayed = w.displayed :=
  congrArg String.ofList (h.spell_eq .displayed)

mutual

lemma Spelt.equal_eq (ht : t.Sound) {v v' : Value} {w w' : Named.Value} (h : Spelt t v w)
    (h' : Spelt t v' w') : v.equal v' = w.equal w' := by
  cases h with
  | symbol hs =>
    cases h' with
    | symbol hs' => exact hs.same_eq ht hs'
    | _ => rfl
  | list hs =>
    cases h' with
    | list hs' => exact hs.equalAll_eq ht hs'
    | _ => rfl
  | _ => cases h' <;> rfl

lemma SpeltAll.equalAll_eq (ht : t.Sound) {vs vs' : List Value} {ws ws' : List Named.Value}
    (h : SpeltAll t vs ws) (h' : SpeltAll t vs' ws') :
    Value.equalAll vs vs' = Named.Value.equalAll ws ws' := by
  cases h with
  | nil => cases h' <;> rfl
  | cons h hs =>
    cases h' with
    | nil => rfl
    | cons h' hs' =>
      rw [Value.equalAll, Named.Value.equalAll, h.equal_eq ht h', hs.equalAll_eq ht hs']

end

lemma view_spelt (ht : t.Sound) : Value.view.Respects Named.Value.view (Spelt t) where
  number := .number
  bool := .bool
  number? h := by cases h <;> rfl
  bool? h := by cases h <;> rfl
  typeName h := by cases h <;> rfl
  equal h h' := h.equal_eq ht h'

def FrameSpelt (t : SymbolTable) (f : Frame) (f' : Named.Frame) : Prop :=
  List.Forall₂ (fun b b' => t.Spells b.1 b'.1 ∧ Spelt t b.2 b'.2) f.bindings f'

namespace FrameSpelt

variable {f : Frame} {f' : Named.Frame} {s : Symbol} {name : String}

lemma mono (h : FrameSpelt t f f') (hle : t ≤ t') : FrameSpelt t' f f' :=
  h.imp fun _ _ hb => ⟨hb.1.mono hle, hb.2.mono hle⟩

lemma get? (ht : t.Sound) (h : FrameSpelt t f f') (hs : t.Spells s name) :
    Option.Rel (Spelt t) (f.get? s) (f'.get? name) := by
  unfold FrameSpelt at h
  unfold Frame.get? Named.Frame.get?
  generalize f.bindings = bindings at h
  induction h with
  | nil => exact .none
  | cons hb _ ih =>
    simp only [List.find?_cons, hb.1.same_eq ht hs]
    split
    · exact .some hb.2
    · exact ih

lemma put (ht : t.Sound) (h : FrameSpelt t f f') (hs : t.Spells s name) {v : Value}
    {w : Named.Value} (hv : Spelt t v w) : FrameSpelt t (f.put s v) (f'.put name w) := by
  unfold FrameSpelt at *
  unfold Frame.put
  generalize f.bindings = bindings at h
  induction h with
  | nil => exact .cons ⟨hs, hv⟩ .nil
  | @cons b b' _ _ hb hrest ih =>
    obtain ⟨key, u⟩ := b
    obtain ⟨key', u'⟩ := b'
    rw [Frame.putIn, Named.Frame.put, hb.1.same_eq ht hs]
    by_cases hkey : key' = name
    · rw [if_pos (beq_iff_eq.2 hkey), if_pos hkey]
      exact .cons ⟨hb.1, hv⟩ hrest
    · rw [if_neg (by simpa using hkey), if_neg hkey]
      exact .cons hb ih

end FrameSpelt

structure StoreSpelt (t : SymbolTable) (st : Store) (st' : Named.Store) : Prop where
  size : st.frames.size = st'.frames.size
  closures : st.closures = st'.closures
  frames (i : Nat) : FrameSpelt t (st.frame i) (st'.frame i)

namespace StoreSpelt

variable {st : Store} {st' : Named.Store} {s : Symbol} {name : String}

lemma mono (h : StoreSpelt t st st') (hle : t ≤ t') : StoreSpelt t' st st' :=
  ⟨h.size, h.closures, fun i => (h.frames i).mono hle⟩

lemma lookup (ht : t.Sound) (h : StoreSpelt t st st') (e : Scope) (hs : t.Spells s name) :
    Option.Rel (Spelt t) (st.lookup? e s) (st'.lookup? e name) := by
  unfold Store.lookup? Named.Store.lookup?
  induction e.chain with
  | nil => exact .none
  | cons i is ih =>
    have hget := (h.frames i).get? ht hs
    rw [List.findSome?_cons, List.findSome?_cons]
    generalize (st.frame i).get? s = found at hget
    generalize (st'.frame i).get? name = found' at hget
    cases hget with
    | some hv => exact .some hv
    | none => exact ih

lemma home_eq (ht : t.Sound) (h : StoreSpelt t st st') (e : Scope) (hs : t.Spells s name) :
    st.home? e s = st'.home? e name := by
  unfold Store.home? Named.Store.home? Frame.binds
  congr 1
  funext i
  have hget := (h.frames i).get? ht hs
  generalize (st.frame i).get? s = found at hget
  generalize (st'.frame i).get? name = found' at hget
  cases hget <;> rfl

lemma put (ht : t.Sound) (h : StoreSpelt t st st') (i : Nat) (hs : t.Spells s name) {v : Value}
    {w : Named.Value} (hv : Spelt t v w) : StoreSpelt t (st.put i s v) (st'.put i name w) where
  size := by simpa using h.size
  closures := h.closures
  frames k := by
    rw [Store.frame_put, Named.Store.frame_put, h.size]
    split
    · exact (h.frames i).put ht hs hv
    · exact h.frames k

lemma newFrame (h : StoreSpelt t st st') (outer : List Nat) :
    StoreSpelt t (st.enter outer).2 st'.newFrame where
  size := by simpa using h.size
  closures := h.closures
  frames k := by
    rw [Store.frame_enter, Named.Store.frame_newFrame]
    exact h.frames k

lemma defineAll (ht : t.Sound) (h : StoreSpelt t st st') (e : Scope) {params : List Symbol}
    {names : List String} (hps : List.Forall₂ t.Spells params names) {vs : List Value}
    {ws : List Named.Value} (hvs : List.Forall₂ (Spelt t) vs ws) :
    StoreSpelt t (st.defineAll e params vs) (st'.defineAll e.frame names ws) := by
  induction hps generalizing st st' vs ws with
  | nil =>
    rw [Store.defineAll, Named.Store.defineAll]
    · exact h
    all_goals simp
  | cons hs _ ih =>
    cases hvs with
    | nil => exact h
    | cons hv hvs => exact ih (h.put ht e.frame hs hv) hvs

end StoreSpelt

structure WorldSpelt (t : SymbolTable) (w : World) (w' : Named.World) : Prop where
  store : StoreSpelt t w.store w'.store
  sink : w.sink = w'.sink
  output : w.output = w'.output
  externals : w.externals = #[]

lemma WorldSpelt.withStore {w : World} {w' : Named.World} {st : Store} {st' : Named.Store}
    (h : WorldSpelt t w w') (hst : StoreSpelt t' st st') :
    WorldSpelt t' { w with store := st } { w' with store := st' } :=
  ⟨hst, h.sink, h.output, h.externals⟩

def spellingOf {κ : Type} (t : SymbolTable) : Correspondence κ World Named.World where
  states _ := WorldSpelt t
  errors := Eq

namespace Spelling

open Correspondence List

variable {κ : Type} [Preorder κ] {k : κ} {e : Scope} {s : Symbol} {name : String} {v : Value}
  {w : Named.Value}

lemma note_left {α β : Type} {r : κ → α → β → Prop} (event : Event) {m : Run α}
    {m' : Named.Run β} (h : (spellingOf t).Aligned k r m m') :
    (spellingOf t).Aligned k r (Run.note event >>= fun _ => m) m' :=
  fun l hl _ _ hw => h l hl _ _ ⟨hw.store, hw.sink, hw.output, hw.externals⟩

lemma lookup_aligned (ht : t.Sound) (hs : t.Spells s name) :
    (spellingOf t).Aligned k (fun _ => Spelt t) (Run.lookup e s) (Named.Run.lookup e name) := by
  apply aligned_get
  intro _ _ u u' hu
  have hl := hu.store.lookup ht e hs
  generalize u.store.lookup? e s = found at hl
  generalize u'.store.lookup? e name = found' at hl
  cases hl with
  | some hv => exact aligned_pure fun _ _ => hv
  | none => exact aligned_throw (congrArg Error.unbound hs.1)

lemma isBound_aligned (ht : t.Sound) (hs : t.Spells s name) :
    (spellingOf t).Aligned k (fun _ => Eq) (numbered.isBound e s) (named.isBound e name) := by
  apply aligned_get
  intro _ _ u u' hu
  refine aligned_pure fun _ _ => ?_
  rw [Store.isBound, hu.store.home_eq ht e hs]

lemma define_aligned (ht : t.Sound) (hs : t.Spells s name) (hv : Spelt t v w) :
    (spellingOf t).Aligned k (fun _ _ _ => True) (numbered.define e s v) (named.define e name w) :=
  note_left _ (aligned_modify fun _ _ _ _ hu => hu.withStore (hu.store.put ht e.frame hs hv))

lemma assign_aligned (ht : t.Sound) (hs : t.Spells s name) (hv : Spelt t v w) :
    (spellingOf t).Aligned k (fun _ _ _ => True) (numbered.assign e s v)
      (named.assign e name w) := by
  refine note_left _ (aligned_get fun _ _ u u' hu => ?_)
  rw [hu.store.home_eq ht e hs]
  cases u'.store.home? e name with
  | some i => exact aligned_modify fun _ _ _ _ hu => hu.withStore (hu.store.put ht i hs hv)
  | none => exact aligned_throw (congrArg Error.unbound hs.1)

lemma newClosure_aligned {params : List Symbol} {names : List String} {body : List Value}
    {body' : List Named.Value} (hps : Forall₂ t.Spells params names)
    (hb : Forall₂ (Spelt t) body body') :
    (spellingOf t).Aligned k (fun _ => Spelt t) (Run.newClosure params body e)
      (Named.Run.newClosure names body' e) := by
  intro l _ u u' hu
  refine ⟨l, le_rfl, ?_⟩
  have hc := hu.store.closures
  refine .ok ?_ (hu.withStore ⟨hu.store.size, congrArg (· + 1) hc, hu.store.frames⟩)
  rw [← hc]
  exact .closure _ e hps (speltAll_iff.2 hb)

lemma enter_aligned (ht : t.Sound) {params : List Symbol} {names : List String}
    {args : List Value} {args' : List Named.Value} (hps : Forall₂ t.Spells params names)
    (ha : Forall₂ (Spelt t) args args') :
    (spellingOf t).Aligned k (fun _ => Eq) (numbered.enter e params args)
      (named.enter e names args') := by
  refine note_left _ ?_
  intro l _ u u' hu
  refine ⟨l, le_rfl, ?_⟩
  have hsize := hu.store.size
  refine .ok (congrArg (Scope.mk · e.chain) hsize) (hu.withStore ?_)
  rw [← hsize]
  exact (hu.store.newFrame e.chain).defineAll ht ⟨u.store.frames.size, e.chain⟩ hps ha

lemma write_aligned (text : String) :
    (spellingOf t).Aligned k (fun _ _ _ => True) (Run.write text) (Named.Run.write text) := by
  intro l _ u u' hu
  have hu' : WorldSpelt t { u with output := u.output ++ text }
      { u' with output := u'.output ++ text } :=
    ⟨hu.store, hu.sink, congrArg (· ++ text) hu.output, hu.externals⟩
  refine ⟨l, le_rfl, ?_⟩
  rw [Run.write_apply, Named.Run.write, congrArg Sink.writeFault hu.sink,
    congrArg Sink.flushFault hu.sink]
  cases u'.sink.writeFault with
  | some fault => exact .error rfl hu
  | none =>
    cases u'.sink.flushFault with
    | some fault => exact .error rfl hu'
    | none => exact .ok trivial hu'

lemma callHost_aligned (ht : t.Sound) (p : HostProcedure) {args : List Value}
    {args' : List Named.Value} (h : Forall₂ (Spelt t) args args') :
    (spellingOf t).Aligned k (fun _ => Spelt t) (Eval.callHost p args)
      (Named.Run.callHost p args') := by
  refine note_left _ ?_
  rw [h.length_eq]
  refine Aligned.bind (r := fun _ _ _ => True) ?_ fun _ _ _ _ _ => ?_
  · cases p.arity.check args'.length with
    | ok _ => exact aligned_pure fun _ _ => trivial
    | error err => exact aligned_throw rfl
  · cases p.code with
    | builtin b =>
      have halike := View.apply_related (view_spelt ht) b h
      simp only [Builtin.apply_eq]
      generalize Value.view.apply b args = outcome at halike
      generalize Named.Value.view.apply b args' = outcome' at halike
      cases halike with
      | ok hv => exact aligned_pure fun _ _ => hv
      | error => exact aligned_throw rfl
    | display =>
      have hmap : args.map Value.displayed = args'.map Named.Value.displayed := by
        induction h with
        | nil => rfl
        | cons hv _ ih => rw [List.map_cons, List.map_cons, hv.displayed_eq, ih]
      refine Aligned.bind (r := fun _ _ _ => True) ?_ fun _ _ _ _ _ =>
        aligned_pure fun _ _ => .unspecified
      rw [Eval.displayLine, hmap]
      exact write_aligned _
    | external slot =>
      -- Neither side has procedures but the built-in ones.
      change (spellingOf t).Aligned _ _ (Run.callExternal p.name slot args)
        (get >>= fun _ => throw (.notApplicable p.name))
      apply aligned_get
      intro l _ u u' hu
      rw [hu.externals]
      exact aligned_throw rfl

end Spelling

def spellingSimulation (κ : Type) [Preorder κ] (ht : t.Sound) :
    Simulation numbered named κ Unit where
  runs := spellingOf t
  texts := Eq
  names _ := t.Spells
  values _ := Spelt t
  code _ _ := Spelt t
  scopes _ _ := Eq
  errors_refl _ := rfl
  errors_text f _ h := congrArg f h
  errors_within h h' := congr (congrArg Error.within h) h'
  text_name h := h.1
  text_value h := h.written_eq
  text_code h := h.written_eq
  same_eq h h' := h.same_eq ht h'
  special_eq h := h.special_eq ht
  values_mono _ h := h
  code_mono _ h := h
  scopes_mono _ h := h
  unspecified _ := .unspecified
  code_shapes h := by
    cases h with
    | symbol hs => exact .symbol hs
    | list hs => exact .list (speltAll_iff.1 hs)
    | number x => exact .constant trivial trivial (.number x)
    | string text => exact .constant trivial trivial (.string text)
    | bool b => exact .constant trivial trivial (.bool b)
    | host p => exact .constant trivial trivial (.host p)
    | closure i e hps hb => exact .constant trivial trivial (.closure i e hps hb)
    | unspecified => exact .constant trivial trivial .unspecified
  value_shapes h := by
    cases h with
    | bool b => exact .bool b
    | host p => exact .host p
    | closure i e hps hb =>
      exact .closure ⟨hps.length_eq, fun hargs _ =>
        ⟨(), speltAll_iff.1 hb, Spelling.enter_aligned ht hps hargs⟩⟩
    | _ => exact .inert trivial trivial
  lookup he hs := by
    subst he
    exact Spelling.lookup_aligned ht hs
  isBound he hs := by
    subst he
    exact Spelling.isBound_aligned ht hs
  define he hs hv := by
    subst he
    exact Spelling.define_aligned ht hs hv
  assign he hs hv := by
    subst he
    exact Spelling.assign_aligned ht hs hv
  newClosure he _ _ hps hb := by
    subst he
    exact Spelling.newClosure_aligned hps hb
  callHost p := Spelling.callHost_aligned ht p

end SmallScheme
