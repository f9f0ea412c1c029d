import SmallScheme.Proofs.Named.Evaluation
import SmallScheme.Proofs.Simulation

/-! Two runs side by side whose code is the same but for one lambda form, in which a parameter has
another name. -/

namespace SmallScheme.Named

open List

def Value.lambdaForm (params body : List Value) : Value :=
  .list (.symbol SpecialForm.lambda.name :: .list params :: body)

namespace Variants

inductive Region where
  | outside
  | inside

/-- What a frame was made for: a call of a closure that was made outside, of the lambda form
itself, or of a closure made in it. -/
inductive Tag where
  | outer
  | base
  | inner

def Tag.region : Tag → Region
  | outer => .outside
  | base => .inside
  | inner => .inside

structure Layout where
  tags : List Tag

namespace Layout

instance : Preorder Layout where
  le k l := k.tags <+: l.tags
  le_refl k := List.prefix_rfl
  le_trans _ _ _ h h' := h.trans h'

def HasTag (k : Layout) (i : Nat) (tag : Tag) : Prop :=
  k.tags[i]? = some tag

def push (k : Layout) (tag : Tag) : Layout :=
  ⟨k.tags ++ [tag]⟩

lemma le_push (k : Layout) (tag : Tag) : k ≤ k.push tag :=
  List.prefix_append _ _

variable {k l : Layout} {i : Nat} {tag tag' : Tag}

lemma HasTag.lt (h : k.HasTag i tag) : i < k.tags.length :=
  (List.getElem?_eq_some_iff.1 h).1

lemma HasTag.mono (h : k.HasTag i tag) (hkl : k ≤ l) : l.HasTag i tag := by
  obtain ⟨rest, hrest⟩ := hkl
  unfold HasTag
  rw [← hrest, List.getElem?_append_left h.lt]
  exact h

lemma hasTag_push (k : Layout) (tag : Tag) : (k.push tag).HasTag k.tags.length tag := by
  simp [HasTag, push]

lemma HasTag.of_push (h : (k.push tag).HasTag i tag') :
    k.HasTag i tag' ∨ i = k.tags.length ∧ tag' = tag := by
  unfold HasTag push at h
  rw [List.getElem?_append] at h
  split at h
  · exact .inl h
  · obtain ⟨hi, rfl⟩ := List.getElem?_eq_some_iff.1 h
    simp only [List.length_singleton] at hi
    exact .inr ⟨by omega, by simp⟩

end Layout

inductive Chain (k : Layout) : Region → List Nat → Prop
  | nil : Chain k .outside []
  | outer {i : Nat} {is : List Nat} : k.HasTag i .outer → Chain k .outside is →
      Chain k .outside (i :: is)
  | base {i : Nat} {is : List Nat} : k.HasTag i .base → Chain k .outside is →
      Chain k .inside (i :: is)
  | inner {i : Nat} {is : List Nat} : k.HasTag i .inner → Chain k .inside is →
      Chain k .inside (i :: is)

lemma Chain.mono {k l : Layout} {r : Region} {is : List Nat} (h : Chain k r is) (hkl : k ≤ l) :
    Chain l r is := by
  induction h with
  | nil => exact .nil
  | outer hi _ ih => exact .outer (hi.mono hkl) ih
  | base hi _ ih => exact .base (hi.mono hkl) ih
  | inner hi _ ih => exact .inner (hi.mono hkl) ih

lemma Chain.head {k : Layout} {r : Region} {i : Nat} {is : List Nat} (h : Chain k r (i :: is)) :
    ∃ tag, k.HasTag i tag ∧ tag.region = r := by
  cases h with
  | outer hi _ => exact ⟨_, hi, rfl⟩
  | base hi _ => exact ⟨_, hi, rfl⟩
  | inner hi _ => exact ⟨_, hi, rfl⟩

variable (x y : String)

def NamesAlike : Region → String → String → Prop
  | .outside, a, b => a = b
  | .inside, a, b => a ≠ y ∧ b = if a = x then y else a

mutual

inductive CodeAlike : Region → Value → Value → Prop
  | number {r : Region} (n : Float) : CodeAlike r (.number n) (.number n)
  | string {r : Region} (text : String) : CodeAlike r (.string text) (.string text)
  | bool {r : Region} (b : Bool) : CodeAlike r (.bool b) (.bool b)
  | symbol {r : Region} {a b : String} : NamesAlike x y r a b → CodeAlike r (.symbol a) (.symbol b)
  | list {r : Region} {vs vs' : List Value} : FormsAlike r vs vs' →
      CodeAlike r (.list vs) (.list vs')
  | lambda {params params' body body' : List Value} : .symbol x ∈ params →
      FormsAlike .inside params params' → FormsAlike .inside body body' →
      CodeAlike .outside (.lambdaForm params body) (.lambdaForm params' body')

inductive FormsAlike : Region → List Value → List Value → Prop
  | nil {r : Region} : FormsAlike r [] []
  | cons {r : Region} {v v' : Value} {vs vs' : List Value} : CodeAlike r v v' →
      FormsAlike r vs vs' → FormsAlike r (v :: vs) (v' :: vs')

end

def Opens (k : Layout) (params : List String) (e : Scope) : Tag → Prop
  | .outer => Chain k .outside e.chain
  | .base => x ∈ params ∧ Chain k .outside e.chain
  | .inner => Chain k .inside e.chain

inductive ValuesAlike (k : Layout) : Value → Value → Prop
  | number (n : Float) : ValuesAlike k (.number n) (.number n)
  | string (text : String) : ValuesAlike k (.string text) (.string text)
  | bool (b : Bool) : ValuesAlike k (.bool b) (.bool b)
  | host (p : HostProcedure) : ValuesAlike k (.host p) (.host p)
  | unspecified : ValuesAlike k .unspecified .unspecified
  | closure (i : Nat) (tag : Tag) {params params' : List String} {body body' : List Value}
      {e : Scope} : Opens x k params e tag → Forall₂ (NamesAlike x y tag.region) params params' →
      FormsAlike x y tag.region body body' →
      ValuesAlike k (.closure i params body e) (.closure i params' body' e)

def FramesAlike (k : Layout) (r : Region) (f f' : Frame) : Prop :=
  Forall₂ (fun b b' => NamesAlike x y r b.1 b'.1 ∧ ValuesAlike x y k b.2 b'.2) f f'

structure StoresAlike (k : Layout) (st st' : Store) : Prop where
  size : st.frames.size = k.tags.length
  size' : st'.frames.size = k.tags.length
  closures : st.closures = st'.closures
  frames {i : Nat} {tag : Tag} : k.HasTag i tag →
    FramesAlike x y k tag.region (st.frame i) (st'.frame i)

structure WorldsAlike (k : Layout) (w w' : World) : Prop where
  store : StoresAlike x y k w.store w'.store
  -- No search for `x` passes a call of the lambda form.
  bound {i : Nat} : k.HasTag i .base → w.store.Binds i x
  sink : w.sink = w'.sink
  output : w.output = w'.output

variable {x y} {k l : Layout} {r : Region} {a b a' b' : String}

namespace NamesAlike

lemma eq_iff (h : NamesAlike x y r a a') (h' : NamesAlike x y r b b') : a = b ↔ a' = b' := by
  cases r with
  | outside =>
    obtain rfl := h
    obtain rfl := h'
    exact Iff.rfl
  | inside =>
    obtain ⟨ha, rfl⟩ := h
    obtain ⟨hb, rfl⟩ := h'
    by_cases hax : a = x
    · by_cases hbx : b = x
      · simp [hax, hbx]
      · rw [if_pos hax, if_neg hbx]
        exact ⟨fun h => absurd (h.symm.trans hax) hbx, fun h => absurd h.symm hb⟩
    · by_cases hbx : b = x
      · rw [if_neg hax, if_pos hbx]
        exact ⟨fun h => absurd (h.trans hbx) hax, fun h => absurd h ha⟩
      · rw [if_neg hax, if_neg hbx]

lemma beq_eq (h : NamesAlike x y r a a') (h' : NamesAlike x y r b b') : (a == b) = (a' == b') := by
  rw [Bool.eq_iff_iff, beq_iff_eq, beq_iff_eq]
  exact h.eq_iff h'

lemma outside (h : NamesAlike x y .inside a a') (ha : a ≠ x) : NamesAlike x y .outside a a' := by
  rw [h.2, if_neg ha]
  rfl

lemma special_eq (hx : SpecialForm.ofName? x = none) (hy : SpecialForm.ofName? y = none)
    (h : NamesAlike x y r a a') : SpecialForm.ofName? a = SpecialForm.ofName? a' := by
  cases r with
  | outside =>
    obtain rfl := h
    rfl
  | inside =>
    obtain ⟨-, rfl⟩ := h
    by_cases ha : a = x
    · rw [if_pos ha, ha, hx, hy]
    · rw [if_neg ha]

end NamesAlike

lemma formsAlike_iff {vs vs' : List Value} :
    FormsAlike x y r vs vs' ↔ Forall₂ (CodeAlike x y r) vs vs' := by
  constructor
  · intro h
    induction vs generalizing vs' with
    | nil =>
      cases h
      exact .nil
    | cons v vs ih =>
      cases h with
      | cons h hs => exact .cons h (ih hs)
  · intro h
    induction h with
    | nil => exact .nil
    | cons h _ ih => exact .cons h ih

lemma Opens.mono {params : List String} {e : Scope} {tag : Tag} (h : Opens x k params e tag)
    (hkl : k ≤ l) : Opens x l params e tag := by
  cases tag with
  | outer => exact Chain.mono h hkl
  | base => exact ⟨h.1, h.2.mono hkl⟩
  | inner => exact Chain.mono h hkl

lemma Opens.chain {params : List String} {e : Scope} {tag : Tag} (h : Opens x k params e tag) :
    Chain (k.push tag) tag.region (k.tags.length :: e.chain) := by
  have hle := k.le_push tag
  have htag := k.hasTag_push tag
  cases tag with
  | outer => exact .outer htag (Chain.mono h hle)
  | base => exact .base htag (h.2.mono hle)
  | inner => exact .inner htag (Chain.mono h hle)

namespace ValuesAlike

variable {v v' : Value}

lemma mono (h : ValuesAlike x y k v v') (hkl : k ≤ l) : ValuesAlike x y l v v' := by
  cases h with
  | number n => exact .number n
  | string text => exact .string text
  | bool b => exact .bool b
  | host p => exact .host p
  | unspecified => exact .unspecified
  | closure i tag ho hps hbody => exact .closure i tag (ho.mono hkl) hps hbody

lemma spell_eq (style : Style) (h : ValuesAlike x y k v v') :
    v.toValue.spell style = v'.toValue.spell style := by
  cases h with
  | @closure i tag params params' _ _ _ _ hps _ =>
    -- A closure shows how many parameters it has, not their names.
    have hlen : (params.map (fun name => (⟨0, name⟩ : Symbol))).length =
        (params'.map (fun name => (⟨0, name⟩ : Symbol))).length := by
      rw [List.length_map, List.length_map, hps.length_eq]
    exact congrArg (fun n => "#<closure/".toList ++ Nat.toDigits 10 n ++ ['>']) hlen
  | _ => rfl

lemma view : Value.view.Respects Value.view (ValuesAlike x y k) where
  number := .number
  bool := .bool
  number? h := by cases h <;> rfl
  bool? h := by cases h <;> rfl
  typeName h := by cases h <;> rfl
  equal h h' := by cases h <;> cases h' <;> rfl

end ValuesAlike

namespace FramesAlike

variable {f f' : Frame}

lemma mono (h : FramesAlike x y k r f f') (hkl : k ≤ l) : FramesAlike x y l r f f' :=
  h.imp fun _ _ hb => ⟨hb.1, hb.2.mono hkl⟩

lemma get? (h : FramesAlike x y k r f f') (ha : NamesAlike x y r a a') :
    Option.Rel (ValuesAlike x y k) (f.get? a) (f'.get? a') := by
  unfold Frame.get?
  induction h with
  | nil => exact .none
  | cons hb _ ih =>
    simp only [List.find?_cons, hb.1.beq_eq ha]
    split
    · exact .some hb.2
    · exact ih

lemma put (h : FramesAlike x y k r f f') (ha : NamesAlike x y r a a') {v v' : Value}
    (hv : ValuesAlike x y k v v') : FramesAlike x y k r (f.put a v) (f'.put a' v') := by
  induction h with
  | nil => exact .cons ⟨ha, hv⟩ .nil
  | @cons b b' _ _ hb hrest ih =>
    obtain ⟨key, u⟩ := b
    obtain ⟨key', u'⟩ := b'
    have hkeys : key = a ↔ key' = a' := hb.1.eq_iff ha
    rw [Frame.put, Frame.put]
    by_cases hkey : key = a
    · rw [if_pos hkey, if_pos (hkeys.1 hkey)]
      exact .cons ⟨hb.1, hv⟩ hrest
    · rw [if_neg hkey, if_neg (fun h => hkey (hkeys.2 h))]
      exact .cons hb ih

end FramesAlike

namespace StoresAlike

variable {st st' : Store}

lemma put (h : StoresAlike x y k st st') {i : Nat} {tag : Tag} (hi : k.HasTag i tag)
    (ha : NamesAlike x y tag.region a a') {v v' : Value} (hv : ValuesAlike x y k v v') :
    StoresAlike x y k (st.put i a v) (st'.put i a' v') where
  size := by simpa using h.size
  size' := by simpa using h.size'
  closures := h.closures
  frames {j tag'} hj := by
    rw [Store.frame_put, Store.frame_put, h.size, h.size']
    split
    · next hij =>
      obtain ⟨rfl, -⟩ := hij
      obtain rfl : tag = tag' := Option.some.inj (hi.symm.trans hj)
      exact (h.frames hi).put ha hv
    · exact h.frames hj

lemma newFrame (h : StoresAlike x y k st st') (tag : Tag) :
    StoresAlike x y (k.push tag) st.newFrame st'.newFrame where
  size := by simp [Layout.push, h.size]
  size' := by simp [Layout.push, h.size']
  closures := h.closures
  frames {i tag'} hi := by
    rw [Store.frame_newFrame, Store.frame_newFrame]
    rcases hi.of_push with hi | ⟨rfl, rfl⟩
    · exact (h.frames hi).mono (k.le_push tag)
    · -- The new frame is empty on both sides.
      rw [Store.frame_of_size_le (Nat.le_of_eq h.size),
        Store.frame_of_size_le (Nat.le_of_eq h.size')]
      exact .nil

lemma defineAll (h : StoresAlike x y k st st') {i : Nat} {tag : Tag} (hi : k.HasTag i tag)
    {names names' : List String} (hns : Forall₂ (NamesAlike x y tag.region) names names')
    {vs vs' : List Value} (hvs : Forall₂ (ValuesAlike x y k) vs vs') :
    StoresAlike x y k (st.defineAll i names vs) (st'.defineAll i names' vs') := by
  induction hns generalizing st st' vs vs' with
  | nil =>
    rw [Store.defineAll, Store.defineAll]
    · exact h
    all_goals simp
  | cons hn _ ih =>
    cases hvs with
    | nil => exact h
    | cons hv hvs => exact ih (h.put hi hn hv) hvs

end StoresAlike

def Found (x y : String) (k : Layout) (a a' : String) (i j : Nat) : Prop :=
  i = j ∧ ∃ tag, k.HasTag i tag ∧ NamesAlike x y tag.region a a'

namespace WorldsAlike

variable {w w' : World}

lemma withStore {st st' : Store} (h : WorldsAlike x y k w w') (hst : StoresAlike x y l st st')
    (hb : ∀ {i}, l.HasTag i .base → st.Binds i x) :
    WorldsAlike x y l { w with store := st } { w' with store := st' } :=
  ⟨hst, hb, h.sink, h.output⟩

lemma put (h : WorldsAlike x y k w w') {i : Nat} {tag : Tag} (hi : k.HasTag i tag)
    (ha : NamesAlike x y tag.region a a') {v v' : Value} (hv : ValuesAlike x y k v v') :
    WorldsAlike x y k { w with store := w.store.put i a v }
      { w' with store := w'.store.put i a' v' } :=
  h.withStore (h.store.put hi ha hv) fun hj => (h.bound hj).put i a v

lemma home (h : WorldsAlike x y k w w') {e : Scope} (he : Chain k r e.chain)
    (ha : NamesAlike x y r a a') :
    Option.Rel (Found x y k a a') (w.store.home? e a) (w'.store.home? e a') := by
  have hframe : ∀ {i tag}, k.HasTag i tag → NamesAlike x y tag.region a a' →
      ((w.store.frame i).get? a).isSome = ((w'.store.frame i).get? a').isSome := by
    intro i tag hi ha
    have hget := (h.store.frames hi).get? ha
    generalize (w.store.frame i).get? a = found at hget
    generalize (w'.store.frame i).get? a' = found' at hget
    cases hget <;> rfl
  unfold Store.home?
  generalize e.chain = is at he
  induction he with
  | nil => exact .none
  | outer hi _ ih =>
    rw [List.find?_cons, List.find?_cons, hframe hi ha]
    split
    · exact .some ⟨rfl, _, hi, ha⟩
    · exact ih ha
  | @base i is hi _ ih =>
    rw [List.find?_cons, List.find?_cons, hframe hi ha]
    split
    · exact .some ⟨rfl, _, hi, ha⟩
    · next hnone =>
      -- The frame binds `x`, so another name was looked for, and it stays as it is.
      refine ih (ha.outside ?_)
      rintro rfl
      have hbound : ((w.store.frame i).get? a).isSome = true := h.bound hi
      rw [hframe hi ha, hnone] at hbound
      cases hbound
  | inner hi _ ih =>
    rw [List.find?_cons, List.find?_cons, hframe hi ha]
    split
    · exact .some ⟨rfl, _, hi, ha⟩
    · exact ih ha

end WorldsAlike

def variantsOf (x y : String) : Correspondence Layout World World where
  states := WorldsAlike x y
  errors err err' := err.kind = err'.kind

open Correspondence

section Operations

variable {e : Scope} {v v' : Value}

lemma lookup_aligned (he : Chain k r e.chain) (ha : NamesAlike x y r a a') :
    (variantsOf x y).Aligned k (ValuesAlike x y) (Run.lookup e a) (Run.lookup e a') := by
  apply aligned_get
  intro l hkl w w' hw
  have hhome := hw.home (he.mono hkl) ha
  rw [Store.lookup?_eq, Store.lookup?_eq]
  generalize w.store.home? e a = found at hhome
  generalize w'.store.home? e a' = found' at hhome
  cases hhome with
  | none => exact aligned_throw rfl
  | @some i _ hfound =>
    obtain ⟨rfl, tag, hi, ha⟩ := hfound
    have hget := (hw.store.frames hi).get? ha
    simp only [Option.bind_some]
    generalize (w.store.frame i).get? a = value at hget
    generalize (w'.store.frame i).get? a' = value' at hget
    cases hget with
    | some hv => exact aligned_pure fun _ hle => hv.mono hle
    | none => exact aligned_throw rfl

lemma isBound_aligned (he : Chain k r e.chain) (ha : NamesAlike x y r a a') :
    (variantsOf x y).Aligned k (fun _ => Eq) (named.isBound e a) (named.isBound e a') := by
  apply aligned_get
  intro l hkl w w' hw
  have hhome := hw.home (he.mono hkl) ha
  refine aligned_pure fun _ _ => ?_
  generalize w.store.home? e a = found at hhome
  generalize w'.store.home? e a' = found' at hhome
  cases hhome <;> rfl

lemma define_aligned (he : Chain k r e.chain) (ha : NamesAlike x y r a a')
    (hv : ValuesAlike x y k v v') :
    (variantsOf x y).Aligned k (fun _ _ _ => True) (Run.define e a v) (Run.define e a' v') := by
  apply aligned_modify
  intro l hkl w w' hw
  obtain ⟨tag, hi, rfl⟩ := (he.mono hkl).head
  exact hw.put hi ha (hv.mono hkl)

lemma assign_aligned (he : Chain k r e.chain) (ha : NamesAlike x y r a a')
    (hv : ValuesAlike x y k v v') :
    (variantsOf x y).Aligned k (fun _ _ _ => True) (Run.assign e a v) (Run.assign e a' v') := by
  apply aligned_get
  intro l hkl w w' hw
  have hhome := hw.home (he.mono hkl) ha
  generalize w.store.home? e a = found at hhome
  generalize w'.store.home? e a' = found' at hhome
  cases hhome with
  | none => exact aligned_throw rfl
  | some hfound =>
    obtain ⟨rfl, tag, hi, ha⟩ := hfound
    apply aligned_modify
    intro m hlm u u' hu
    exact hu.put (hi.mono hlm) ha (hv.mono (hkl.trans hlm))

lemma newClosure_aligned (tag : Tag) {params params' : List String} {body body' : List Value}
    (ho : Opens x k params e tag) (hps : Forall₂ (NamesAlike x y tag.region) params params')
    (hbody : Forall₂ (CodeAlike x y tag.region) body body') :
    (variantsOf x y).Aligned k (ValuesAlike x y) (Run.newClosure params body e)
      (Run.newClosure params' body' e) := by
  intro l hkl w w' hw
  have hst := hw.store
  have hc := hst.closures
  refine ⟨l, le_rfl, .ok ?_ (hw.withStore
    ⟨hst.size, hst.size', congrArg (· + 1) hc, hst.frames⟩ hw.bound)⟩
  rw [← hc]
  exact .closure _ tag (ho.mono hkl) hps (formsAlike_iff.2 hbody)

lemma enter_aligned (tag : Tag) {params params' : List String} {args args' : List Value}
    (ho : Opens x k params e tag) (hps : Forall₂ (NamesAlike x y tag.region) params params')
    (hargs : Forall₂ (ValuesAlike x y k) args args') (hlen : params.length = args.length) :
    (variantsOf x y).Aligned k (fun l e e' => e = e' ∧ Chain l tag.region e.chain)
      (Run.enter e params args) (Run.enter e params' args') := by
  intro l hkl w w' hw
  have hst := hw.store
  have hle := l.le_push tag
  have hdefined := (hst.newFrame tag).defineAll (l.hasTag_push tag) hps
    (hargs.imp fun _ _ hv => hv.mono (hkl.trans hle))
  refine ⟨l.push tag, hle, .ok ⟨?_, ?_⟩ (hw.withStore ?_ ?_)⟩
  · exact congrArg (Scope.mk · e.chain) (hst.size.trans hst.size'.symm)
  · have hchain := (ho.mono hkl).chain
    rwa [← hst.size] at hchain
  · rwa [hst.size, hst.size']
  · intro i hi
    rcases hi.of_push with hi | ⟨rfl, rfl⟩
    · have hold : w.store.newFrame.Binds i x := by
        unfold Store.Binds
        rw [Store.frame_newFrame]
        exact hw.bound hi
      exact hold.defineAll _ params args
    · -- The lambda form itself was called, and `x` is one of its parameters.
      rw [hst.size]
      exact Store.binds_defineAll (by simp [hst.size]) hlen ho.1

lemma write_aligned (text : String) :
    (variantsOf x y).Aligned k (fun _ _ _ => True) (Run.write text) (Run.write text) := by
  intro l _ w w' hw
  have hw' : WorldsAlike x y l { w with output := w.output ++ text }
      { w' with output := w'.output ++ text } :=
    ⟨hw.store, hw.bound, hw.sink, congrArg (· ++ text) hw.output⟩
  refine ⟨l, le_rfl, ?_⟩
  rw [Run.write, Run.write, congrArg Sink.writeFault hw.sink, congrArg Sink.flushFault hw.sink]
  cases w'.sink.writeFault with
  | some fault => exact .error rfl hw
  | none =>
    cases w'.sink.flushFault with
    | some fault => exact .error rfl hw'
    | none => exact .ok trivial hw'

lemma callHost_aligned (p : HostProcedure) {args args' : List Value}
    (h : Forall₂ (ValuesAlike x y k) args args') :
    (variantsOf x y).Aligned k (ValuesAlike x y) (Run.callHost p args) (Run.callHost p args') := by
  unfold Run.callHost
  rw [h.length_eq]
  refine Aligned.bind (r := fun _ _ _ => True) ?_ fun l hkl _ _ _ => ?_
  · cases p.arity.check args'.length with
    | ok _ => exact aligned_pure fun _ _ => trivial
    | error err => exact aligned_throw rfl
  · cases p.code with
    | builtin b =>
      have halike := View.apply_related ValuesAlike.view b h
      dsimp only
      generalize Value.view.apply b args = outcome at halike
      generalize Value.view.apply b args' = outcome' at halike
      cases halike with
      | ok hv => exact aligned_pure fun _ hle => hv.mono (hkl.trans hle)
      | error => exact aligned_throw rfl
    | display =>
      have hmap : args.map Value.displayed = args'.map Value.displayed := by
        induction h with
        | nil => rfl
        | cons hv _ ih =>
          rw [List.map_cons, List.map_cons, ih]
          exact congrArg (String.ofList · :: _) (hv.spell_eq .displayed)
      rw [hmap]
      exact (write_aligned _).bind fun _ _ _ _ _ => aligned_pure fun _ _ => .unspecified
    | external slot => exact aligned_throw rfl

lemma mem_parameters {xs : List Value} {seen names : List String}
    (h : named.parameters seen xs = .ok names) (hx : x ∈ seen ∨ .symbol x ∈ xs) : x ∈ names := by
  induction xs generalizing seen with
  | nil =>
    obtain rfl := Except.ok.inj h
    simpa using hx
  | cons v xs ih =>
    cases v with
    | symbol name =>
      change (if _ then _ else named.parameters (name :: seen) xs) = .ok names at h
      split at h
      · cases h
      · refine ih h ?_
        rcases hx with hx | hx
        · exact .inl (.tail _ hx)
        · rcases List.mem_cons.1 hx with heq | hx
          · exact .inl (Value.symbol.inj heq ▸ .head _)
          · exact .inr hx
    | _ => cases h

end Operations

def variantSimulation (hx : SpecialForm.ofName? x = none) (hy : SpecialForm.ofName? y = none) :
    Simulation named named Layout Region where
  runs := variantsOf x y
  texts _ _ := True
  names := NamesAlike x y
  values := ValuesAlike x y
  code _ := CodeAlike x y
  scopes k r e e' := e = e' ∧ Chain k r e.chain
  errors_refl _ := rfl
  errors_text f hf _ := hf _ _
  errors_within _ h := by simpa [variantsOf] using h
  text_name _ := trivial
  text_value _ := trivial
  text_code _ := trivial
  same_eq h h' := h.beq_eq h'
  special_eq h := h.special_eq hx hy
  values_mono hkl h := h.mono hkl
  code_mono _ h := h
  scopes_mono hkl h := ⟨h.1, h.2.mono hkl⟩
  unspecified _ := .unspecified
  code_shapes h := by
    cases h with
    | symbol hs => exact .symbol hs
    | list hs => exact .list (formsAlike_iff.1 hs)
    | number n => exact .constant trivial trivial (.number n)
    | string text => exact .constant trivial trivial (.string text)
    | bool b => exact .constant trivial trivial (.bool b)
    | @lambda params params' body body' hmem hparams hbody =>
      have hhead : NamesAlike x y .inside SpecialForm.lambda.name SpecialForm.lambda.name := by
        refine ⟨?_, (if_neg ?_).symm⟩
        · rintro rfl
          cases hy
        · rintro rfl
          cases hx
      refine .lambda ⟨⟨rfl, rfl⟩, ⟨_, _, rfl, rfl, rfl⟩, .inside, ?_, ?_⟩
      · exact .cons (.symbol hhead) (.cons (.list hparams) (formsAlike_iff.1 hbody))
      · rintro e e' _ _ ps _ _ names names' ⟨rfl, he⟩ ⟨⟩ ⟨⟩ hnames hns hforms
        exact newClosure_aligned .base ⟨mem_parameters hnames (.inr hmem), he⟩ hns hforms
  value_shapes h := by
    cases h with
    | bool b => exact .bool b
    | host p => exact .host p
    | closure i tag ho hps hbody =>
      exact .closure ⟨hps.length_eq, fun hargs hlen =>
        ⟨tag.region, formsAlike_iff.1 hbody, enter_aligned tag ho hps hargs hlen⟩⟩
    | _ => exact .inert trivial trivial
  lookup := by
    rintro k r e _ a a' ⟨rfl, he⟩ ha
    exact lookup_aligned he ha
  isBound := by
    rintro k r e _ a a' ⟨rfl, he⟩ ha
    exact isBound_aligned he ha
  define := by
    rintro k r e _ a a' v v' ⟨rfl, he⟩ ha hv
    exact define_aligned he ha hv
  assign := by
    rintro k r e _ a a' v v' ⟨rfl, he⟩ ha hv
    exact assign_aligned he ha hv
  newClosure := by
    rintro k r e _ _ params params' body body' ⟨rfl, he⟩ _ _ hps hbody
    cases r with
    | outside => exact newClosure_aligned .outer he hps hbody
    | inside => exact newClosure_aligned .inner he hps hbody
  callHost p := callHost_aligned p

end Variants

end SmallScheme.Named
