import SmallScheme.Proofs.DepthLimit
import SmallScheme.Proofs.ReadValue
import SmallScheme.Proofs.RenamedRun
import SmallScheme.Session

/-! Evaluation writes and reads only what it can reach. Both follow from renaming: a store is
compared with itself, or with another, on the reachable frames alone. -/

namespace SmallScheme

open Correspondence Store

lemma StoresMatch.start {R : Renaming} {st st' : Store}
    (hb : ∀ {i j}, R.frame i j → ∀ s,
      Option.Rel (Renamed R) ((st.frame i).get? s) ((st'.frame j).get? s))
    (hf : InStep R.frame st.frames.size st'.frames.size)
    (hi : InStep R.identity st.closures st'.closures) :
    StoresMatch ⟨R, st, st'⟩ R st st' where
  bindings := hb
  frames_inStep := hf
  identities_inStep := hi
  frames_since _ _ h := .inl h
  identities_since _ _ h := .inl h
  untouched _ := rfl
  left_le := ⟨Nat.le_refl _, Nat.le_refl _⟩
  right_le := ⟨Nat.le_refl _, Nat.le_refl _⟩

lemma StoresMatch.domain {o : Origin} {R : Renaming} {st st' : Store}
    (h : StoresMatch o R st st') {roots : List Nat} (hroots : ∀ i ∈ roots, ∃ j, R.frame i j)
    {i : Nat} (hi : st.Reaches roots i) : ∃ j, R.frame i j := by
  apply hi.closed hroots
  rintro i s v ⟨j, hf⟩ hv
  have hb := h.bindings hf s
  rw [hv] at hb
  generalize (st'.frame j).get? s = found at hb
  cases hb with
  | some hr => exact hr.domain

lemma Correspondence.Outcomes.after {o : Origin} {R : Renaming} {m m' : Run Value}
    {w w' : World} (h : (renamingOf o).Outcomes R Renamed (m w) (m' w')) :
    WorldsMatch o R (m.after w) (m'.after w') := by
  unfold Run.after
  generalize m w = result at h
  generalize m' w' = result' at h
  cases h with
  | ok _ hw => exact hw
  | error _ hw => exact hw

/-! ### Writing -/

def Store.here (st : Store) (roots : List Nat) : Renaming :=
  Renaming.refl.on (st.Reaches roots)

lemma inStep_eq (n : Nat) : InStep Eq n n := by
  rintro i _ rfl
  rcases Nat.lt_or_ge i n with h | h
  · exact .inl ⟨h, h⟩
  · exact .inr ⟨i - n, by omega, by omega⟩

lemma storesMatch_here (st : Store) (roots : List Nat) :
    StoresMatch ⟨st.here roots, st, st⟩ (st.here roots) st st := by
  refine .start ?_ (fun i j h => inStep_eq _ i j h.1) (inStep_eq _)
  rintro i _ ⟨rfl, hi⟩ s
  cases hv : (st.frame i).get? s with
  | none => exact .none
  | some v => exact .some ((renamed_refl v).on fun j hj => .bound hi hv hj)

lemma eval_here (room : Nat) (x : Value) (e : Scope) {w : World} (hw : w.externals = #[]) :
    ∃ R, w.store.here (e.chain ++ x.frames) ≤ R ∧
      (renamingOf ⟨w.store.here (e.chain ++ x.frames), w.store, w.store⟩).Outcomes R Renamed
        (Eval.eval room x e w) (Eval.eval room x e w) := by
  have hx : Renamed (w.store.here (e.chain ++ x.frames)) x x :=
    (renamed_refl x).on fun i hi => .root (List.mem_append_right _ hi)
  have he : (w.store.here (e.chain ++ x.frames)).Scopes e e :=
    (Renaming.scopes_refl e).on fun i hi => .root (List.mem_append_left _ hi)
  have hhosts : HostsMatch (w.store.here (e.chain ++ x.frames)) w.externals w.externals := by
    intro slot
    rw [hw]
    exact .none
  exact eval_aligned _ room hx he _ le_rfl w w
    ⟨storesMatch_here w.store _, rfl, rfl, rfl, hhosts⟩

def Store.Made (st st' : Store) (i : Nat) : Prop :=
  st.frames.size ≤ i ∧ i < st'.frames.size

lemma StoresMatch.reaches_here {st st₁ st₂ : Store} {roots : List Nat} {R : Renaming}
    (h : StoresMatch ⟨st.here roots, st, st⟩ R st₁ st₂) {starts : List Nat}
    (hs : ∀ i ∈ starts, ∃ j, R.frame i j) {i : Nat} (hi : st₁.Reaches starts i) :
    st.Reaches roots i ∨ st.Made st₁ i := by
  obtain ⟨j, hf⟩ := h.domain hs hi
  rcases h.frames_since i j hf with ⟨-, hr⟩ | ⟨hmade, -⟩
  · exact .inl hr
  · exact .inr hmade

lemma eval_unchanged (room : Nat) (x : Value) (e : Scope) {w : World} (hw : w.externals = #[])
    {i : Nat} (hi : i < w.store.frames.size) (hr : ¬ w.store.Reaches (e.chain ++ x.frames) i) :
    (Run.after (Eval.eval room x e) w).store.frame i = w.store.frame i := by
  obtain ⟨R, -, ho⟩ := eval_here room x e hw
  have hst := ho.after.stores
  apply hst.untouched
  intro j hf
  rcases hst.frames_since i j hf with ⟨-, h⟩ | ⟨⟨h, -⟩, -⟩
  · exact hr h
  · exact Nat.not_lt.2 h hi

lemma eval_reaches_of_reached (room : Nat) (x : Value) (e : Scope) {w : World}
    (hw : w.externals = #[]) {i j : Nat} (hi : w.store.Reaches (e.chain ++ x.frames) i)
    (hj : (Run.after (Eval.eval room x e) w).store.Reaches [i] j) :
    w.store.Reaches (e.chain ++ x.frames) j ∨
      w.store.Made (Run.after (Eval.eval room x e) w).store j := by
  obtain ⟨R, hle, ho⟩ := eval_here room x e hw
  refine ho.after.stores.reaches_here ?_ hj
  simp only [List.mem_singleton, forall_eq]
  exact ⟨i, hle.1 i i ⟨rfl, hi⟩⟩

lemma eval_reaches_of_result {room : Nat} {x : Value} {e : Scope} {w w' : World} {v : Value}
    (hw : w.externals = #[]) (hv : Eval.eval room x e w = .ok v w') {j : Nat}
    (hj : w'.store.Reaches v.frames j) :
    w.store.Reaches (e.chain ++ x.frames) j ∨ w.store.Made w'.store j := by
  obtain ⟨R, -, ho⟩ := eval_here room x e hw
  rw [hv] at ho
  cases ho with
  | ok hr hst => exact hst.stores.reaches_here hr.domain hj

namespace Value

mutual

lemma frames_of_isText {v : Value} (h : v.IsText) : v.frames = [] := by
  cases v with
  | list vs => exact framesAll_of_isText h
  | closure => exact h.elim
  | _ => rfl

lemma framesAll_of_isText {vs : List Value} (h : IsTextAll vs) : framesAll vs = [] := by
  cases vs with
  | nil => rfl
  | cons v vs => rw [framesAll, frames_of_isText h.1, framesAll_of_isText h.2, List.nil_append]

end

end Value

namespace Session

def after {α : Type} (m : Action α) (s : Session) : Session :=
  match m s with
  | .ok _ s' => s'
  | .error _ s' => s'

lemma evaluateText_apply (text : String) (e : Scope) (s : Session) :
    evaluateText text e s =
      match Reader.read s.comments text s.symbols with
      | (.ok (some x), symbols) => perform (evaluate x e) { s with symbols }
      | (.ok none, symbols) => .ok .unspecified { s with symbols }
      | (.error err, symbols) => .error (.read err) { s with symbols } := by
  change EStateM.bind (read text) _ s = _
  simp only [EStateM.bind, read, reading]
  rcases Reader.read s.comments text s.symbols with ⟨_ | _ | x, symbols⟩ <;> rfl

lemma after_evaluateText (text : String) (e : Scope) (s : Session) :
    (after (evaluateText text e) s).world = s.world ∨
      ∃ x symbols, Reader.read s.comments text s.symbols = (.ok (some x), symbols) ∧
        (after (evaluateText text e) s).world = Run.after (evaluate x e) s.world := by
  unfold after
  rw [evaluateText_apply]
  cases hread : Reader.read s.comments text s.symbols with
  | mk outcome symbols =>
    rcases outcome with err | _ | x
    · exact .inl rfl
    · exact .inl rfl
    · refine .inr ⟨x, symbols, rfl, ?_⟩
      simp only [perform, Run.after]
      cases evaluate x e s.world <;> rfl

end Session

/-- Whatever comes of an evaluation, it changes no frame out of reach and brings no frame into
reach but those it makes; so a text changes only what the scope it is evaluated in reaches. -/
theorem evaluate_writes_reachable (x : Value) (e : Scope) {w : World} (hw : w.externals = #[]) :
    (∀ i < w.store.frames.size, ¬ w.store.Reaches (e.chain ++ x.frames) i →
      (Run.after (evaluate x e) w).store.frame i = w.store.frame i) ∧
    (∀ i, w.store.Reaches (e.chain ++ x.frames) i → ∀ j,
      (Run.after (evaluate x e) w).store.Reaches [i] j →
        w.store.Reaches (e.chain ++ x.frames) j ∨
          w.store.Made (Run.after (evaluate x e) w).store j) ∧
    (∀ v w', evaluate x e w = .ok v w' → ∀ j, w'.store.Reaches v.frames j →
      w.store.Reaches (e.chain ++ x.frames) j ∨ w.store.Made w'.store j) ∧
    ∀ (s : Session) (text : String), s.world = w → ∀ i < w.store.frames.size,
      ¬ w.store.Reaches e.chain i →
        (s.after (Session.evaluateText text e)).world.store.frame i = w.store.frame i := by
  refine ⟨fun i hi hr => eval_unchanged _ x e hw hi hr,
    fun i hi j hj => eval_reaches_of_reached _ x e hw hi hj,
    fun v w' hv j hj => eval_reaches_of_result hw hv hj, ?_⟩
  rintro s text rfl i hi hr
  rcases s.after_evaluateText text e with h | ⟨x, symbols, hread, h⟩
  · rw [h]
  · rw [h]
    refine eval_unchanged _ x e hw hi ?_
    rw [Value.frames_of_isText (Reader.isText_of_read hread), List.append_nil]
    exact hr

def siblings : World :=
  { World.start .collecting with
    store := ⟨#[⟨[(⟨4, "f"⟩, .closure 0 [] [.bool true] ⟨0, []⟩)]⟩, .empty,
      ⟨[(⟨5, "kept"⟩, .bool false)]⟩], 1⟩ }

def defineLocal : Value :=
  -- `(define local (f))`
  .list [.symbol ⟨1, "define"⟩, .symbol ⟨6, "local"⟩, .list [.symbol ⟨4, "f"⟩]]

theorem evaluate_writes_reachable_siblings :
    siblings.externals = #[] ∧ ¬ siblings.store.Reaches ([1, 0] ++ defineLocal.frames) 2 ∧
      (Run.after (evaluate defineLocal ⟨1, [0]⟩) siblings).store.frame 1 =
        ⟨[(⟨6, "local"⟩, .bool true)]⟩ ∧
      (Run.after (evaluate defineLocal ⟨1, [0]⟩) siblings).store.frame 2 =
        ⟨[(⟨5, "kept"⟩, .bool false)]⟩ := by
  have hout : ¬ siblings.store.Reaches ([1, 0] ++ defineLocal.frames) 2 := by
    intro h
    have hlt : 2 < 2 := by
      refine h.closed (P := fun i => i < 2) (by decide) ?_
      intro i s v hi hv j hj
      match i, hi with
      | 0, _ =>
        obtain ⟨b, hb, rfl⟩ := Option.map_eq_some_iff.1 hv
        obtain rfl := List.mem_singleton.1 (List.mem_of_find?_eq_some hb)
        obtain rfl := List.mem_singleton.1 hj
        decide
      | 1, _ => cases hv
    exact absurd hlt (by decide)
  exact ⟨rfl, hout, rfl,
    (evaluate_writes_reachable defineLocal ⟨1, [0]⟩ (w := siblings) rfl).1 2 (by decide) hout⟩

/-! ### Reading -/

/-- The worlds hold the same, up to a renaming, as far as the roots reach. -/
structure Agree (R : Renaming) (w w' : World) (roots : List Nat) : Prop where
  frames_exist {i j : Nat} : R.frame i j → i < w.store.frames.size ∧ j < w'.store.frames.size
  closures_exist {i j : Nat} : R.identity i j → i < w.store.closures ∧ j < w'.store.closures
  bindings {i j : Nat} : R.frame i j → w.store.Reaches roots i → ∀ s,
    Option.Rel (Renamed R) ((w.store.frame i).get? s) ((w'.store.frame j).get? s)
  sink : w.sink = w'.sink
  output : w.output = w'.output
  calls : w.externals.map External.calls = w'.externals.map External.calls

inductive AlikeUpTo (R : Renaming) (roots : List Nat) :
    EStateM.Result Error World Value → EStateM.Result Error World Value → Prop
  | ok {v v' : Value} {w w' : World} :
      Renamed R v v' → Agree R w w' (roots ++ v.frames) → AlikeUpTo R roots (.ok v w) (.ok v' w')
  | error {err : Error} {w w' : World} :
      Agree R w w' roots → AlikeUpTo R roots (.error err w) (.error err w')

structure Renaming.ExtendsPast (S R : Renaming) (st st' : Store) : Prop where
  le : R ≤ S
  frames {i j : Nat} : S.frame i j → R.frame i j ∨ st.frames.size ≤ i ∧ st'.frames.size ≤ j
  identities {i j : Nat} : S.identity i j → R.identity i j ∨ st.closures ≤ i ∧ st'.closures ≤ j

lemma union_iff {r s : Nat → Nat → Prop} {n n' : Nat}
    (hr : ∀ {i i' j j'}, r i i' → r j j' → (i = j ↔ i' = j'))
    (hs : ∀ {i i' j j'}, s i i' → s j j' → (i = j ↔ i' = j'))
    (hold : ∀ {i j}, r i j → i < n ∧ j < n')
    (hnew : ∀ {i j}, s i j → r i j ∨ n ≤ i ∧ n' ≤ j) {i i' j j' : Nat}
    (hi : r i i' ∨ s i i') (hj : r j j' ∨ s j j') : i = j ↔ i' = j' := by
  have key : ∀ {i i' j j'}, r i i' → s j j' → (i = j ↔ i' = j') := by
    intro i i' j j' hi hj
    rcases hnew hj with hj | hj
    · exact hr hi hj
    · have := hold hi
      omega
  rcases hi with hi | hi <;> rcases hj with hj | hj
  · exact hr hi hj
  · exact key hi hj
  · exact eq_comm.trans ((key hj hi).trans eq_comm)
  · exact hs hi hj

namespace Agree

variable {R S : Renaming} {w w' u u' : World} {roots : List Nat}

def origin (_ : Agree R w w' roots) : Origin :=
  ⟨R.on (w.store.Reaches roots), w.store, w'.store⟩

lemma worldsMatch (h : Agree R w w' roots)
    (hhosts : HostsMatch (R.on (w.store.Reaches roots)) w.externals w'.externals) :
    WorldsMatch h.origin (R.on (w.store.Reaches roots)) w w' where
  stores := by
    refine .start ?_ (fun _ _ hf => .inl (h.frames_exist hf.1))
      (fun _ _ hi => .inl (h.closures_exist hi))
    rintro i j ⟨hf, hi⟩ s
    have hb := h.bindings hf hi s
    generalize hv : (w.store.frame i).get? s = found at hb
    generalize (w'.store.frame j).get? s = found' at hb
    cases hb with
    | some hr => exact .some (hr.on fun k hk => .bound hi hv hk)
    | none => exact .none
  sink := h.sink
  output := h.output
  calls := h.calls
  hosts := hhosts

lemma frames_new (h : Agree R w w' roots) (hw : WorldsMatch h.origin S u u') {i j : Nat}
    (hf : S.frame i j) :
    R.frame i j ∨ w.store.frames.size ≤ i ∧ w'.store.frames.size ≤ j := by
  rcases hw.stores.frames_since i j hf with ⟨hf, -⟩ | ⟨⟨hi, -⟩, hj, -⟩
  · exact .inl hf
  · exact .inr ⟨hi, hj⟩

lemma identities_new (h : Agree R w w' roots) (hw : WorldsMatch h.origin S u u') {i j : Nat}
    (hf : S.identity i j) : R.identity i j ∨ w.store.closures ≤ i ∧ w'.store.closures ≤ j := by
  rcases hw.stores.identities_since i j hf with hf | ⟨⟨hi, -⟩, hj, -⟩
  · exact .inl hf
  · exact .inr ⟨hi, hj⟩

def join (h : Agree R w w' roots) (hw : WorldsMatch h.origin S u u') : Renaming where
  frame i j := R.frame i j ∨ S.frame i j
  identity i j := R.identity i j ∨ S.identity i j
  frame_iff := union_iff R.frame_iff S.frame_iff h.frames_exist (h.frames_new hw)
  identity_iff := union_iff R.identity_iff S.identity_iff h.closures_exist (h.identities_new hw)

lemma le_join (h : Agree R w w' roots) (hw : WorldsMatch h.origin S u u') : S ≤ h.join hw :=
  ⟨fun _ _ => .inr, fun _ _ => .inr⟩

lemma join_extendsPast (h : Agree R w w' roots) (hw : WorldsMatch h.origin S u u') :
    (h.join hw).ExtendsPast R w.store w'.store where
  le := ⟨fun _ _ => .inl, fun _ _ => .inl⟩
  frames hf := hf.elim .inl (h.frames_new hw)
  identities hi := hi.elim .inl (h.identities_new hw)

lemma agree_join (h : Agree R w w' roots) (hw : WorldsMatch h.origin S u u')
    {starts : List Nat} (hs : ∀ i ∈ starts, ∃ j, S.frame i j) :
    Agree (h.join hw) u u' starts where
  frames_exist {i j} hf := by
    have hleft := hw.stores.left_le.1
    have hright := hw.stores.right_le.1
    have hold : R.frame i j → i < u.store.frames.size ∧ j < u'.store.frames.size := fun hf =>
      ⟨Nat.lt_of_lt_of_le (h.frames_exist hf).1 hleft,
        Nat.lt_of_lt_of_le (h.frames_exist hf).2 hright⟩
    rcases hf with hf | hf
    · exact hold hf
    · rcases hw.stores.frames_since i j hf with hf | ⟨hi, hj⟩
      · exact hold hf.1
      · exact ⟨hi.2, hj.2⟩
  closures_exist {i j} hf := by
    have hleft := hw.stores.left_le.2
    have hright := hw.stores.right_le.2
    have hold : R.identity i j → i < u.store.closures ∧ j < u'.store.closures := fun hf =>
      ⟨Nat.lt_of_lt_of_le (h.closures_exist hf).1 hleft,
        Nat.lt_of_lt_of_le (h.closures_exist hf).2 hright⟩
    rcases hf with hf | hf
    · exact hold hf
    · rcases hw.stores.identities_since i j hf with hf | ⟨hi, hj⟩
      · exact hold hf
      · exact ⟨hi.2, hj.2⟩
  bindings {i j} hf hi s := by
    -- A frame in reach was matched by the runs, and the joined renaming has no other partner.
    obtain ⟨k, hk⟩ := hw.stores.domain hs hi
    obtain rfl : j = k := ((h.join hw).frame_iff hf (.inr hk)).1 rfl
    exact rel_mono (fun _ _ hr => hr.mono (h.le_join hw)) (hw.stores.bindings hk s)
  sink := hw.sink
  output := hw.output
  calls := hw.calls

lemma alikeUpTo (h : Agree R w w' roots)
    (hhosts : HostsMatch (R.on (w.store.Reaches roots)) w.externals w'.externals)
    (hroots : ∀ i ∈ roots, ∃ j, R.frame i j) {m m' : Run Value}
    (hm : (renamingOf h.origin).Aligned (R.on (w.store.Reaches roots)) Renamed m m') :
    ∃ T : Renaming, T.ExtendsPast R w.store w'.store ∧ AlikeUpTo T roots (m w) (m' w') := by
  obtain ⟨S, hle, ho⟩ := hm _ le_rfl w w' (h.worldsMatch hhosts)
  have hrootsS : ∀ i ∈ roots, ∃ j, S.frame i j := by
    intro i hi
    obtain ⟨j, hf⟩ := hroots i hi
    exact ⟨j, hle.1 i j ⟨hf, .root hi⟩⟩
  generalize m w = result at ho
  generalize m' w' = result' at ho
  cases ho with
  | ok hv hu =>
    refine ⟨h.join hu, h.join_extendsPast hu, .ok (hv.mono (h.le_join hu)) (h.agree_join hu ?_)⟩
    intro i hi
    rcases List.mem_append.1 hi with hi | hi
    · exact hrootsS i hi
    · exact hv.domain i hi
  | error he hu =>
    cases he
    exact ⟨h.join hu, h.join_extendsPast hu, .error (h.agree_join hu hrootsS)⟩

end Agree

mutual

lemma Renamed.of_isText (R : Renaming) {v : Value} (h : v.IsText) : Renamed R v v := by
  cases v with
  | list vs => exact .list (.of_isText R h)
  | closure => exact h.elim
  | _ => constructor

lemma RenamedAll.of_isText (R : Renaming) {vs : List Value} (h : Value.IsTextAll vs) :
    RenamedAll R vs vs := by
  cases vs with
  | nil => exact .nil
  | cons v vs => exact .cons (.of_isText R h.1) (.of_isText R h.2)

end

lemma Frame.rel_get? {R : Renaming} {bs bs' : List (Symbol × Value)}
    (h : List.Forall₂ (fun b b' => b.1 = b'.1 ∧ Renamed R b.2 b'.2) bs bs') (s : Symbol) :
    Option.Rel (Renamed R) ((Frame.mk bs).get? s) ((Frame.mk bs').get? s) := by
  unfold Frame.get?
  induction h with
  | nil => exact .none
  | @cons b b' _ _ hb _ ih =>
    rw [List.find?_cons, List.find?_cons, ← hb.1]
    cases b.1.same s with
    | true => exact .some hb.2
    | false => exact ih

def rebinder (n i : Nat) : Value :=
  -- `(lambda () (set! x (lambda (y) x)))`, made in the frame `i` as the closure `n`.
  .closure n [] [.list [.symbol ⟨3, "set!"⟩, .symbol ⟨4, "x"⟩,
    .list [.symbol ⟨0, "lambda"⟩, .list [.symbol ⟨5, "y"⟩], .symbol ⟨4, "x"⟩]]] ⟨i, []⟩

def hostF : Value :=
  .host ⟨"f", .atLeast 0, .external 0⟩

def inFirst : World :=
  -- A frame that binds `x` to a closure in it, alone in its store. The host kept the closure, and
  -- `f` returns it.
  { World.start .collecting with
    store := ⟨#[⟨[(⟨4, "x"⟩, rebinder 0 0), (⟨6, "f"⟩, hostF)]⟩], 1⟩
    externals := #[⟨0, .constant (rebinder 0 0)⟩] }

def inSecond : World :=
  { World.start .collecting with
    store := ⟨#[⟨[(⟨5, "y"⟩, .bool true)]⟩, ⟨[(⟨4, "x"⟩, rebinder 2 1), (⟨6, "f"⟩, hostF)]⟩], 3⟩
    externals := #[⟨0, .constant (rebinder 2 1)⟩] }

def firstToSecond : Renaming where
  frame i j := i = 0 ∧ j = 1
  identity i j := i = 0 ∧ j = 2
  frame_iff := by omega
  identity_iff := by omega

def callKept : Value :=
  -- The call `((f))`.
  .list [.list [.symbol ⟨6, "f"⟩]]

lemma rebinder_renamed : Renamed firstToSecond (rebinder 0 0) (rebinder 2 1) :=
  .closure ⟨rfl, rfl⟩ (.of_isText _ (by simp [Value.IsTextAll, Value.IsText]))
    (.cons ⟨rfl, rfl⟩ .nil)

def twins : World :=
  -- Two scopes of the global frame bind `x`, each to a closure of its own. The host kept the first
  -- closure, and `f` returns it.
  { World.start .collecting with
    store := ⟨#[⟨[(⟨5, "="⟩, .host ⟨"=", .atLeast 2, .builtin .equal⟩), (⟨6, "f"⟩, hostF)]⟩,
      ⟨[(⟨4, "x"⟩, .closure 0 [] [.bool true] ⟨1, [0]⟩)]⟩,
      ⟨[(⟨4, "x"⟩, .closure 1 [] [.bool true] ⟨2, [0]⟩)]⟩], 2⟩
    externals := #[⟨0, .constant (.closure 0 [] [.bool true] ⟨1, [0]⟩)⟩] }

def twinToTwin : Renaming where
  frame i j := i = 0 ∧ j = 0 ∨ i = 1 ∧ j = 2
  identity i j := i = 0 ∧ j = 1
  frame_iff := by omega
  identity_iff := by omega

def comparesKept : Value :=
  -- The call `(= (f) x)`.
  .list [.symbol ⟨5, "="⟩, .list [.symbol ⟨6, "f"⟩], .symbol ⟨4, "x"⟩]

end SmallScheme
