import SmallScheme.Proofs.Reachability
import SmallScheme.Proofs.Run

namespace SmallScheme

namespace Frame

variable {s t : Symbol}

lemma get?_same (f : Frame) (h : s.same t = true) : f.get? s = f.get? t := by
  have hindex : s.index = t.index := by simpa [Symbol.same] using h
  simp only [get?, Symbol.same, hindex]

lemma binds_same (f : Frame) (h : s.same t = true) : f.binds s = f.binds t := by
  rw [binds, binds, f.get?_same h]

lemma get?_of_not_binds {f : Frame} (h : f.binds s = false) : f.get? s = none := by
  simpa [binds] using h

lemma binds_put {f : Frame} (h : f.binds s = true) (v : Value) :
    (f.put s v).binds t = f.binds t := by
  rw [binds, get?_put]
  split
  · next hst => rw [← f.binds_same hst, h, Option.isSome_some]
  · rfl

end Frame

namespace Store

variable {st : Store} {e : Scope} {s t : Symbol} {v : Value} {i k : Nat} {chain : List Nat}

inductive Exposed (st : Store) (s : Symbol) (i : Nat) : List Nat → Prop
  | here {outer : List Nat} : Exposed st s i (i :: outer)
  | outside {j : Nat} {outer : List Nat} :
      (st.frame j).binds s = false → Exposed st s i outer → Exposed st s i (j :: outer)

def Nearest (st : Store) (e : Scope) (s : Symbol) (i : Nat) : Prop :=
  st.Exposed s i e.chain ∧ (st.frame i).binds s = true

lemma find?_eq_some_iff_exposed :
    chain.find? (fun j => (st.frame j).binds s) = some i ↔
      st.Exposed s i chain ∧ (st.frame i).binds s = true := by
  induction chain with
  | nil =>
    constructor
    · simp
    · rintro ⟨h, -⟩
      cases h
  | cons j outer ih =>
    rw [List.find?_cons]
    cases hj : (st.frame j).binds s with
    | true =>
      constructor
      · intro h
        obtain rfl : j = i := Option.some.inj h
        exact ⟨.here, hj⟩
      · rintro ⟨h, -⟩
        cases h with
        | here => rfl
        | outside hb _ => simp [hj] at hb
    | false =>
      rw [ih]
      constructor
      · rintro ⟨h, hi⟩
        exact ⟨.outside hj h, hi⟩
      · rintro ⟨h, hi⟩
        cases h with
        | here => simp [hj] at hi
        | outside _ h => exact ⟨h, hi⟩

lemma home?_eq_some_iff_nearest : st.home? e s = some i ↔ st.Nearest e s i :=
  find?_eq_some_iff_exposed

lemma isBound_eq_true_iff :
    st.isBound e s = true ↔ ∃ i ∈ e.chain, (st.frame i).binds s = true := by
  rw [isBound, home?, List.find?_isSome]

lemma isBound_eq_false_iff :
    st.isBound e s = false ↔ ∀ i ∈ e.chain, (st.frame i).binds s = false := by
  rw [← Bool.not_eq_true, isBound_eq_true_iff]
  simp

lemma exists_nearest (h : st.isBound e s = true) : ∃ i, st.Nearest e s i := by
  obtain ⟨i, hi⟩ := Option.isSome_iff_exists.1 h
  exact ⟨i, home?_eq_some_iff_nearest.1 hi⟩

lemma isBound_eq_isSome_lookup? : st.isBound e s = (st.lookup? e s).isSome := by
  rw [Bool.eq_iff_iff, isBound_eq_true_iff, lookup?, List.findSome?_isSome_iff]
  rfl

lemma lt_size_of_binds (h : (st.frame i).binds s = true) : i < st.frames.size := by
  by_contra hi
  have hempty : st.frame i = .empty := by
    simp [frame, Array.getD_eq_getD_getElem?, Array.getElem?_eq_none (Nat.le_of_not_lt hi)]
  rw [hempty] at h
  cases h

lemma get?_frame_put (hk : k < st.frames.size) (j : Nat) :
    ((st.put k s v).frame j).get? t =
      if k = j ∧ s.same t = true then some v else (st.frame j).get? t := by
  rw [frame_put]
  by_cases hj : k = j
  · subst hj
    simp [hk, Frame.get?_put]
  · simp [hj]

lemma findSome?_put_of_exposed (hk : k < st.frames.size) (hst : s.same t = true)
    (h : st.Exposed s k chain) :
    chain.findSome? (fun j => ((st.put k s v).frame j).get? t) = some v := by
  induction h with
  | here => rw [List.findSome?_cons, get?_frame_put hk, if_pos ⟨rfl, hst⟩]
  | @outside j outer hj _ ih =>
    have hget : (st.frame j).get? t = none := by
      rw [← Frame.get?_same _ hst, Frame.get?_of_not_binds hj]
    rw [List.findSome?_cons, get?_frame_put hk, hget]
    by_cases hkj : k = j
    · rw [if_pos ⟨hkj, hst⟩]
    · rw [if_neg fun h => hkj h.1, ih]

lemma findSome?_put_of_not_exposed (hk : k < st.frames.size)
    (h : ¬ (s.same t = true ∧ st.Exposed s k chain)) :
    chain.findSome? (fun j => ((st.put k s v).frame j).get? t) =
      chain.findSome? fun j => (st.frame j).get? t := by
  induction chain with
  | nil => rfl
  | cons j outer ih =>
    have hj : ¬ (k = j ∧ s.same t = true) := by
      rintro ⟨rfl, hst⟩
      exact h ⟨hst, .here⟩
    rw [List.findSome?_cons, List.findSome?_cons, get?_frame_put hk, if_neg hj]
    cases hget : (st.frame j).get? t with
    | some u => rfl
    | none =>
      apply ih
      rintro ⟨hst, hexposed⟩
      have hbinds : (st.frame j).binds s = false := by
        rw [Frame.binds_same _ hst, Frame.binds, hget, Option.isSome_none]
      exact h ⟨hst, .outside hbinds hexposed⟩

structure Shows (st st' : Store) (v : Value) (seen : Scope → Symbol → Prop) : Prop where
  inside {e : Scope} {s : Symbol} : seen e s → st'.lookup? e s = some v
  outside {e : Scope} {s : Symbol} : ¬ seen e s → st'.lookup? e s = st.lookup? e s

lemma shows_put (hk : k < st.frames.size) (s : Symbol) (v : Value) :
    st.Shows (st.put k s v) v fun e t => s.same t = true ∧ st.Exposed s k e.chain where
  inside h := findSome?_put_of_exposed hk h.1 h.2
  outside h := findSome?_put_of_not_exposed hk h

lemma shows_put_of_binds (h : (st.frame k).binds s = true) (v : Value) :
    st.Shows (st.put k s v) v fun e t => s.same t = true ∧ st.Nearest e s k := by
  have hput := shows_put (lt_size_of_binds h) s v
  refine ⟨fun hseen => hput.inside ⟨hseen.1, hseen.2.1⟩, fun hseen => hput.outside ?_⟩
  rintro ⟨hst, hexposed⟩
  exact hseen ⟨hst, hexposed, h⟩

lemma binds_frame_put (h : (st.frame k).binds s = true) (v : Value) (j : Nat) :
    ((st.put k s v).frame j).binds t = (st.frame j).binds t := by
  rw [frame_put]
  split
  · next hj =>
    rw [← hj.1]
    exact Frame.binds_put h v
  · rfl

end Store

namespace Run

variable {w : World} {e : Scope} {s : Symbol}

lemma lookup_unbound_iff :
    lookup e s w = .error (.unbound s.name) w ↔ w.store.isBound e s = false := by
  rw [Store.isBound_eq_isSome_lookup?, lookup, get_bind_apply]
  cases w.store.lookup? e s with
  | none => exact ⟨fun _ => rfl, fun _ => rfl⟩
  | some v =>
    constructor
    all_goals
      intro h
      cases h

lemma assign_unbound (h : w.store.isBound e s = false) (v : Value) :
    assign e s v w = .error (.unbound s.name) w := by
  have hhome : w.store.home? e s = none := by simpa [Store.isBound] using h
  rw [assign, get_bind_apply, hhome]
  rfl

lemma assign_nearest {i : Nat} (h : w.store.Nearest e s i) (v : Value) :
    assign e s v w = .ok () { w with store := w.store.put i s v } :=
  assign_ok_iff.2 ⟨i, Store.home?_eq_some_iff_nearest.2 h, rfl⟩

lemma assign_unbound_iff {v : Value} :
    assign e s v w = .error (.unbound s.name) w ↔ w.store.isBound e s = false := by
  constructor
  · intro h
    by_contra hb
    obtain ⟨i, hi⟩ := Store.exists_nearest (by simpa using hb)
    rw [assign_nearest hi] at h
    cases h
  · intro h
    exact assign_unbound h v

end Run

theorem define_assign_seen (w : World) (e : Scope) (s : Symbol) (v : Value) :
    (e.frame < w.store.frames.size → ∃ w', Run.define e s v w = .ok () w' ∧
      w.store.Shows w'.store v fun e' s' =>
        s.same s' = true ∧ w.store.Exposed s e.frame e'.chain) ∧
    (Run.assign e s v w = .error (.unbound s.name) w ↔ w.store.isBound e s = false) ∧
    (Run.lookup e s w = .error (.unbound s.name) w ↔ w.store.isBound e s = false) ∧
    (w.store.isBound e s = true → ∃ i w', w.store.Nearest e s i ∧
      Run.assign e s v w = .ok () w' ∧
      (w.store.Shows w'.store v fun e' s' => s.same s' = true ∧ w.store.Nearest e' s i) ∧
      ∀ e' s', w'.store.bindsLocally e' s' = w.store.bindsLocally e' s') := by
  refine ⟨fun he => ⟨_, rfl, Store.shows_put he s v⟩, Run.assign_unbound_iff,
    Run.lookup_unbound_iff, fun hbound => ?_⟩
  obtain ⟨i, hi⟩ := Store.exists_nearest hbound
  refine ⟨i, _, hi, Run.assign_nearest hi v, Store.shows_put_of_binds hi.2 v, fun e' s' => ?_⟩
  exact Store.binds_frame_put hi.2 v e'.frame

namespace World

def branching : World :=
  -- Frame 0 binds `x`. Frames 1 and 3 are inside it and bind nothing; frame 2 is inside frame 1
  -- and binds `x` again.
  { World.start .collecting with
    store := ⟨#[⟨[(⟨4, "x"⟩, .string "outer")]⟩, .empty, ⟨[(⟨4, "x"⟩, .string "inner")]⟩,
      .empty], 0⟩ }

end World

open World in
theorem define_assign_seen_branching :
    (∃ w', Run.define ⟨1, [0]⟩ ⟨4, "x"⟩ (.bool true) branching = .ok () w' ∧
      w'.store.lookup? ⟨1, [0]⟩ ⟨4, "x"⟩ = some (.bool true) ∧
      w'.store.lookup? ⟨2, [1, 0]⟩ ⟨4, "x"⟩ = some (.string "inner") ∧
      w'.store.lookup? ⟨3, [0]⟩ ⟨4, "x"⟩ = some (.string "outer")) ∧
    (∃ w', Run.assign ⟨1, [0]⟩ ⟨4, "x"⟩ (.bool true) branching = .ok () w' ∧
      w'.store.lookup? ⟨3, [0]⟩ ⟨4, "x"⟩ = some (.bool true) ∧
      w'.store.lookup? ⟨2, [1, 0]⟩ ⟨4, "x"⟩ = some (.string "inner") ∧
      w'.store.bindsLocally ⟨1, [0]⟩ ⟨4, "x"⟩ = false) ∧
    Run.assign ⟨1, [0]⟩ ⟨5, "y"⟩ (.bool true) branching = .error (.unbound "y") branching := by
  obtain ⟨hdefine, -, -, hassign⟩ :=
    define_assign_seen branching ⟨1, [0]⟩ ⟨4, "x"⟩ (.bool true)
  obtain ⟨-, hunbound, -, -⟩ := define_assign_seen branching ⟨1, [0]⟩ ⟨5, "y"⟩ (.bool true)
  have hinner : ∀ i, i ≠ 2 → ¬ branching.store.Exposed ⟨4, "x"⟩ i [2, 1, 0] := by
    intro i hi h
    cases h with
    | here => exact hi rfl
    | outside hb _ => cases hb
  have houter : ¬ branching.store.Exposed ⟨4, "x"⟩ 1 [3, 0] := by
    intro h
    cases h with
    | outside _ h =>
      cases h with
      | outside hb _ => cases hb
  have hnear : branching.store.Nearest ⟨3, [0]⟩ ⟨4, "x"⟩ 0 := ⟨.outside rfl .here, rfl⟩
  refine ⟨?_, ?_, hunbound.2 rfl⟩
  · obtain ⟨w', hrun, hshows⟩ := hdefine (by decide)
    exact ⟨w', hrun, hshows.inside ⟨rfl, .here⟩,
      hshows.outside fun h => hinner 1 (by decide) h.2, hshows.outside fun h => houter h.2⟩
  · obtain ⟨i, w', hi, hrun, hshows, hlocal⟩ := hassign rfl
    obtain rfl : 0 = i := Option.some.inj (Store.home?_eq_some_iff_nearest.2 hi)
    exact ⟨w', hrun, hshows.inside ⟨rfl, hnear⟩,
      hshows.outside fun h => hinner 0 (by decide) h.2.1, hlocal _ _⟩

end SmallScheme
