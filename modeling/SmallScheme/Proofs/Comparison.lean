import SmallScheme.Proofs.Equality
import SmallScheme.Proofs.FailingCall
import SmallScheme.Proofs.HostLookup

namespace SmallScheme

namespace Number

open Float.Model (UnpackedFloat)

def place : UnpackedFloat → Int ×ₗ Int ×ₗ Int
  | .notANumber | .zero _ => toLex (0, toLex (0, 0))
  | .infinity .negative => toLex (-2, toLex (0, 0))
  | .infinity .positive => toLex (2, toLex (0, 0))
  | .finite .negative m e _ => toLex (-1, toLex (-e, -m))
  | .finite .positive m e _ => toLex (1, toLex (e, m))

lemma compare_finite (i e e' m m' : Int) :
    compare (toLex (i, toLex (e, m))) (toLex (i, toLex (e', m'))) =
      (compare e e').then (compare m m') := by
  change (compare i i).then ((compare e e').then (compare m m')) = _
  rw [compare_eq_iff_eq.2 rfl, Ordering.eq_then]

lemma compare_neg (a b : Int) : compare (-a) (-b) = (compare a b).swap := by
  rw [Int.compare_swap, ← cmp_eq_compare, ← cmp_eq_compare]
  exact StrictAnti.cmp_map_eq (fun _ _ h => neg_lt_neg h) a b

lemma compare_cast (a b : Nat) : compare (a : Int) (b : Int) = compare a b := by
  rw [← cmp_eq_compare, ← cmp_eq_compare]
  exact Nat.strictMono_cast.cmp_map_eq a b

lemma compare_of_numbers {a b : UnpackedFloat} (ha : a.isNaN = false) (hb : b.isNaN = false) :
    a.compare b = some (compare (place a) (place b)) := by
  cases a with
  | notANumber => cases ha
  | infinity s =>
    cases b with
    | notANumber => cases hb
    | infinity t => cases s <;> cases t <;> rfl
    | zero t => cases s <;> rfl
    | finite t m e hm => cases s <;> cases t <;> rfl
  | zero s =>
    cases b with
    | notANumber => cases hb
    | infinity t => cases t <;> rfl
    | zero t => rfl
    | finite t m e hm => cases t <;> rfl
  | finite s m e hm =>
    cases b with
    | notANumber => cases hb
    | infinity t => cases s <;> cases t <;> rfl
    | zero t => cases s <;> rfl
    | finite t m' e' hm' =>
      cases s <;> cases t
      case negative.negative =>
        rw [place, place, compare_finite, compare_neg, compare_neg, compare_cast,
          ← Ordering.swap_then]
        rfl
      case positive.positive =>
        rw [place, place, compare_finite, compare_cast]
        rfl
      all_goals rfl

lemma compare_eq {a b : UnpackedFloat} :
    a.compare b = if a.isNaN = false ∧ b.isNaN = false then some (compare (place a) (place b))
      else none := by
  split_ifs with h
  · exact compare_of_numbers h.1 h.2
  · cases a with
    | notANumber => rfl
    | _ =>
      cases b with
      | notANumber => simp [UnpackedFloat.compare]
      | _ => exact absurd ⟨rfl, rfl⟩ h

variable {x y z : Float}

lemma lt_iff : x < y ↔ (x.isNaN = false ∧ y.isNaN = false) ∧
    place x.toModel.unpack < place y.toModel.unpack := by
  apply decide_eq_true_iff.trans
  change (x.toModel.unpack.compare y.toModel.unpack == some .lt) = true ↔ _
  rw [compare_eq, isNaN_eq, isNaN_eq]
  split_ifs with h <;> simp [h, compare_lt_iff_lt]

lemma le_iff : x ≤ y ↔ (x.isNaN = false ∧ y.isNaN = false) ∧
    place x.toModel.unpack ≤ place y.toModel.unpack := by
  apply decide_eq_true_iff.trans
  change (x.toModel.unpack.compare y.toModel.unpack).any (·.isLE) = true ↔ _
  rw [compare_eq, isNaN_eq, isNaN_eq]
  split_ifs with h <;> simp [h, compare_le_iff_le, Ordering.isLE_iff_ne_gt]

lemma lt_trans (h : x < y) (h' : y < z) : x < z := by
  rw [lt_iff] at h h' ⊢
  exact ⟨⟨h.1.1, h'.1.2⟩, h.2.trans h'.2⟩

lemma le_trans (h : x ≤ y) (h' : y ≤ z) : x ≤ z := by
  rw [le_iff] at h h' ⊢
  exact ⟨⟨h.1.1, h'.1.2⟩, h.2.trans h'.2⟩

end Number

inductive Compares : String → (Float → Float → Prop) → Prop
  | less : Compares "<" (· < ·)
  | greater : Compares ">" (· > ·)
  | atMost : Compares "<=" (· ≤ ·)
  | atLeast : Compares ">=" (· ≥ ·)

namespace Compares

variable {name : String} {r : Float → Float → Prop}

lemma trans (h : Compares name r) {x y z : Float} (hxy : r x y) (hyz : r y z) : r x z := by
  cases h with
  | less => exact Number.lt_trans hxy hyz
  | greater => exact Number.lt_trans hyz hxy
  | atMost => exact Number.le_trans hxy hyz
  | atLeast => exact Number.le_trans hyz hxy

lemma isNaN_eq_false (h : Compares name r) {x y : Float} (hxy : r x y) :
    x.isNaN = false ∧ y.isNaN = false := by
  cases h with
  | less => exact (Number.lt_iff.1 hxy).1
  | greater => exact (Number.lt_iff.1 hxy).1.symm
  | atMost => exact (Number.le_iff.1 hxy).1
  | atLeast => exact (Number.le_iff.1 hxy).1.symm

lemma numbers_of_pairwise (h : Compares name r) {xs : List Float} (hlength : 2 ≤ xs.length)
    (hxs : xs.Pairwise r) {x : Float} (hx : x ∈ xs) : x.isNaN = false := by
  match xs with
  | [] | [_] => simp at hlength
  | y :: z :: rest =>
    have hfirst := (List.pairwise_cons.1 hxs).1
    rcases List.mem_cons.1 hx with rfl | hx
    · exact (h.isNaN_eq_false (hfirst z List.mem_cons_self)).1
    · exact (h.isNaN_eq_false (hfirst x hx)).2

lemma builtin (h : Compares name r) : ∃ b : Builtin, b.name = name ∧ b.arity = .atLeast 2 ∧
    ∃ c : Float → Float → Bool, (∀ x y, c x y = true ↔ r x y) ∧
      ∀ args, b.apply args = Builtin.compare name c args := by
  cases h with
  | less => exact ⟨.less, rfl, rfl, _, fun _ _ => decide_eq_true_iff, fun _ => rfl⟩
  | greater => exact ⟨.greater, rfl, rfl, _, fun _ _ => decide_eq_true_iff, fun _ => rfl⟩
  | atMost => exact ⟨.atMost, rfl, rfl, _, fun _ _ => decide_eq_true_iff, fun _ => rfl⟩
  | atLeast => exact ⟨.atLeast, rfl, rfl, _, fun _ _ => decide_eq_true_iff, fun _ => rfl⟩

end Compares

namespace Builtin

lemma numbers_map (name : String) (xs : List Float) :
    numbers name (xs.map .number) = .ok xs := by
  induction xs with
  | nil => rfl
  | cons x xs ih =>
    rw [List.map_cons, numbers, ih]
    rfl

lemma numbers_of_find? {name : String} {args : List Value} {v : Value}
    (h : args.find? (·.number?.isNone) = some v) :
    numbers name args = .error (.wrongType (.notNumber name v.typeName) []) := by
  induction args with
  | nil => cases h
  | cons u us ih =>
    rw [numbers]
    cases hu : u.number? with
    | none =>
      simp only [List.find?_cons, hu, Option.isNone_none, Option.some.injEq] at h
      rw [h]
    | some x =>
      simp only [List.find?_cons, hu, Option.isNone_some] at h
      rw [ih h]
      rfl

lemma callHost_procedure {b : Builtin} {args : List Value} {w : World}
    (h : b.arity.Admits args.length) :
    Eval.callHost b.procedure args w = Run.ofExcept (b.apply args)
      { w with events := w.events.push (.hostCall b.name args.length) } := by
  have hbroken : b.procedure.arity.broken? args.length = none :=
    (Arity.broken?_eq_none_iff _ _).2 h
  have hcheck : b.procedure.arity.check args.length = .ok () := by
    rw [Arity.check, hbroken]
  rw [Eval.callHost, hcheck]
  rfl

end Builtin

/-- A comparison called with fewer than two arguments fails by their number, whatever they are; with
more, by the first that is no number, however the ones before it compare. Of numbers it tells
whether the relation holds between every one and every later one. -/
theorem comparison_orders_all_pairs {name : String} {r : Float → Float → Prop}
    (h : Compares name r) (sink : Sink) :
    ∃ procedure, (Session.start sink).lookup name = .ok procedure ∧ ∀ body args w,
      let w' : World := { w with events := w.events.push (.hostCall name args.length) }
      (args.length < 2 →
        Eval.call body procedure args w = .error (.arity 2 args.length none) w') ∧
      (2 ≤ args.length → ∀ v, args.find? (·.number?.isNone) = some v →
        Eval.call body procedure args w =
          .error (.wrongType (.notNumber name v.typeName) []) w') ∧
      (2 ≤ args.length → ∀ xs : List Float, args = xs.map .number →
        ∃ holds, Eval.call body procedure args w = .ok (.bool holds) w' ∧
          (holds = true ↔ xs.Pairwise r) ∧ ((∃ x ∈ xs, x.isNaN = true) → holds = false)) := by
  obtain ⟨b, rfl, harity, c, hc, happly⟩ := h.builtin
  refine ⟨.host b.procedure, Session.lookup_builtin sink b, fun body args w => ⟨?_, ?_, ?_⟩⟩
  · intro hlength
    apply Eval.callHost_of_broken
    rw [show b.procedure.arity = .atLeast 2 from harity]
    exact if_pos hlength
  · intro hlength v hv
    have hadmits : b.arity.Admits args.length := harity ▸ hlength
    rw [Eval.call, Builtin.callHost_procedure hadmits, happly, Builtin.compare,
      Builtin.numbers_of_find? hv]
    rfl
  · rintro hlength xs rfl
    have hadmits : b.arity.Admits (xs.map Value.number).length := harity ▸ hlength
    have hpairs : Builtin.chained c xs = true ↔ xs.Pairwise r := by
      have : IsTrans Float r := ⟨fun _ _ _ => h.trans⟩
      rw [Builtin.chained_iff_isChain, ← List.isChain_iff_pairwise]
      simp only [hc]
    refine ⟨Builtin.chained c xs, ?_, hpairs, ?_⟩
    · rw [Eval.call, Builtin.callHost_procedure hadmits, happly, Builtin.compare,
        Builtin.numbers_map]
      rfl
    · rintro ⟨x, hx, hnan⟩
      rw [List.length_map] at hlength
      rw [← Bool.not_eq_true, hpairs]
      intro hxs
      exact Bool.false_ne_true ((h.numbers_of_pairwise hlength hxs hx).symm.trans hnan)

theorem comparison_orders_all_pairs_mixed :
    ∃ procedure w w', (Session.start .collecting).lookup "<=" = .ok procedure ∧
      Eval.call (Eval.eval 254) procedure [.number 2, .number 1, .bool true]
        (.start .collecting) = .error (.wrongType (.notNumber "<=" "boolean") []) w ∧
      Eval.call (Eval.eval 254) procedure [.bool true] (.start .collecting) =
        .error (.arity 2 1 none) w' := by
  obtain ⟨procedure, hlookup, hcall⟩ := comparison_orders_all_pairs .atMost .collecting
  obtain ⟨-, hmixed, -⟩ := hcall (Eval.eval 254) [.number 2, .number 1, .bool true]
    (.start .collecting)
  obtain ⟨hfew, -⟩ := hcall (Eval.eval 254) [.bool true] (.start .collecting)
  exact ⟨procedure, _, _, hlookup, hmixed (by decide) (.bool true) rfl, hfew (by decide)⟩

end SmallScheme
