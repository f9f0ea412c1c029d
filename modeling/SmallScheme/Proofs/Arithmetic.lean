import SmallScheme.Proofs.Comparison

namespace SmallScheme

namespace Builtin

variable {op : Float → Float → Float} {alone : Float → Float} {empty : Option Float}

lemma combine_numbers (op : Float → Float → Float) (x y : Float) :
    combine op (.number x) (.number y) = .number (op x y) := rfl

lemma combine_of_total {total : Value} (h : total.number? = none) (v : Value) :
    combine op total v = total := by
  simp only [combine, h]

lemma combine_of_other {v : Value} (h : v.number? = none) (total : Value) :
    combine op total v = total := by
  rw [combine, h]
  cases total.number? <;> rfl

lemma foldl_combine_of_total {total : Value} (h : total.number? = none) (vs : List Value) :
    vs.foldl (combine op) total = total := by
  induction vs with
  | nil => rfl
  | cons v vs ih => rw [List.foldl_cons, combine_of_total h, ih]

lemma foldl_combine_number (op : Float → Float → Float) (x : Float) (vs : List Value) :
    vs.foldl (combine op) (.number x) = .number ((vs.filterMap Value.number?).foldl op x) := by
  induction vs generalizing x with
  | nil => rfl
  | cons v vs ih =>
    cases hv : v.number? with
    | none => rw [List.foldl_cons, combine_of_other hv, ih, List.filterMap_cons_none hv]
    | some y =>
      obtain rfl : v = .number y := by
        cases v <;> cases hv
        rfl
      rw [List.foldl_cons, combine_numbers, ih, List.filterMap_cons_some hv, List.foldl_cons]

structure Folds (b : Builtin) (op : Float → Float → Float) (alone : Float → Float)
    (empty : Option Float) : Prop where
  arity : b.arity = .atLeast (if empty.isSome then 0 else 1)
  nothing : b.apply [] = empty.elim (.error (.arity 1 0 none)) fun x => .ok (.number x)
  single (v : Value) : b.apply [v] = .ok (v.number?.elim v fun x => .number (alone x))
  several (v u : Value) (us : List Value) :
    b.apply (v :: u :: us) = .ok ((u :: us).foldl (combine op) v)
  unchanged : empty.isSome = true → alone = id

namespace Folds

variable {b : Builtin}

lemma ofFold {x : Float} (harity : b.arity = .atLeast 0)
    (happly : ∀ args, b.apply args = .ok ((fold? op args).getD (.number x))) :
    b.Folds op id (some x) where
  arity := harity
  nothing := happly []
  single v := by
    rw [happly]
    cases v <;> rfl
  several v u us := happly (v :: u :: us)
  unchanged _ := rfl

lemma ofReduce (harity : b.arity = .atLeast 1)
    (happly : ∀ args, b.apply args = reduce op alone args) : b.Folds op alone none where
  arity := harity
  nothing := happly []
  single v := by
    rw [happly]
    cases v <;> rfl
  several v u us := by
    rw [happly]
    simp [reduce, fold?]
  unchanged hempty := by cases hempty

lemma apply_of_other (h : b.Folds op alone empty) {v : Value} (hv : v.number? = none)
    (vs : List Value) : b.apply (v :: vs) = .ok v := by
  cases vs with
  | nil => rw [h.single, hv, Option.elim_none]
  | cons u us => rw [h.several, foldl_combine_of_total hv]

lemma apply_number (h : b.Folds op alone empty) (x : Float) :
    b.apply [.number x] = .ok (.number (alone x)) :=
  h.single (.number x)

lemma apply_numbers (h : b.Folds op alone empty) (x : Float) {vs : List Value}
    (hvs : empty.isSome = true ∨ vs ≠ []) :
    b.apply (.number x :: vs) = .ok (.number ((vs.filterMap Value.number?).foldl op x)) := by
  cases vs with
  | nil =>
    rw [h.apply_number, h.unchanged (hvs.resolve_right (not_not_intro rfl))]
    rfl
  | cons u us => rw [h.several, foldl_combine_number]

lemma exists_ok (h : b.Folds op alone empty) (v : Value) (vs : List Value) :
    ∃ u, b.apply (v :: vs) = .ok u := by
  cases vs with
  | nil => exact ⟨_, h.single v⟩
  | cons u us => exact ⟨_, h.several v u us⟩

lemma admits_cons (h : b.Folds op alone empty) (v : Value) (vs : List Value) :
    b.arity.Admits (v :: vs).length := by
  rw [h.arity, Arity.Admits, List.length_cons]
  split <;> omega

lemma admits_nil_iff (h : b.Folds op alone empty) :
    b.arity.Admits 0 ↔ empty.isSome = true := by
  rw [h.arity, Arity.Admits]
  split <;> simp_all

lemma not_admits_of_error (h : b.Folds op alone empty) {args : List Value} {err : Error}
    (herr : b.apply args = .error err) : ¬ b.arity.Admits args.length := by
  cases args with
  | nil =>
    rw [List.length_nil, h.admits_nil_iff]
    intro hempty
    obtain ⟨x, rfl⟩ := Option.isSome_iff_exists.1 hempty
    cases h.nothing.symm.trans herr
  | cons v vs =>
    obtain ⟨u, hu⟩ := h.exists_ok v vs
    cases hu.symm.trans herr

lemma call_eq (h : b.Folds op alone empty) (body : Evaluator) (args : List Value) (w : World) :
    Eval.call body (.host b.procedure) args w = Run.ofExcept (b.apply args)
      { w with events := w.events.push (.hostCall b.name args.length) } := by
  -- Whether the arguments are counted before or by the computation makes no difference.
  by_cases hadmits : b.arity.Admits args.length
  · exact callHost_procedure hadmits
  · obtain rfl : args = [] := by
      cases args with
      | nil => rfl
      | cons v vs => exact absurd (h.admits_cons v vs) hadmits
    obtain rfl : empty = none := by
      rw [List.length_nil, h.admits_nil_iff] at hadmits
      simpa using hadmits
    have harity : b.procedure.arity = .atLeast 1 := h.arity
    have hbroken : b.procedure.arity.broken? 0 = some 1 := by
      rw [harity]
      rfl
    rw [h.nothing]
    exact Eval.callHost_of_broken hbroken

end Folds

end Builtin

inductive Computes : String → (Float → Float → Float) → (Float → Float) → Option Float → Prop
  | add : Computes "+" (· + ·) id (some 0)
  | mul : Computes "*" (· * ·) id (some 1)
  | sub : Computes "-" (· - ·) (- ·) none
  | div : Computes "/" (· / ·) (1 / ·) none

namespace Computes

variable {name : String} {op : Float → Float → Float} {alone : Float → Float}
  {empty : Option Float}

lemma builtin (h : Computes name op alone empty) :
    ∃ b : Builtin, b.name = name ∧ b.Folds op alone empty := by
  cases h with
  | add => exact ⟨.add, rfl, .ofFold rfl fun _ => rfl⟩
  | mul => exact ⟨.mul, rfl, .ofFold rfl fun _ => rfl⟩
  | sub => exact ⟨.sub, rfl, .ofReduce rfl fun _ => rfl⟩
  | div => exact ⟨.div, rfl, .ofReduce rfl fun _ => rfl⟩

end Computes

/-- An arithmetic procedure fails only for want of arguments. A first argument that is no number
is the answer; one that is a number is combined with the numbers after it, from left to right,
so that whatever else stands there makes no difference. -/
theorem arithmetic_folds_numbers {name : String} {op : Float → Float → Float}
    {alone : Float → Float} {empty : Option Float} (h : Computes name op alone empty)
    (sink : Sink) :
    ∃ b : Builtin, (Session.start sink).lookup name = .ok (.host b.procedure) ∧
      (∀ body args w,
        let w' : World := { w with events := w.events.push (.hostCall name args.length) }
        let answer := Eval.call body (.host b.procedure) args w
        (∀ x, args = [] → empty = some x → answer = .ok (.number x) w') ∧
        (args = [] → empty = none → answer = .error (.arity 1 0 none) w') ∧
        (∀ x, args = [.number x] → answer = .ok (.number (alone x)) w') ∧
        (∀ v vs, args = v :: vs → v.number? = none → answer = .ok v w') ∧
        (∀ x vs, args = .number x :: vs → vs ≠ [] →
          answer = .ok (.number ((vs.filterMap Value.number?).foldl op x)) w') ∧
        ∀ err w₁, answer = .error err w₁ → args = [] ∧ empty = none) ∧
      (∀ x vs us, vs.filterMap Value.number? = us.filterMap Value.number? →
        empty.isSome = true ∨ (vs ≠ [] ∧ us ≠ []) → ∀ body w, ∃ v w₁ w₂,
          Eval.call body (.host b.procedure) (.number x :: vs) w = .ok v w₁ ∧
          Eval.call body (.host b.procedure) (.number x :: us) w = .ok v w₂) ∧
      ∀ args err, b.apply args = .error err → ¬ b.arity.Admits args.length := by
  obtain ⟨b, rfl, hb⟩ := h.builtin
  refine ⟨b, Session.lookup_builtin sink b, fun body args w => ?_, ?_,
    fun args err => hb.not_admits_of_error⟩
  · intro w' answer
    have hanswer : answer = Run.ofExcept (b.apply args) w' := hb.call_eq body args w
    rw [hanswer]
    refine ⟨?_, ?_, ?_, ?_, ?_, ?_⟩
    · rintro x rfl rfl
      rw [hb.nothing]
      rfl
    · rintro rfl rfl
      rw [hb.nothing]
      rfl
    · rintro x rfl
      rw [hb.apply_number]
      rfl
    · rintro v vs rfl hv
      rw [hb.apply_of_other hv]
      rfl
    · rintro x vs rfl hvs
      rw [hb.apply_numbers x (.inr hvs)]
      rfl
    · intro err w₁ herr
      cases args with
      | nil =>
        refine ⟨rfl, ?_⟩
        rw [hb.nothing] at herr
        cases empty with
        | none => rfl
        | some x => cases herr
      | cons v vs =>
        obtain ⟨u, hu⟩ := hb.exists_ok v vs
        rw [hu] at herr
        cases herr
  · intro x vs us hnumbers hlengths body w
    have hvs := hb.apply_numbers x (hlengths.imp_right And.left)
    have hus := hb.apply_numbers x (hlengths.imp_right And.right)
    rw [hb.call_eq, hb.call_eq, hvs, hus, hnumbers]
    exact ⟨_, _, _, rfl, rfl⟩

theorem arithmetic_folds_numbers_mixed :
    ∃ b : Builtin, (Session.start .collecting).lookup "-" = .ok (.host b.procedure) ∧
      (∃ w w', Eval.call (Eval.eval 254) (.host b.procedure) [.number 5, .number 2]
          (.start .collecting) = .ok (.number (5 - 2)) w ∧
        Eval.call (Eval.eval 254) (.host b.procedure)
          [.number 5, .string "a", .number 2, .list []] (.start .collecting) =
            .ok (.number (5 - 2)) w') ∧
      ∃ w, Eval.call (Eval.eval 254) (.host b.procedure) [.bool true, .number 5, .number 2]
        (.start .collecting) = .ok (.bool true) w := by
  obtain ⟨b, hlookup, hanswer, hinsert, -⟩ := arithmetic_folds_numbers .sub .collecting
  obtain ⟨-, -, -, -, hnumbers, -⟩ :=
    hanswer (Eval.eval 254) [.number 5, .number 2] (.start .collecting)
  obtain ⟨-, -, -, hother, -⟩ :=
    hanswer (Eval.eval 254) [.bool true, .number 5, .number 2] (.start .collecting)
  obtain ⟨v, w, w', h, h'⟩ := hinsert 5 [.number 2] [.string "a", .number 2, .list []] rfl
    (.inr ⟨by simp, by simp⟩) (Eval.eval 254) (.start .collecting)
  cases (hnumbers 5 [.number 2] rfl (by simp)).symm.trans h
  exact ⟨b, hlookup, ⟨_, _, h, h'⟩, _, hother (.bool true) [.number 5, .number 2] rfl rfl⟩

end SmallScheme
