import SmallScheme.Proofs.Application
import SmallScheme.Proofs.FormShape

/-! Where an evaluation fails. The forms that are being evaluated when an error is raised are the
ones it tells of, and an error that does not tell of any comes out as it was raised. -/

namespace SmallScheme

open Semantics

namespace World

def entered (w : World) (captured : Scope) (params : List Symbol) (args : List Value) : World :=
  { w with
    events := w.events.push (.closureCall params.length)
    store := (w.store.newChild captured).2.defineAll (w.store.newChild captured).1 params args }

end World

namespace Eval

inductive ComesTo (room : Nat) (e : Scope) (w : World) :
    List Value → Nat → Value → Scope → World → Prop
  | define {head x : Value} {s : Symbol} : IsSpecial head .define →
      ComesTo room e w [head, .symbol s, x] room x e w
  | assign {head x : Value} {s : Symbol} : IsSpecial head .assignment →
      w.store.isBound e s = true → ComesTo room e w [head, .symbol s, x] room x e w
  | test {head test first : Value} (second : Option Value) : IsSpecial head .conditional →
      ComesTo room e w (head :: test :: first :: second.toList) room test e w
  | first {head test first : Value} {second : Option Value} {w₁ : World} :
      IsSpecial head .conditional → eval room test e w = .ok (.bool true) w₁ →
      ComesTo room e w (head :: test :: first :: second.toList) room first e w₁
  | second {head test first second v : Value} {w₁ : World} : IsSpecial head .conditional →
      eval room test e w = .ok v w₁ → v ≠ .bool true →
      ComesTo room e w [head, test, first, second] room second e w₁
  | head {head : Value} {args : List Value} : IsOrdinary head →
      ComesTo room e w (head :: args) room head e w
  | operand {head p x : Value} (before after : List Value) {vs : List Value} {w₁ w₂ : World} :
      IsOrdinary head → eval room head e w = .ok p w₁ →
      p.TakesOperands (before ++ x :: after).length → InOrder (eval room) e w₁ before vs w₂ →
      ComesTo room e w (head :: (before ++ x :: after)) room x e w₂
  | body {head x : Value} {identity : Nat} {params : List Symbol} (before after : List Value)
      {args vs us : List Value} {captured : Scope} {w₁ w₂ w₃ : World} : IsOrdinary head →
      eval room head e w = .ok (.closure identity params (before ++ x :: after) captured) w₁ →
      params.length = args.length → InOrder (eval room) e w₁ args vs w₂ →
      InOrder (eval (room - 1)) (w₂.store.newChild captured).1 (w₂.entered captured params vs)
        before us w₃ →
      ComesTo room e w (head :: args) (room - 1) x (w₂.store.newChild captured).1 w₃

inductive Raises (room : Nat) (e : Scope) (w : World) : List Value → Error → World → Prop
  | empty : Raises room e w [] (.evaluation .emptyForm []) w
  | misshapen {head : Value} {s : SpecialForm} {args : List Value} {err : Error} :
      IsSpecial head s → Misshapen head s args err → Raises room e w (head :: args) err w
  | unbound {head x : Value} {s : Symbol} : IsSpecial head .assignment →
      w.store.isBound e s = false → Raises room e w [head, .symbol s, x] (.unbound s.name) w
  | count {head : Value} {identity : Nat} {params : List Symbol} {body args : List Value}
      {captured : Scope} {w₁ : World} : IsOrdinary head →
      eval room head e w = .ok (.closure identity params body captured) w₁ →
      params.length ≠ args.length → Raises room e w (head :: args)
        (.arity params.length args.length (some (formText (head :: args)))) w₁
  | notProcedure {head v : Value} {args : List Value} {w₁ : World} : IsOrdinary head →
      eval room head e w = .ok v w₁ → v.isProcedure = false → args ≠ [] →
      Raises room e w (head :: args) (.notApplicable v.written) w₁
  | host {head : Value} {p : HostProcedure} {args vs : List Value} {err : Error}
      {w₁ w₂ w₃ : World} : IsOrdinary head → eval room head e w = .ok (.host p) w₁ →
      InOrder (eval room) e w₁ args vs w₂ → callHost p vs w₂ = .error err w₃ →
      Raises room e w (head :: args) err w₃

inductive Fails : Nat → Scope → World → Value → List (List Value) → Error → World → Prop
  | tooDeep {e : Scope} {w : World} {x : Value} : Fails 0 e w x [] tooDeep w
  | unbound {room : Nat} {e : Scope} {w : World} {s : Symbol} : w.store.lookup? e s = none →
      Fails (room + 1) e w (.symbol s) [] (.unbound s.name) w
  | raised {room : Nat} {e : Scope} {w w' : World} {form : List Value} {err : Error} :
      Raises room e w form err w' → Fails (room + 1) e w (.list form) [form] err w'
  | passed {room left : Nat} {e e' : Scope} {w w₁ w' : World} {form : List Value} {x : Value}
      {active : List (List Value)} {err : Error} : ComesTo room e w form left x e' w₁ →
      Fails left e' w₁ x active err w' →
      Fails (room + 1) e w (.list form) (active ++ [form]) err w'

variable {inner body : Evaluator} {room : Nat} {e : Scope} {w w' : World} {head : Value}
  {args form : List Value} {err : Error}

lemma evalForm_special {s : SpecialForm} (hs : IsSpecial head s) :
    evalForm inner body (head :: args) e = special s inner (head :: args) e := by
  have hs : SpecialForm.ofHead? head = some s := hs
  simp only [evalForm, hs]

lemma evalForm_ordinary (hs : IsOrdinary head) :
    evalForm inner body (head :: args) e =
      inner head e >>= fun p => evalCall inner body p (head :: args) args e := by
  have hs : SpecialForm.ofHead? head = none := hs
  simp only [evalForm, hs]

lemma callClosure_apply (params : List Symbol) (forms : List Value) (captured : Scope)
    (vs : List Value) :
    callClosure body params forms captured vs w =
      sequence body (w.store.newChild captured).1 .unspecified forms
        (w.entered captured params vs) := rfl

/-! ### From the failing point outwards -/

lemma InOrder.sequence_stop {before us : List Value} {w₁ : World}
    (h : InOrder inner e w before us w₁) {x : Value} (hx : inner x e w₁ = .error err w')
    (last : Value) (after : List Value) :
    sequence inner e last (before ++ x :: after) w = .error err w' := by
  induction h generalizing last with
  | nil => exact Run.bind_of_error hx _
  | @cons w w₁ w₂ y v ys vs hy _ ih =>
    rw [List.cons_append, sequence, Run.bind_of_ok hy]
    exact ih hx v

lemma evalForm_conditional {test first : Value} (second : Option Value)
    (hs : IsSpecial head .conditional) :
    evalForm inner body (head :: test :: first :: second.toList) e =
      branch inner test first second e := by
  rw [evalForm_special hs]
  cases second <;> rfl

lemma branch_of_true {test first : Value} {second : Option Value} {w₁ : World}
    (h : inner test e w = .ok (.bool true) w₁) :
    branch inner test first second e w = inner first e w₁ := by
  rw [branch.eq_def, Run.bind_of_ok h]

lemma branch_of_other {test first v : Value} {second : Option Value} {w₁ : World}
    (h : inner test e w = .ok v w₁) (hv : v ≠ .bool true) :
    branch inner test first second e w =
      (second.elim (pure .unspecified) fun y => inner y e : Run Value) w₁ := by
  rw [branch.eq_def, Run.bind_of_ok h]
  split
  · exact absurd rfl hv
  · cases second <;> rfl

lemma ComesTo.evalForm_fails {left : Nat} {x : Value} {e' : Scope} {w₁ : World}
    (h : ComesTo room e w form left x e' w₁) (hx : eval left x e' w₁ = .error err w') :
    evalForm (eval room) (eval (room - 1)) form e w = .error err w' := by
  cases h with
  | define hs =>
    rw [evalForm_special hs]
    exact Run.bind_of_error hx _
  | @assign head _ _ hs hbound =>
    rw [evalForm_special hs]
    exact evalAssignment_of_error head hbound hx
  | test _ hs =>
    rw [evalForm_conditional _ hs]
    exact Run.bind_of_error hx _
  | first hs htest =>
    rw [evalForm_conditional _ hs, branch_of_true htest]
    exact hx
  | @second head test first second v _ hs htest hv =>
    have hform : evalForm (eval room) (eval (room - 1)) [head, test, first, x] e =
        branch (eval room) test first (some x) e := evalForm_conditional (some x) hs
    rw [hform, branch_of_other htest hv]
    exact hx
  | head hs =>
    rw [evalForm_ordinary hs]
    exact Run.bind_of_error hx _
  | operand _ _ hs hhead htakes hbefore =>
    rw [evalForm_ordinary hs, Run.bind_of_ok hhead, evalCall_of_takes htakes]
    exact Run.bind_of_error (hbefore.operands_stop hx _) _
  | @body head x identity params before after args vs us captured w₁ w₂ w₃ hs hhead hcount hargs
      hbefore =>
    have htakes : (Value.closure identity params (before ++ x :: after) captured).TakesOperands
        args.length := hcount
    rw [evalForm_ordinary hs, Run.bind_of_ok hhead, evalCall_of_takes htakes,
      Run.bind_of_ok hargs.operands, call, callClosure_apply]
    exact hbefore.sequence_stop hx _ _

lemma Raises.evalForm_fails (h : Raises room e w form err w') :
    evalForm (eval room) (eval (room - 1)) form e w = .error err w' := by
  cases h with
  | empty => rfl
  | misshapen hs hshape =>
    rw [evalForm_special hs]
    exact hshape.special_eq (eval room) e w
  | @unbound head _ _ hs hbound =>
    rw [evalForm_special hs]
    exact evalAssignment_unbound head hbound
  | count hs hhead hcount =>
    rw [evalForm_ordinary hs, Run.bind_of_ok hhead, evalCall, if_neg hcount]
    rfl
  | notProcedure hs hhead hv hargs =>
    rw [evalForm_ordinary hs, Run.bind_of_ok hhead, evalCall_of_other hv hargs]
    rfl
  | @host head p args vs _ _ _ _ hs hhead hargs hcall =>
    have htakes : (Value.host p).TakesOperands args.length := trivial
    rw [evalForm_ordinary hs, Run.bind_of_ok hhead, evalCall_of_takes htakes,
      Run.bind_of_ok hargs.operands]
    exact hcall

/-! ### From the failure inwards -/

lemma operands_cases (inner : Evaluator) (e : Scope) (xs : List Value) (w : World) :
    (∃ vs w', operands inner e xs w = .ok vs w' ∧ InOrder inner e w xs vs w') ∨
      ∃ before x after vs w₁ err w', xs = before ++ x :: after ∧
        InOrder inner e w before vs w₁ ∧ inner x e w₁ = .error err w' ∧
        operands inner e xs w = .error err w' := by
  induction xs generalizing w with
  | nil => exact .inl ⟨[], w, rfl, .nil⟩
  | cons x xs ih =>
    cases hx : inner x e w with
    | error err w' =>
      exact .inr ⟨[], x, xs, [], w, err, w', rfl, .nil, hx, Run.bind_of_error hx _⟩
    | ok v w₁ =>
      rcases ih w₁ with ⟨vs, w', hrest, horder⟩ | ⟨before, y, after, vs, w₂, err, w', rfl,
        horder, hy, -⟩
      · exact .inl ⟨v :: vs, w', operands_cons_ok_iff.2 ⟨v, vs, w₁, hx, hrest, rfl⟩,
          .cons hx horder⟩
      · have horder : InOrder inner e w (x :: before) (v :: vs) w₂ := .cons hx horder
        exact .inr ⟨x :: before, y, after, v :: vs, w₂, err, w', rfl, horder, hy,
          horder.operands_stop hy after⟩

lemma sequence_part {last : Value} {forms : List Value}
    (h : sequence inner e last forms w = .error err w') :
    ∃ before x after us w₁, forms = before ++ x :: after ∧ InOrder inner e w before us w₁ ∧
      inner x e w₁ = .error err w' := by
  induction forms generalizing last w with
  | nil => cases h
  | cons x xs ih =>
    cases hx : inner x e w with
    | error err₁ w₁ =>
      rw [sequence, Run.bind_of_error hx] at h
      cases h
      exact ⟨[], x, xs, [], w, rfl, .nil, hx⟩
    | ok v w₁ =>
      rw [sequence, Run.bind_of_ok hx] at h
      obtain ⟨before, y, after, us, w₂, rfl, horder, hy⟩ := ih h
      exact ⟨x :: before, y, after, v :: us, w₂, rfl, .cons hx horder, hy⟩

def FailsAt (room : Nat) (e : Scope) (w : World) (form : List Value) (err : Error) (w' : World) :
    Prop :=
  Raises room e w form err w' ∨
    ∃ left x e' w₁, left ≤ room ∧ ComesTo room e w form left x e' w₁ ∧
      eval left x e' w₁ = .error err w'

lemma failsAt_of_branch {test first : Value} {second : Option Value}
    (hs : IsSpecial head .conditional)
    (h : branch (eval room) test first second e w = .error err w') :
    FailsAt room e w (head :: test :: first :: second.toList) err w' := by
  cases htest : eval room test e w with
  | error err₁ w₁ =>
    rw [branch.eq_def, Run.bind_of_error htest] at h
    exact .inr ⟨room, test, e, w, le_rfl, .test second hs, htest.trans h⟩
  | ok v w₁ =>
    by_cases hv : v = .bool true
    · subst hv
      rw [branch_of_true htest] at h
      exact .inr ⟨room, first, e, w₁, le_rfl, .first hs htest, h⟩
    · rw [branch_of_other htest hv] at h
      cases second with
      | none => cases h
      | some y => exact .inr ⟨room, y, e, w₁, le_rfl, .second hs htest hv, h⟩

lemma failsAt_of_special {s : SpecialForm} (hs : IsSpecial head s)
    (h : special s (eval room) (head :: args) e w = .error err w') :
    FailsAt room e w (head :: args) err w' := by
  rcases wellShaped_or_misshapen head s args with hshape | ⟨err₁, hshape⟩
  · cases hshape with
    | @lambda params body hd hbody =>
      cases (evalLambda_ok_iff.2 ⟨head, params, body, rfl, hbody, hd, rfl, rfl⟩).symm.trans h
    | define t x => exact .inr ⟨room, x, e, w, le_rfl, .define hs, define_part head h⟩
    | conditional test first second =>
      apply failsAt_of_branch hs
      have hform : evalForm (eval room) (eval (room - 1)) (head :: test :: first :: second.toList)
          e = branch (eval room) test first second e := evalForm_conditional second hs
      rw [← hform, evalForm_special hs]
      exact h
    | assignment t x =>
      cases hbound : w.store.isBound e t with
      | false =>
        rw [special, evalAssignment_unbound head hbound] at h
        cases h
        exact .inl (.unbound hs hbound)
      | true =>
        rcases assignment_part head h with ⟨hunbound, -⟩ | hx
        · cases hbound.symm.trans hunbound
        · exact .inr ⟨room, x, e, w, le_rfl, .assign hs hbound, hx⟩
  · rw [hshape.special_eq] at h
    cases h
    exact .inl (.misshapen hs hshape)

lemma failsAt_of_call {p : Value} {w₁ : World} (hs : IsOrdinary head)
    (hhead : eval room head e w = .ok p w₁)
    (h : evalCall (eval room) (eval (room - 1)) p (head :: args) args e w₁ = .error err w') :
    FailsAt room e w (head :: args) err w' := by
  by_cases htakes : p.TakesOperands args.length
  · rw [evalCall_of_takes htakes] at h
    rcases operands_cases (eval room) e args w₁ with ⟨vs, w₂, hvs, horder⟩ | ⟨before, x, after, vs,
      w₂, err₁, w₃, rfl, horder, hx, hstop⟩
    · rw [Run.bind_of_ok hvs] at h
      cases p with
      | host p => exact .inl (.host hs hhead horder h)
      | closure identity params forms captured =>
        rw [call, callClosure_apply] at h
        obtain ⟨before, x, after, us, w₃, rfl, hbefore, hx⟩ := sequence_part h
        exact .inr ⟨room - 1, x, _, w₃, Nat.sub_le room 1,
          .body before after hs hhead htakes horder hbefore, hx⟩
      | _ => cases htakes
    · rw [Run.bind_of_error hstop] at h
      cases h
      exact .inr ⟨room, x, e, w₂, le_rfl, .operand before after hs hhead htakes horder, hx⟩
  · cases p with
    | host p => exact absurd trivial htakes
    | closure identity params forms captured =>
      have hcount : params.length ≠ args.length := htakes
      rw [evalCall, if_neg hcount] at h
      cases h
      exact .inl (.count hs hhead hcount)
    | _ =>
      by_cases hargs : args = []
      · subst hargs
        cases h
      · rw [evalCall_of_other rfl hargs] at h
        cases h
        exact .inl (.notProcedure hs hhead rfl hargs)

lemma failsAt_of_evalForm
    (h : evalForm (eval room) (eval (room - 1)) form e w = .error err w') :
    FailsAt room e w form err w' := by
  cases form with
  | nil =>
    cases h
    exact .inl .empty
  | cons head args =>
    cases hs : SpecialForm.ofHead? head with
    | some s =>
      rw [evalForm_special hs] at h
      exact failsAt_of_special hs h
    | none =>
      rw [evalForm_ordinary hs] at h
      cases hhead : eval room head e w with
      | error err₁ w₁ =>
        rw [Run.bind_of_error hhead] at h
        exact .inr ⟨room, head, e, w, le_rfl, .head hs, hhead.trans h⟩
      | ok p w₁ =>
        rw [Run.bind_of_ok hhead] at h
        exact failsAt_of_call hs hhead h

end Eval

namespace Error

def inside (err : Error) (active : List (List Value)) : Error :=
  active.foldl (fun err form => err.within (Eval.formText form)) err

variable {err : Error} (active : List (List Value))

lemma inside_append (form : List Value) :
    err.inside (active ++ [form]) = (err.inside active).within (Eval.formText form) :=
  List.foldl_append ..

lemma kind_inside : (err.inside active).kind = err.kind := by
  induction active generalizing err with
  | nil => rfl
  | cons form active ih =>
    rw [inside, List.foldl_cons]
    exact ih.trans (kind_within _ _)

lemma message_inside (h : err.IsTraced) :
    (err.inside active).message = err.message ++
      String.join (active.map fun form =>
        "\n  Context: while evaluating: " ++ (Value.list form).written) := by
  induction active generalizing err with
  | nil => simp [inside]
  | cons form active ih =>
    have hwithin : (err.within (Eval.formText form)).IsTraced := by
      simpa [IsTraced] using h
    rw [inside, List.foldl_cons]
    refine (ih hwithin).trans ?_
    rw [message_within h, Eval.formText, List.map_cons, String.join_cons]
    simp only [String.append_assoc]

lemma inside_of_not_traced (h : ¬ err.IsTraced) : err.inside active = err := by
  induction active with
  | nil => rfl
  | cons form active ih =>
    rw [inside, List.foldl_cons, within_of_not_traced h]
    exact ih

end Error

namespace Eval

variable {room : Nat} {e : Scope} {w w' : World} {x : Value} {err : Error}
  {active : List (List Value)}

lemma Fails.eval_eq (h : Fails room e w x active err w') :
    eval room x e w = .error (err.inside active) w' := by
  induction h with
  | tooDeep => rfl
  | unbound hs =>
    rw [eval_succ, level, Run.lookup, Run.get_bind_apply, hs]
    rfl
  | raised h =>
    rw [eval_succ]
    exact within_of_error h.evalForm_fails
  | passed hcomes _ ih =>
    rw [eval_succ, Error.inside_append]
    exact within_of_error (hcomes.evalForm_fails ih)

lemma exists_fails (h : eval room x e w = .error err w') :
    ∃ active raised, Fails room e w x active raised w' := by
  induction room using Nat.strongRecOn generalizing x e w err with
  | ind room ih =>
    cases room with
    | zero =>
      cases h
      exact ⟨[], tooDeep, .tooDeep⟩
    | succ room =>
      rw [eval_succ] at h
      cases x with
      | symbol s =>
        rw [level, Run.lookup, Run.get_bind_apply] at h
        cases hs : w.store.lookup? e s with
        | some v =>
          rw [hs] at h
          cases h
        | none =>
          rw [hs] at h
          cases h
          exact ⟨[], _, .unbound hs⟩
      | list form =>
        rw [level] at h
        cases hform : evalForm (eval room) (eval (room - 1)) form e w with
        | ok v w₁ => cases (within_ok_iff.2 hform).symm.trans h
        | error err₁ w₁ =>
          rw [within_of_error hform] at h
          cases h
          rcases failsAt_of_evalForm hform with hraises | ⟨left, y, e', w₂, hle, hcomes, hy⟩
          · exact ⟨[form], err₁, .raised hraises⟩
          · obtain ⟨active, raised, hfails⟩ := ih left (Nat.lt_succ_of_le hle) hy
            exact ⟨active ++ [form], raised, .passed hcomes hfails⟩
      | _ => cases h

end Eval

open Eval in
/-- Wherever evaluation fails, an error is raised while some forms are active. What comes out is
an error of the same kind. If it is an evaluation or a type error, its message is the one raised and
a line for each active form, innermost first; any other error comes out as it was raised. -/
theorem failure_tells_active_forms (room : Nat) (x : Value) (e : Scope) (w : World) :
    (∀ err w', eval room x e w = .error err w' →
      ∃ active raised, Fails room e w x active raised w') ∧
    ∀ active raised w', Fails room e w x active raised w' →
      ∃ err, eval room x e w = .error err w' ∧ err.kind = raised.kind ∧
        (raised.kind = .evaluation ∨ raised.kind = .wrongType → err.message = raised.message ++
          String.join (active.map fun form =>
            "\n  Context: while evaluating: " ++ (Value.list form).written)) ∧
        (raised.kind ≠ .evaluation → raised.kind ≠ .wrongType → err = raised) := by
  refine ⟨fun err w' h => exists_fails h, fun active raised w' h => ?_⟩
  refine ⟨raised.inside active, h.eval_eq, Error.kind_inside active, fun htraced => ?_,
    fun hevaluation hwrongType => ?_⟩
  · exact Error.message_inside active htraced
  · apply Error.inside_of_not_traced
    rintro (hkind | hkind)
    · exact hevaluation hkind
    · exact hwrongType hkind

namespace World

def comparing : World :=
  -- `<` is bound, and `f` is bound to `(lambda (x) #t (if (< x x) x))`.
  { World.start .collecting with
    store := ⟨#[⟨[(⟨4, "<"⟩, .host Builtin.less.procedure),
      (⟨5, "f"⟩, .closure 0 [⟨6, "x"⟩] [.bool true, .list [.symbol ⟨2, "if"⟩,
        .list [.symbol ⟨4, "<"⟩, .symbol ⟨6, "x"⟩, .symbol ⟨6, "x"⟩], .symbol ⟨6, "x"⟩]]
          ⟨0, []⟩)]⟩], 1⟩ }

end World

open Eval World in
theorem failure_tells_active_forms_comparing :
    (∃ err w', eval 8 (.list [.symbol ⟨5, "f"⟩, .bool false]) ⟨0, []⟩ comparing = .error err w' ∧
      err.message = "Type error: < requires numbers, got boolean" ++
        "\n  Context: while evaluating: (< x x)" ++
        "\n  Context: while evaluating: (if (< x x) x)" ++
        "\n  Context: while evaluating: (f #f)") ∧
    eval 8 (.list [.symbol ⟨5, "f"⟩, .symbol ⟨7, "y"⟩]) ⟨0, []⟩ comparing =
      .error (.unbound "y") comparing := by
  -- The calls `(f #f)` and `(f y)`.
  have hf : IsOrdinary (.symbol ⟨5, "f"⟩) := rfl
  constructor
  · have hless : IsOrdinary (.symbol ⟨4, "<"⟩) := rfl
    have hif : IsSpecial (.symbol ⟨2, "if"⟩) .conditional := rfl
    obtain ⟨-, htells⟩ := failure_tells_active_forms 8 (.list [.symbol ⟨5, "f"⟩, .bool false])
      ⟨0, []⟩ comparing
    obtain ⟨err, heval, -, hmessage, -⟩ := htells _ _ _
      (.passed (.body [.bool true] [] hf rfl rfl (.cons rfl .nil)
          (.cons rfl .nil))
        (.passed (.test none hif)
          (.raised (.host hless rfl (.cons rfl (.cons rfl .nil)) rfl))))
    refine ⟨err, _, heval, (hmessage (.inr rfl)).trans ?_⟩
    decide +kernel
  · obtain ⟨-, htells⟩ := failure_tells_active_forms 8
      (.list [.symbol ⟨5, "f"⟩, .symbol ⟨7, "y"⟩]) ⟨0, []⟩ comparing
    obtain ⟨err, heval, -, -, hsame⟩ := htells _ _ _
      (.passed (.operand [] [] hf rfl rfl .nil) (.unbound rfl))
    rw [heval, hsame (by decide) (by decide)]

end SmallScheme
