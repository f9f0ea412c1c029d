import SmallScheme.Proofs.Run

namespace SmallScheme

namespace Value

def TakesOperands (count : Nat) : Value → Prop
  | host _ => True
  | closure _ params _ _ => params.length = count
  | _ => False

end Value

namespace Eval

inductive InOrder (inner : Evaluator) (e : Scope) : World → List Value → List Value → World → Prop
  | nil {w : World} : InOrder inner e w [] [] w
  | cons {w w₁ w₂ : World} {x v : Value} {xs vs : List Value} :
      inner x e w = .ok v w₁ → InOrder inner e w₁ xs vs w₂ →
      InOrder inner e w (x :: xs) (v :: vs) w₂

variable {inner body : Evaluator} {e : Scope} {w w₁ w₂ : World} {xs vs form args : List Value}

lemma InOrder.operands (h : InOrder inner e w xs vs w₁) : operands inner e xs w = .ok vs w₁ := by
  induction h with
  | nil => rfl
  | cons hx _ ih => exact operands_cons_ok_iff.2 ⟨_, _, _, hx, ih, rfl⟩

lemma InOrder.length_eq (h : InOrder inner e w xs vs w₁) : vs.length = xs.length := by
  induction h with
  | nil => rfl
  | cons _ _ ih => simp [ih]

lemma InOrder.operands_stop (h : InOrder inner e w xs vs w₁) {x : Value} {err : Error}
    (hx : inner x e w₁ = .error err w₂) (after : List Value) :
    Eval.operands inner e (xs ++ x :: after) w = .error err w₂ := by
  induction h with
  | nil => exact Run.bind_of_error hx _
  | cons hy _ ih =>
    rw [List.cons_append, Eval.operands, Run.bind_of_ok hy]
    exact Run.bind_of_error (ih hx) _

lemma evalCall_of_takes {p : Value} (h : p.TakesOperands args.length) :
    evalCall inner body p form args e = operands inner e args >>= call body p := by
  cases p with
  | host _ => rfl
  | closure _ params _ _ =>
    have hlength : params.length = args.length := h
    rw [evalCall, if_pos hlength]
  | _ => cases h

lemma evalCall_of_other {v : Value} (hv : v.isProcedure = false) (hargs : args ≠ []) :
    evalCall inner body v form args e = throw (.notApplicable v.written) := by
  cases v with
  | host _ => cases hv
  | closure _ _ _ _ => cases hv
  | _ => exact if_neg (by simpa using hargs)

lemma callHost_of_broken {p : HostProcedure} {bound : Nat}
    (h : p.arity.broken? vs.length = some bound) :
    callHost p vs w = .error (.arity bound vs.length none)
      { w with events := w.events.push (.hostCall p.name vs.length) } := by
  have hcheck : p.arity.check vs.length = .error (.arity bound vs.length none) := by
    rw [Arity.check, h]
  rw [callHost, hcheck]
  rfl

section Stops

variable {head p : Value} {room : Nat} (hhead : SpecialForm.ofHead? head = none)
include hhead

lemma call_of_head (h : eval room head e w = .ok p w₁) (args : List Value) :
    eval (room + 1) (.list (head :: args)) e w = within (head :: args)
      (evalCall (eval room) (eval (room - 1)) p (head :: args) args e) w₁ := by
  rw [eval_of_ordinary hhead, within, Run.bind_of_ok h]
  rfl

lemma call_stops_at_head {err : Error} (h : eval room head e w = .error err w₁)
    (args : List Value) :
    eval (room + 1) (.list (head :: args)) e w =
      .error (err.within (formText (head :: args))) w₁ := by
  rw [eval_of_ordinary hhead]
  exact within_of_error (Run.bind_of_error h _)

lemma call_stops_at_count {identity : Nat} {params : List Symbol} {forms : List Value}
    {captured : Scope} (h : eval room head e w = .ok (.closure identity params forms captured) w₁)
    (hcount : params.length ≠ args.length) :
    eval (room + 1) (.list (head :: args)) e w =
      .error (.arity params.length args.length (some (formText (head :: args)))) w₁ := by
  rw [call_of_head hhead h, evalCall, if_neg hcount]
  rfl

lemma call_stops_at_other (h : eval room head e w = .ok p w₁) (hp : p.isProcedure = false)
    (hargs : args ≠ []) :
    eval (room + 1) (.list (head :: args)) e w = .error (.notApplicable p.written) w₁ := by
  rw [call_of_head hhead h, evalCall_of_other hp hargs]
  rfl

lemma call_stops_at_operand {before after : List Value} {x : Value} {err : Error} {w₃ : World}
    (h : eval room head e w = .ok p w₁) (hp : p.TakesOperands (before ++ x :: after).length)
    (hbefore : InOrder (eval room) e w₁ before vs w₂) (hx : eval room x e w₂ = .error err w₃) :
    eval (room + 1) (.list (head :: (before ++ x :: after))) e w =
      .error (err.within (formText (head :: (before ++ x :: after)))) w₃ := by
  rw [call_of_head hhead h, evalCall_of_takes hp]
  exact within_of_error (Run.bind_of_error (hbefore.operands_stop hx after) _)

lemma call_stops_at_arity {p : HostProcedure} {bound : Nat}
    (h : eval room head e w = .ok (.host p) w₁) (hargs : InOrder (eval room) e w₁ args vs w₂)
    (hbound : p.arity.broken? args.length = some bound) :
    eval (room + 1) (.list (head :: args)) e w = .error (.arity bound args.length none)
      { w₂ with events := w₂.events.push (.hostCall p.name args.length) } := by
  have hp : (Value.host p).TakesOperands args.length := trivial
  rw [call_of_head hhead h, evalCall_of_takes hp, within, Run.bind_of_ok hargs.operands, call]
  rw [← hargs.length_eq] at hbound ⊢
  rw [callHost_of_broken hbound]
  rfl

end Stops

end Eval

open Eval in
/-- A call whose head fails, has the wrong arity or is no procedure stops in the world that the
head left, and one with an operand that fails in the world that this operand left. A host
procedure that refuses the number of its operands has evaluated them all and has not run. -/
theorem failing_call_stops {head : Value} (hhead : SpecialForm.ofHead? head = none) (room : Nat)
    (args : List Value) (e : Scope) (w : World) :
    (∀ err w₁, eval room head e w = .error err w₁ →
      eval (room + 1) (.list (head :: args)) e w =
        .error (err.within (formText (head :: args))) w₁) ∧
    (∀ identity params forms captured w₁,
      eval room head e w = .ok (.closure identity params forms captured) w₁ →
      params.length ≠ args.length →
      eval (room + 1) (.list (head :: args)) e w =
        .error (.arity params.length args.length (some (formText (head :: args)))) w₁) ∧
    (∀ v w₁, eval room head e w = .ok v w₁ → v.isProcedure = false → args ≠ [] →
      eval (room + 1) (.list (head :: args)) e w = .error (.notApplicable v.written) w₁) ∧
    (∀ p w₁ before x after vs w₂ err w₃, eval room head e w = .ok p w₁ →
      p.TakesOperands args.length → args = before ++ x :: after →
      InOrder (eval room) e w₁ before vs w₂ → eval room x e w₂ = .error err w₃ →
      eval (room + 1) (.list (head :: args)) e w =
        .error (err.within (formText (head :: args))) w₃) ∧
    (∀ p w₁ vs w₂, eval room head e w = .ok (.host p) w₁ →
      InOrder (eval room) e w₁ args vs w₂ → ¬ p.arity.Admits args.length →
      ∃ bound, p.arity.broken? args.length = some bound ∧
        eval (room + 1) (.list (head :: args)) e w = .error (.arity bound args.length none)
          { w₂ with events := w₂.events.push (.hostCall p.name args.length) }) := by
  refine ⟨fun err w₁ h => call_stops_at_head hhead h args,
    fun _ _ _ _ w₁ h hcount => call_stops_at_count hhead h hcount,
    fun v w₁ h hv hargs => call_stops_at_other hhead h hv hargs, ?_, ?_⟩
  · rintro p w₁ before x after vs w₂ err w₃ h hp rfl hbefore hx
    exact call_stops_at_operand hhead h hp hbefore hx
  · intro p w₁ vs w₂ h hargs hcount
    have hbroken := mt (p.arity.broken?_eq_none_iff args.length).1 hcount
    obtain ⟨bound, hbound⟩ := Option.ne_none_iff_exists'.1 hbroken
    exact ⟨bound, hbound, call_stops_at_arity hhead h hargs hbound⟩

namespace World

def calling : World :=
  -- `display` and `not` are bound, and `f` is bound to a closure with one parameter.
  { World.start .collecting with
    store := ⟨#[⟨[(⟨4, "display"⟩, .host ⟨"display", .atLeast 0, .display⟩),
      (⟨5, "not"⟩, .host Builtin.not.procedure),
      (⟨6, "f"⟩, .closure 0 [⟨7, "x"⟩] [.symbol ⟨7, "x"⟩] ⟨0, []⟩)]⟩], 1⟩ }

end World

open Eval World in
theorem failing_call_stops_displaying :
    eval 3 (.list [.symbol ⟨6, "f"⟩, .list [.symbol ⟨4, "display"⟩, .bool true], .bool true])
      ⟨0, []⟩ calling = .error (.arity 1 2 (some "(f (display #t) #t)")) calling ∧
    (∃ w, eval 3 (.list [.symbol ⟨4, "display"⟩, .list [.symbol ⟨4, "display"⟩, .bool true],
        .symbol ⟨8, "y"⟩, .list [.symbol ⟨4, "display"⟩, .bool false]]) ⟨0, []⟩ calling =
          .error (.unbound "y") w ∧ w.output = "#t\n" ∧ w.store.frames.size = 1) ∧
    ∃ w, eval 3 (.list [.symbol ⟨5, "not"⟩, .list [.symbol ⟨4, "display"⟩, .bool true],
        .bool false]) ⟨0, []⟩ calling = .error (.arity 1 2 none) w ∧ w.output = "#t\n" := by
  -- The calls `(f (display #t) #t)`, `(display (display #t) y (display #f))` and
  -- `(not (display #t) #f)`.
  refine ⟨?_, ?_, ?_⟩
  · have hhead : SpecialForm.ofHead? (.symbol ⟨6, "f"⟩) = none := rfl
    have htext : formText [.symbol ⟨6, "f"⟩, .list [.symbol ⟨4, "display"⟩, .bool true],
        .bool true] = "(f (display #t) #t)" := by decide +kernel
    obtain ⟨-, hcount, -⟩ := failing_call_stops hhead 2
      [.list [.symbol ⟨4, "display"⟩, .bool true], .bool true] ⟨0, []⟩ calling
    rw [hcount 0 _ _ _ calling rfl (by decide), htext]
    rfl
  · have hhead : SpecialForm.ofHead? (.symbol ⟨4, "display"⟩) = none := rfl
    obtain ⟨-, -, -, hoperand, -⟩ := failing_call_stops hhead 2
      [.list [.symbol ⟨4, "display"⟩, .bool true], .symbol ⟨8, "y"⟩,
        .list [.symbol ⟨4, "display"⟩, .bool false]] ⟨0, []⟩ calling
    exact ⟨_, hoperand _ calling [.list [.symbol ⟨4, "display"⟩, .bool true]] _ _ _ _ _ _ rfl
      trivial rfl (.cons rfl .nil) rfl, by decide +kernel, rfl⟩
  · have hhead : SpecialForm.ofHead? (.symbol ⟨5, "not"⟩) = none := rfl
    obtain ⟨-, -, -, -, harity⟩ := failing_call_stops hhead 2
      [.list [.symbol ⟨4, "display"⟩, .bool true], .bool false] ⟨0, []⟩ calling
    have hcount : ¬ Builtin.not.procedure.arity.Admits 2 := (by decide : ¬ 2 = 1)
    obtain ⟨bound, hbound, hrun⟩ := harity _ calling _ _ rfl (.cons rfl (.cons rfl .nil)) hcount
    obtain rfl : 1 = bound := Option.some.inj hbound
    exact ⟨_, hrun, by decide +kernel⟩

end SmallScheme
