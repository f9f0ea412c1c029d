import SmallScheme.Proofs.FailingCall
import SmallScheme.Proofs.Semantics
import SmallScheme.Proofs.Simulation

namespace SmallScheme

open Semantics Eval

namespace Error

def IsTraced (err : Error) : Prop :=
  err.kind = .evaluation ∨ err.kind = .wrongType

lemma trailText_append (trail : List String) (form : String) :
    trailText (trail ++ [form]) = trailText trail ++ "\n  Context: while evaluating: " ++ form := by
  simp [trailText, String.append_assoc]

lemma message_within {err : Error} (h : err.IsTraced) (form : String) :
    (err.within form).message = err.message ++ "\n  Context: while evaluating: " ++ form := by
  cases err with
  | wrongType fault trail =>
    have hmessage : ∀ trail, (wrongType fault trail).message =
        "Type error: " ++ fault.message ++ trailText trail := fun _ => rfl
    rw [within, hmessage, hmessage, trailText_append]
    simp only [String.append_assoc]
  | evaluation fault trail =>
    have hmessage : ∀ trail, (evaluation fault trail).message =
        "EvaluationError: " ++ fault.message ++ trailText trail := fun _ => rfl
    rw [within, hmessage, hmessage, trailText_append]
    simp only [String.append_assoc]
  | _ => exact absurd h (by simp [IsTraced, kind])

lemma within_of_not_traced {err : Error} (h : ¬ err.IsTraced) (form : String) :
    err.within form = err := by
  cases err with
  | wrongType fault trail => exact absurd (.inr rfl) h
  | evaluation fault trail => exact absurd (.inl rfl) h
  | _ => rfl

end Error

namespace Eval

variable {x p : Value} {args : List Value} {e : Scope} {w : World}

lemma eval_of_constant (hx : IsConstant x) (room : Nat) :
    eval (room + 1) x e w = .ok x w := by
  rw [eval_succ]
  cases x with
  | symbol s => cases hx
  | list form => cases hx
  | _ => rfl

lemma inOrder_of_constants (hargs : ∀ a ∈ args, IsConstant a) (room : Nat) :
    InOrder (eval (room + 1)) e w args args w := by
  induction args with
  | nil => exact .nil
  | cons a args ih =>
    have hrest : ∀ b ∈ args, IsConstant b := fun b hb => hargs b (List.mem_cons_of_mem a hb)
    exact .cons (eval_of_constant (hargs a (by simp)) room) (ih hrest)

lemma ofHead?_of_isProcedure (hp : p.isProcedure = true) : SpecialForm.ofHead? p = none := by
  cases p with
  | symbol s => cases hp
  | _ => rfl

lemma eval_of_isProcedure (hp : p.isProcedure = true) (room : Nat) :
    eval (room + 1) p e w = .ok p w := by
  apply eval_of_constant
  cases p with
  | symbol s => cases hp
  | list form => cases hp
  | _ => trivial

lemma eval_call (hp : p.isProcedure = true) (htakes : p.TakesOperands args.length)
    (hargs : ∀ a ∈ args, IsConstant a) (room : Nat) :
    eval (room + 2) (.list (p :: args)) e w = within (p :: args) (call (eval room) p args) w := by
  rw [call_of_head (ofHead?_of_isProcedure hp) (eval_of_isProcedure hp room),
    evalCall_of_takes htakes, within, Run.bind_of_ok (inOrder_of_constants hargs room).operands]
  rfl

end Eval

section

variable {p : Value} {args : List Value}

lemma apply_of_takes (htakes : p.TakesOperands args.length) :
    apply p args = call (eval (depthLimit - 2)) p args := by
  cases p with
  | closure identity params body captured =>
    have hlength : params.length = args.length := htakes
    rw [apply, if_pos hlength]
  | _ => rfl

inductive CallErrors (p : Value) (args : List Value) : Error → Error → Prop
  | count {identity : Nat} {params : List Symbol} {body : List Value} {captured : Scope} :
      p = .closure identity params body captured → params.length ≠ args.length →
      CallErrors p args (.arity params.length args.length none)
        (.arity params.length args.length (some (formText (p :: args))))
  | traced {err err' : Error} : p.TakesOperands args.length → err.IsTraced →
      err'.kind = err.kind →
      err'.message = err.message ++ "\n  Context: while evaluating: " ++ formText (p :: args) →
      CallErrors p args err err'
  | same {err : Error} : p.TakesOperands args.length → ¬ err.IsTraced → CallErrors p args err err

inductive CallsAlike (p : Value) (args : List Value) :
    EStateM.Result Error World Value → EStateM.Result Error World Value → Prop
  | ok {v : Value} {w : World} : CallsAlike p args (.ok v w) (.ok v w)
  | error {err err' : Error} {w : World} : CallErrors p args err err' →
      CallsAlike p args (.error err w) (.error err' w)

lemma callErrors_within (htakes : p.TakesOperands args.length) (err : Error) :
    CallErrors p args err (err.within (formText (p :: args))) := by
  by_cases herr : err.IsTraced
  · exact .traced htakes herr (Error.kind_within _ err) (Error.message_within herr _)
  · rw [Error.within_of_not_traced herr]
    exact .same htakes herr

lemma takes_or_miscounts (hp : p.isProcedure = true) (args : List Value) :
    p.TakesOperands args.length ∨ ∃ identity params body captured,
      p = .closure identity params body captured ∧ params.length ≠ args.length := by
  cases p with
  | host q => exact .inl trivial
  | closure identity params body captured =>
    by_cases hlength : params.length = args.length
    · exact .inl hlength
    · exact .inr ⟨identity, params, body, captured, rfl, hlength⟩
  | _ => cases hp

end

/-- Applied by a host and called by a form, a procedure does the same: both end with the same value
in the same world, or both fail in the same world and say so as `CallErrors` tells. -/
theorem call_form_answers_as_apply {p : Value} (hp : p.isProcedure = true) {args : List Value}
    (hargs : ∀ a ∈ args, IsConstant a) (e : Scope) (w : World) :
    CallsAlike p args (apply p args w) (evaluate (.list (p :: args)) e w) := by
  rcases takes_or_miscounts hp args with htakes | ⟨identity, params, body, captured, rfl, hlength⟩
  · have hform : evaluate (.list (p :: args)) e w = within (p :: args) (apply p args) w := by
      rw [apply_of_takes htakes]
      exact eval_call hp htakes hargs (depthLimit - 2)
    rw [hform]
    cases hrun : apply p args w with
    | ok v w' =>
      rw [within_ok_iff.2 hrun]
      exact .ok
    | error err w' =>
      rw [within_of_error hrun]
      exact .error (callErrors_within htakes err)
  · have happly : apply (.closure identity params body captured) args w =
        .error (.arity params.length args.length none) w := by
      rw [apply, if_neg hlength]
      rfl
    have hform : evaluate (.list (.closure identity params body captured :: args)) e w =
        .error (.arity params.length args.length
          (some (formText (.closure identity params body captured :: args)))) w :=
      call_stops_at_count (ofHead?_of_isProcedure hp) (eval_of_isProcedure hp (depthLimit - 2))
        hlength
    rw [happly, hform]
    exact .error (.count rfl hlength)

def Value.failing : Value :=
  -- A closure with one parameter twice and the empty form as its body.
  .closure 0 [⟨4, "x"⟩, ⟨4, "x"⟩] [.list []] ⟨0, []⟩

theorem call_form_answers_as_apply_failing :
    ∃ err' w', apply .failing [.bool true, .unspecified] (.start .collecting) =
      .error (.evaluation .emptyForm ["()"]) w' ∧
      evaluate (.list [.failing, .bool true, .unspecified]) ⟨0, []⟩ (.start .collecting) =
        .error err' w' ∧
      err'.message = "EvaluationError: cannot evaluate empty list" ++
        "\n  Context: while evaluating: ()" ++
        "\n  Context: while evaluating: (#<closure/2> #t #<unspecified>)" := by
  have hargs : ∀ a ∈ [Value.bool true, .unspecified], IsConstant a := by simp [IsConstant]
  have halike := call_form_answers_as_apply (p := .failing) rfl hargs ⟨0, []⟩ (.start .collecting)
  obtain ⟨w', happly⟩ : ∃ w', apply .failing [.bool true, .unspecified] (.start .collecting) =
      .error (.evaluation .emptyForm ["()"]) w' := ⟨_, rfl⟩
  rw [happly] at halike
  generalize evaluate (.list [.failing, .bool true, .unspecified]) ⟨0, []⟩ (.start .collecting) =
    result at halike
  cases halike with
  | error herr =>
    cases herr with
    | traced _ _ _ hmessage =>
      refine ⟨_, w', happly, rfl, hmessage.trans ?_⟩
      decide +kernel
    | same _ htraced => exact absurd (.inl rfl) htraced

end SmallScheme
