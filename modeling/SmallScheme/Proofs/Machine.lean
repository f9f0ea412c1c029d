import SmallScheme.Proofs.Run

/-! The evaluator over symbols, values and worlds of any kind. The interpreter is one such
machine; what does not depend on how it keeps its symbols is shown of all of them. -/

namespace SmallScheme

inductive Shape (σ υ : Type) where
  | symbol (s : σ)
  | list (elements : List υ)
  | host (procedure : HostProcedure)
  | closure (params : List σ) (body : List υ) (scope : Scope)
  | bool (b : Bool)
  | other

structure Machine (σ υ ω : Type) where
  shape : υ → Shape σ υ
  written : υ → String
  unspecified : υ
  name : σ → String
  same : σ → σ → Bool
  special? : σ → Option SpecialForm
  lookup : Scope → σ → EStateM Error ω υ
  isBound : Scope → σ → EStateM Error ω Bool
  define : Scope → σ → υ → EStateM Error ω Unit
  assign : Scope → σ → υ → EStateM Error ω Unit
  newClosure : List σ → List υ → Scope → EStateM Error ω υ
  enter : Scope → List σ → List υ → EStateM Error ω Scope
  callHost : HostProcedure → List υ → EStateM Error ω υ

namespace Machine

variable {σ υ ω : Type}

abbrev Evaluator (_ : Machine σ υ ω) := υ → Scope → EStateM Error ω υ

variable (M : Machine σ υ ω)

def operands (inner : M.Evaluator) (e : Scope) : List υ → EStateM Error ω (List υ)
  | [] => pure []
  | x :: xs => do
    let v ← inner x e
    let vs ← operands inner e xs
    pure (v :: vs)

def sequence (body : M.Evaluator) (e : Scope) (last : υ) : List υ → EStateM Error ω υ
  | [] => pure last
  | x :: xs => do
    let v ← body x e
    sequence body e v xs

def call (body : M.Evaluator) (p : υ) (args : List υ) : EStateM Error ω υ :=
  match M.shape p with
  | .host h => M.callHost h args
  | .closure params forms e => do
    let frame ← M.enter e params args
    M.sequence body frame M.unspecified forms
  | _ => throw (.notApplicable (M.written p))

def parameters (seen : List σ) : List υ → Except Error (List σ)
  | [] => .ok seen.reverse
  | x :: xs =>
    match M.shape x with
    | .symbol s =>
      if seen.any (M.same · s) then .error (.parameters (.repeated (M.name s)))
      else parameters (s :: seen) xs
    | _ => .error (.parameters (.notSymbol (M.written x)))

def notTwo (text : String) (form : List υ) : Error :=
  .arity 2 (form.length - 1) (some text)

def makeClosure (params body : List υ) (e : Scope) : EStateM Error ω υ :=
  match M.parameters [] params with
  | .ok params => M.newClosure params body e
  | .error err => throw err

def evalLambda (text : String) (form : List υ) (e : Scope) : EStateM Error ω υ :=
  match form with
  | _ :: x :: body =>
    match M.shape x with
    | .list params =>
      if body.isEmpty then throw (notTwo text form) else M.makeClosure params body e
    | _ => throw (.parameters (.notList (M.written x)))
  | _ => throw (notTwo text form)

def withTarget (fault : String → Error) (act : σ → υ → EStateM Error ω υ) (text : String)
    (form : List υ) : EStateM Error ω υ :=
  match form with
  | [_, target, x] =>
    match M.shape target with
    | .symbol s => act s x
    | _ => throw (fault (M.written target))
  | _ => throw (notTwo text form)

def evalDefine (inner : M.Evaluator) (e : Scope) : String → List υ → EStateM Error ω υ :=
  M.withTarget .defineTarget fun s x => do
    let v ← inner x e
    M.define e s v
    pure M.unspecified

def evalAssignment (inner : M.Evaluator) (e : Scope) : String → List υ → EStateM Error ω υ :=
  M.withTarget .assignTarget fun s x => do
    if ← M.isBound e s then
      let v ← inner x e
      M.assign e s v
      pure M.unspecified
    else throw (.unbound (M.name s))

def alternative (inner : M.Evaluator) (e : Scope) : Option υ → EStateM Error ω υ
  | some x => inner x e
  | none => pure M.unspecified

def branch (inner : M.Evaluator) (test first : υ) (second : Option υ) (e : Scope) :
    EStateM Error ω υ := do
  match M.shape (← inner test e) with
  | .bool true => inner first e
  | _ => M.alternative inner e second

def evalConditional (inner : M.Evaluator) (text : String) (form : List υ) (e : Scope) :
    EStateM Error ω υ :=
  match form with
  | [_, test, first] => M.branch inner test first none e
  | [_, test, first, second] => M.branch inner test first (some second) e
  | _ => throw (.conditional text)

def special (s : SpecialForm) (inner : M.Evaluator) (text : String) (form : List υ) (e : Scope) :
    EStateM Error ω υ :=
  match s with
  | .lambda => M.evalLambda text form e
  | .define => M.evalDefine inner e text form
  | .conditional => M.evalConditional inner text form e
  | .assignment => M.evalAssignment inner e text form

def evalCall (inner body : M.Evaluator) (p : υ) (text : String) (args : List υ) (e : Scope) :
    EStateM Error ω υ :=
  match M.shape p with
  | .host _ => do
    let vs ← M.operands inner e args
    M.call body p vs
  | .closure params _ _ =>
    if params.length = args.length then do
      let vs ← M.operands inner e args
      M.call body p vs
    else throw (.arity params.length args.length (some text))
  | _ => if args.isEmpty then pure p else throw (.notApplicable (M.written p))

def head? (x : υ) : Option SpecialForm :=
  match M.shape x with
  | .symbol s => M.special? s
  | _ => none

def evalForm (inner body : M.Evaluator) (text : String) (form : List υ) (e : Scope) :
    EStateM Error ω υ :=
  match form with
  | [] => throw (.evaluation .emptyForm [])
  | head :: args =>
    match M.head? head with
    | some s => M.special s inner text form e
    | none => do
      let p ← inner head e
      M.evalCall inner body p text args e

def level (inner body : M.Evaluator) : M.Evaluator := fun x e =>
  match M.shape x with
  | .symbol s => M.lookup e s
  | .list form => mapError (Error.within (M.written x)) (M.evalForm inner body (M.written x) form e)
  | _ => pure x

def eval : Nat → M.Evaluator
  | 0, _, _ => throw Eval.tooDeep
  | 1, x, e => M.level (eval 0) (eval 0) x e
  | room + 2, x, e => M.level (eval (room + 1)) (eval room) x e

lemma eval_succ (room : Nat) : M.eval (room + 1) = M.level (M.eval room) (M.eval (room - 1)) := by
  cases room <;> rfl

def evaluate (x : υ) (e : Scope) : EStateM Error ω υ :=
  M.eval depthLimit x e

def apply (p : υ) (args : List υ) : EStateM Error ω υ :=
  match M.shape p with
  | .closure params _ _ =>
    if params.length = args.length then M.call (M.eval (depthLimit - 2)) p args
    else throw (.arity params.length args.length none)
  | _ => M.call (M.eval (depthLimit - 2)) p args

end Machine

namespace Value

def shape : Value → Shape Symbol Value
  | symbol s => .symbol s
  | list vs => .list vs
  | host p => .host p
  | closure _ params body e => .closure params body e
  | bool b => .bool b
  | _ => .other

end Value

def numbered : Machine Symbol Value World where
  shape := Value.shape
  written := Value.written
  unspecified := .unspecified
  name := Symbol.name
  same := Symbol.same
  special? := SpecialForm.ofSymbol?
  lookup := Run.lookup
  isBound e s := do
    return (← get).store.isBound e s
  define e s v := do
    Run.note (.defined s.name v)
    Run.define e s v
  assign e s v := do
    Run.note (.assigned s.name v)
    Run.assign e s v
  newClosure := Run.newClosure
  enter e params args := do
    Run.note (.closureCall params.length)
    let frame ← Run.newChild e
    modify fun w => { w with store := w.store.defineAll frame params args }
    pure frame
  callHost := Eval.callHost

namespace Run

lemma write_apply (text : String) (w : World) :
    write text w =
      match w.sink.writeFault, w.sink.flushFault with
      | some fault, _ => .error (.io fault) w
      | none, some fault => .error (.io fault) { w with output := w.output ++ text }
      | none, none => .ok () { w with output := w.output ++ text } := by
  obtain ⟨store, ⟨writeFault, flushFault⟩, output, events, externals⟩ := w
  cases writeFault <;> cases flushFault <;> rfl

lemma callExternal_apply (name : String) (slot : Nat) (args : List Value) (w : World) :
    callExternal name slot args w =
      match w.externals[slot]? with
      | none => .error (.notApplicable name) w
      | some f => ofExcept (f.function (f.calls + 1) args) { w with
          externals := w.externals.setIfInBounds slot { f with calls := f.calls + 1 } } := by
  rw [callExternal, get_bind_apply]
  cases w.externals[slot]? <;> rfl

end Run

namespace Eval

lemma operands_eq (inner : Evaluator) (e : Scope) (xs : List Value) :
    operands inner e xs = numbered.operands inner e xs := by
  induction xs with
  | nil => rfl
  | cons x xs ih => rw [operands, Machine.operands, ih]

lemma sequence_eq (body : Evaluator) (e : Scope) (last : Value) (xs : List Value) :
    sequence body e last xs = numbered.sequence body e last xs := by
  induction xs generalizing last with
  | nil => rfl
  | cons x xs ih =>
    rw [sequence, Machine.sequence]
    exact congrArg _ (funext fun v => ih v)

lemma call_eq (body : Evaluator) (p : Value) (args : List Value) :
    call body p args = numbered.call body p args := by
  cases p with
  | closure i params forms e =>
    funext w
    exact congrFun (sequence_eq body _ .unspecified forms) _
  | _ => rfl

lemma parameters_eq (seen : List Symbol) (xs : List Value) :
    parameters seen xs = numbered.parameters seen xs := by
  induction xs generalizing seen with
  | nil => rfl
  | cons x xs ih =>
    cases x with
    | symbol s =>
      rw [parameters, ih]
      rfl
    | _ => rfl

lemma evalLambda_eq (form : List Value) (e : Scope) :
    evalLambda form e = numbered.evalLambda (formText form) form e := by
  match form with
  | [] => rfl
  | [_] => rfl
  | [_, x] => cases x <;> rfl
  | _ :: x :: y :: rest =>
    cases x with
    | list params =>
      simp only [evalLambda, parameters_eq]
      change _ = numbered.makeClosure params (y :: rest) e
      unfold Machine.makeClosure
      cases numbered.parameters [] params <;> rfl
    | _ => rfl

lemma withTarget_eq (fault : String → Error) {act act' : Symbol → Value → Run Value}
    (h : ∀ s x, act s x = act' s x) (form : List Value) :
    withTarget fault act form = numbered.withTarget fault act' (formText form) form := by
  match form with
  | [] => rfl
  | [_] => rfl
  | [_, x] => cases x <;> rfl
  | [_, x, y] =>
    cases x with
    | symbol s => exact h s y
    | _ => rfl
  | _ :: x :: _ :: _ :: _ => cases x <;> rfl

lemma evalDefine_eq_numbered (inner : Evaluator) (form : List Value) (e : Scope) :
    evalDefine inner form e = numbered.evalDefine inner e (formText form) form := by
  rw [evalDefine_eq]
  apply withTarget_eq
  intro s x
  rfl

lemma evalAssignment_eq_numbered (inner : Evaluator) (form : List Value) (e : Scope) :
    evalAssignment inner form e = numbered.evalAssignment inner e (formText form) form := by
  rw [evalAssignment_eq]
  apply withTarget_eq
  intro s x
  simp [numbered]

lemma branch_eq (inner : Evaluator) (test first : Value) (second : Option Value) (e : Scope) :
    branch inner test first second e = numbered.branch inner test first second e := by
  unfold branch Machine.branch
  refine congrArg _ (funext fun v => ?_)
  cases second <;> cases v with
  | bool b => cases b <;> rfl
  | _ => rfl

lemma evalConditional_eq (inner : Evaluator) (form : List Value) (e : Scope) :
    evalConditional inner form e = numbered.evalConditional inner (formText form) form e := by
  match form with
  | [] => rfl
  | [_] => rfl
  | [_, _] => rfl
  | [_, test, first] => exact branch_eq inner test first none e
  | [_, test, first, second] => exact branch_eq inner test first (some second) e
  | _ :: _ :: _ :: _ :: _ :: _ => rfl

lemma special_eq (s : SpecialForm) (inner : Evaluator) (form : List Value) (e : Scope) :
    special s inner form e = numbered.special s inner (formText form) form e := by
  cases s with
  | lambda => exact evalLambda_eq form e
  | define => exact evalDefine_eq_numbered inner form e
  | conditional => exact evalConditional_eq inner form e
  | assignment => exact evalAssignment_eq_numbered inner form e

lemma evalCall_eq (inner body : Evaluator) (p : Value) (form args : List Value) (e : Scope) :
    evalCall inner body p form args e = numbered.evalCall inner body p (formText form) args e := by
  have hcall : (operands inner e args >>= call body p) =
      numbered.operands inner e args >>= numbered.call body p := by
    rw [operands_eq]
    exact congrArg _ (funext fun vs => call_eq body p vs)
  cases p with
  | host p => exact hcall
  | closure i params forms e' =>
    unfold evalCall
    change _ = if params.length = args.length then
      numbered.operands inner e args >>= numbered.call body (.closure i params forms e')
      else throw (.arity params.length args.length (some (formText form)))
    rw [← hcall]
  | _ => rfl

lemma evalForm_eq (inner body : Evaluator) (form : List Value) (e : Scope) :
    evalForm inner body form e = numbered.evalForm inner body (formText form) form e := by
  cases form with
  | nil => rfl
  | cons head args =>
    have hhead : SpecialForm.ofHead? head = numbered.head? head := by cases head <;> rfl
    simp only [evalForm, Machine.evalForm, hhead]
    cases numbered.head? head with
    | some s => exact special_eq s inner _ e
    | none => exact congrArg (inner head e >>= ·) (funext fun p => evalCall_eq inner body p _ args e)

lemma level_eq (inner body : Evaluator) : level inner body = numbered.level inner body := by
  funext x e
  cases x with
  | list form =>
    change within form (evalForm inner body form e) = _
    rw [within_eq, evalForm_eq]
    rfl
  | _ => rfl

lemma eval_eq (room : Nat) : eval room = numbered.eval room := by
  induction room using Nat.strongRecOn with
  | ind room ih =>
    cases room with
    | zero => rfl
    | succ m => rw [eval_succ, Machine.eval_succ, ih m (by omega), ih (m - 1) (by omega), level_eq]

end Eval

lemma evaluate_eq (x : Value) (e : Scope) : evaluate x e = numbered.evaluate x e :=
  congrFun (congrFun (Eval.eval_eq depthLimit) x) e

lemma apply_eq (p : Value) (args : List Value) : apply p args = numbered.apply p args := by
  cases p with
  | closure i params body e =>
    unfold apply
    rw [Eval.call_eq, Eval.eval_eq]
    rfl
  | _ =>
    unfold apply
    rw [Eval.call_eq, Eval.eval_eq]
    rfl

end SmallScheme
