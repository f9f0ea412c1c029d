import SmallScheme.Builtin
import SmallScheme.World

/-! Evaluation. Every expression is evaluated at a level, and levels are counted down from the
depth limit: head, operands and the parts of a special form are one level further in, the body
of a closure two. -/

namespace SmallScheme

abbrev Evaluator := Value → Scope → Run Value

namespace Eval

def tooDeep : Error := .evaluation .tooDeep []

def formText (form : List Value) : String :=
  (Value.list form).written

def within (form : List Value) (run : Run Value) : Run Value := fun w =>
  match run w with
  | .ok v w => .ok v w
  | .error e w => .error (e.within (formText form)) w

def operands (inner : Evaluator) (e : Scope) : List Value → Run (List Value)
  | [] => pure []
  | x :: xs => do
    let v ← inner x e
    let vs ← operands inner e xs
    pure (v :: vs)

def sequence (inner : Evaluator) (e : Scope) (last : Value) : List Value → Run Value
  | [] => pure last
  | x :: xs => do
    let v ← inner x e
    sequence inner e v xs

def displayLine (args : List Value) : String :=
  " ".intercalate (args.map Value.displayed) ++ "\n"

def display (args : List Value) : Run Value := do
  Run.write (displayLine args)
  pure .unspecified

def callHost (p : HostProcedure) (args : List Value) : Run Value := do
  Run.note (.hostCall p.name args.length)
  Run.ofExcept (p.arity.check args.length)
  match p.code with
  | .builtin b => Run.ofExcept (b.apply args)
  | .display => display args
  | .external slot => Run.callExternal p.name slot args

def callClosure (body : Evaluator) (params : List Symbol) (forms : List Value) (e : Scope)
    (args : List Value) : Run Value := do
  Run.note (.closureCall params.length)
  let frame ← Run.newChild e
  modify fun w => { w with store := w.store.defineAll frame params args }
  sequence body frame .unspecified forms

def call (body : Evaluator) (procedure : Value) (args : List Value) : Run Value :=
  match procedure with
  | .host p => callHost p args
  | .closure _ params forms e => callClosure body params forms e args
  | v => throw (.notApplicable v.written)

def parameters (seen : List Symbol) : List Value → Except Error (List Symbol)
  | [] => .ok seen.reverse
  | .symbol s :: rest =>
    if seen.any (·.same s) then .error (.parameters (.repeated s.name))
    else parameters (s :: seen) rest
  | v :: _ => .error (.parameters (.notSymbol v.written))

def notTwo (form : List Value) : Error :=
  .arity 2 (form.length - 1) (some (formText form))

def evalLambda (form : List Value) (e : Scope) : Run Value :=
  match form with
  | [_, .list _] => throw (notTwo form)
  | _ :: .list params :: body => do
    let params ← Run.ofExcept (parameters [] params)
    Run.newClosure params body e
  | _ :: v :: _ => throw (.parameters (.notList v.written))
  | _ => throw (notTwo form)

def evalDefine (inner : Evaluator) (form : List Value) (e : Scope) : Run Value :=
  match form with
  | [_, .symbol s, x] => do
    let v ← inner x e
    Run.note (.defined s.name v)
    Run.define e s v
    pure .unspecified
  | [_, target, _] => throw (.defineTarget target.written)
  | _ => throw (notTwo form)

def evalAssignment (inner : Evaluator) (form : List Value) (e : Scope) : Run Value :=
  match form with
  | [_, .symbol s, x] => do
    if (← get).store.isBound e s then
      let v ← inner x e
      Run.note (.assigned s.name v)
      Run.assign e s v
      pure .unspecified
    else throw (.unbound s.name)
  | [_, target, _] => throw (.assignTarget target.written)
  | _ => throw (notTwo form)

def branch (inner : Evaluator) (test first : Value) (second : Option Value) (e : Scope) :
    Run Value := do
  match ← inner test e with
  | .bool true => inner first e
  | _ =>
    match second with
    | some x => inner x e
    | none => pure .unspecified

def evalConditional (inner : Evaluator) (form : List Value) (e : Scope) : Run Value :=
  match form with
  | [_, test, first] => branch inner test first none e
  | [_, test, first, second] => branch inner test first (some second) e
  | _ => throw (.conditional (formText form))

def special (s : SpecialForm) (inner : Evaluator) (form : List Value) (e : Scope) : Run Value :=
  match s with
  | .lambda => evalLambda form e
  | .define => evalDefine inner form e
  | .conditional => evalConditional inner form e
  | .assignment => evalAssignment inner form e

/-- Evaluates a call whose head has the value `procedure`. A value that is no procedure may be
called without operands and is then the result. -/
def evalCall (inner body : Evaluator) (procedure : Value) (form args : List Value) (e : Scope) :
    Run Value :=
  match procedure with
  | .host _ => do
    let vs ← operands inner e args
    call body procedure vs
  | .closure _ params _ _ =>
    if params.length = args.length then do
      let vs ← operands inner e args
      call body procedure vs
    else throw (.arity params.length args.length (some (formText form)))
  | v => if args.isEmpty then pure v else throw (.notApplicable v.written)

def evalForm (inner body : Evaluator) (form : List Value) (e : Scope) : Run Value :=
  match form with
  | [] => throw (.evaluation .emptyForm [])
  | head :: args =>
    match SpecialForm.ofHead? head with
    | some s => special s inner form e
    | none => do
      let procedure ← inner head e
      evalCall inner body procedure form args e

def level (inner body : Evaluator) : Evaluator := fun x e =>
  match x with
  | .symbol s => Run.lookup e s
  | .list form => within form (evalForm inner body form e)
  | v => pure v

def eval : Nat → Value → Scope → Run Value
  | 0, _, _ => throw tooDeep
  | 1, x, e => level (eval 0) (eval 0) x e
  | room + 2, x, e => level (eval (room + 1)) (eval room) x e

theorem eval_zero (x : Value) (e : Scope) : eval 0 x e = throw tooDeep := rfl

theorem eval_succ (room : Nat) : eval (room + 1) = level (eval room) (eval (room - 1)) := by
  cases room <;> rfl

end Eval

def evaluate (x : Value) (e : Scope) : Run Value :=
  Eval.eval depthLimit x e

def evaluateSpecial (s : SpecialForm) (form : List Value) (e : Scope) (depth : Nat) : Run Value :=
  Eval.special s (Eval.eval (depthLimit - (depth + 1))) form e

def apply (procedure : Value) (args : List Value) : Run Value :=
  match procedure with
  | .closure _ params _ _ =>
    if params.length = args.length then Eval.call (Eval.eval (depthLimit - 2)) procedure args
    else throw (.arity params.length args.length none)
  | _ => Eval.call (Eval.eval (depthLimit - 2)) procedure args

end SmallScheme
