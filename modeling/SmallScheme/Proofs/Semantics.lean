import Mathlib.Tactic.Lemma
import SmallScheme.Eval

/-! The meaning of programs, as a relation. A derivation says how an expression got its value,
with no limit on its depth; frames and displayed text are the only state. -/

namespace SmallScheme.Semantics

structure State where
  store : Store
  output : String

namespace State

def write (σ : State) (text : String) : State :=
  { σ with output := σ.output ++ text }

def define (σ : State) (e : Scope) (s : Symbol) (v : Value) : State :=
  { σ with store := σ.store.define e s v }

def put (σ : State) (i : Nat) (s : Symbol) (v : Value) : State :=
  { σ with store := σ.store.put i s v }

def countClosure (σ : State) : State :=
  { σ with store := σ.store.newClosure.2 }

def callScope (σ : State) (e : Scope) : Scope :=
  (σ.store.newChild e).1

def call (σ : State) (e : Scope) (params : List Symbol) (args : List Value) : State :=
  { σ with store := (σ.store.newChild e).2.defineAll (σ.callScope e) params args }

end State

inductive Resolves (st : Store) (s : Symbol) : List Nat → Nat → Value → Prop
  | here {i : Nat} {outer : List Nat} {v : Value} :
      (st.frame i).get? s = some v → Resolves st s (i :: outer) i v
  | outside {i j : Nat} {outer : List Nat} {v : Value} :
      (st.frame i).get? s = none → Resolves st s outer j v → Resolves st s (i :: outer) j v

inductive Answers (p : HostProcedure) (args : List Value) : Value → String → Prop
  | builtin {b : Builtin} {v : Value} :
      p.code = .builtin b → p.arity.Admits args.length → b.apply args = .ok v → Answers p args v ""
  | display :
      p.code = .display → p.arity.Admits args.length →
      Answers p args .unspecified (Eval.displayLine args)

def Distinct (params : List Symbol) : Prop :=
  params.Pairwise fun s t => s.same t = false

def IsSpecial (head : Value) (form : SpecialForm) : Prop :=
  SpecialForm.ofHead? head = some form

def IsOrdinary (head : Value) : Prop :=
  SpecialForm.ofHead? head = none

def IsConstant : Value → Prop
  | .symbol _ => False
  | .list _ => False
  | _ => True

mutual

inductive Derivation : State → Scope → Value → Value → State → Type
  | constant {σ : State} {e : Scope} {x : Value} : IsConstant x → Derivation σ e x x σ
  | symbol {σ : State} {e : Scope} {s : Symbol} {i : Nat} {v : Value} :
      Resolves σ.store s e.chain i v → Derivation σ e (.symbol s) v σ
  | lambda {σ : State} {e : Scope} {head : Value} {params : List Symbol} {body : List Value} :
      IsSpecial head .lambda → Distinct params → body ≠ [] →
      Derivation σ e (.list (head :: .list (params.map .symbol) :: body))
        (.closure σ.store.closures params body e) σ.countClosure
  | define {σ τ : State} {e : Scope} {head x v : Value} {s : Symbol} :
      IsSpecial head .define → Derivation σ e x v τ →
      Derivation σ e (.list [head, .symbol s, x]) .unspecified (τ.define e s v)
  -- The symbol is bound before its new value is computed; where, is decided afterwards.
  | assign {σ τ : State} {e : Scope} {head x v old last : Value} {s : Symbol} {i j : Nat} :
      IsSpecial head .assignment → Resolves σ.store s e.chain i old →
      Derivation σ e x v τ → Resolves τ.store s e.chain j last →
      Derivation σ e (.list [head, .symbol s, x]) .unspecified (τ.put j s v)
  | first {σ τ υ : State} {e : Scope} {head test x v : Value} {second : Option Value} :
      IsSpecial head .conditional → Derivation σ e test (.bool true) τ → Derivation τ e x v υ →
      Derivation σ e (.list (head :: test :: x :: second.toList)) v υ
  | second {σ τ υ : State} {e : Scope} {head test x y u v : Value} :
      IsSpecial head .conditional → Derivation σ e test u τ → u ≠ .bool true →
      Derivation τ e y v υ → Derivation σ e (.list [head, test, x, y]) v υ
  | neither {σ τ : State} {e : Scope} {head test x u : Value} :
      IsSpecial head .conditional → Derivation σ e test u τ → u ≠ .bool true →
      Derivation σ e (.list [head, test, x]) .unspecified τ
  | host {σ τ υ : State} {e : Scope} {head v : Value} {p : HostProcedure} {xs args : List Value}
      {text : String} :
      IsOrdinary head → Derivation σ e head (.host p) τ → Operands τ e xs args υ →
      Answers p args v text → Derivation σ e (.list (head :: xs)) v (υ.write text)
  | closure {σ τ υ φ : State} {e captured : Scope} {head v : Value} {identity : Nat}
      {params : List Symbol} {body xs args : List Value} :
      IsOrdinary head → Derivation σ e head (.closure identity params body captured) τ →
      params.length = xs.length → Operands τ e xs args υ →
      Body (υ.call captured params args) (υ.callScope captured) .unspecified body v φ →
      Derivation σ e (.list (head :: xs)) v φ
  | alone {σ τ : State} {e : Scope} {head v : Value} :
      IsOrdinary head → Derivation σ e head v τ → v.isProcedure = false →
      Derivation σ e (.list [head]) v τ

inductive Operands : State → Scope → List Value → List Value → State → Type
  | nil {σ : State} {e : Scope} : Operands σ e [] [] σ
  | cons {σ τ υ : State} {e : Scope} {x v : Value} {xs vs : List Value} :
      Derivation σ e x v τ → Operands τ e xs vs υ → Operands σ e (x :: xs) (v :: vs) υ

inductive Body : State → Scope → Value → List Value → Value → State → Type
  | nil {σ : State} {e : Scope} {last : Value} : Body σ e last [] last σ
  | cons {σ τ υ : State} {e : Scope} {last x u v : Value} {xs : List Value} :
      Derivation σ e x u τ → Body τ e u xs v υ → Body σ e last (x :: xs) v υ

end

mutual

/-- How deep a derivation is: a head, an operand or a part of a special form is one level
further in, a form of a closure's body two. -/
def Derivation.nesting {σ τ : State} {e : Scope} {x v : Value} : Derivation σ e x v τ → Nat
  | .constant _ => 0
  | .symbol _ => 0
  | .lambda _ _ _ => 0
  | .define _ d => d.nesting + 1
  | .assign _ _ d _ => d.nesting + 1
  | .first _ d d' => max (d.nesting + 1) (d'.nesting + 1)
  | .second _ d _ d' => max (d.nesting + 1) (d'.nesting + 1)
  | .neither _ d _ => d.nesting + 1
  | .host _ d ds _ => max (d.nesting + 1) ds.nesting
  | .closure _ d _ ds b => max (d.nesting + 1) (max ds.nesting b.nesting)
  | .alone _ d _ => d.nesting + 1

def Operands.nesting {σ τ : State} {e : Scope} {xs vs : List Value} : Operands σ e xs vs τ → Nat
  | .nil => 0
  | .cons d ds => max (d.nesting + 1) ds.nesting

def Body.nesting {σ τ : State} {e : Scope} {last v : Value} {xs : List Value} :
    Body σ e last xs v τ → Nat
  | .nil => 0
  | .cons d b => max (d.nesting + 2) b.nesting

end

end SmallScheme.Semantics
