import SmallScheme.Arity
import SmallScheme.Symbol

namespace SmallScheme

/-- A frame and the frames around it, innermost first; frames are numbered in a store. -/
structure Scope where
  frame : Nat
  outer : List Nat
deriving DecidableEq

namespace Scope

def chain (e : Scope) : List Nat :=
  e.frame :: e.outer

def parent? (e : Scope) : Option Scope :=
  match e.outer with
  | [] => none
  | i :: outer => some ⟨i, outer⟩

def depth (e : Scope) : Nat :=
  e.outer.length

def same (e e' : Scope) : Bool :=
  e.frame == e'.frame

end Scope

inductive Builtin where
  | add
  | mul
  | sub
  | div
  | equal
  | less
  | greater
  | atMost
  | atLeast
  | not
deriving DecidableEq

inductive HostCode where
  | builtin (b : Builtin)
  | display
  | external (slot : Nat)
deriving DecidableEq

structure HostProcedure where
  name : String
  arity : Arity
  code : HostCode
deriving DecidableEq

inductive Value where
  | number (x : Float)
  | symbol (s : Symbol)
  | string (text : String)
  | bool (b : Bool)
  | list (elements : List Value)
  | host (procedure : HostProcedure)
  -- Closures are told apart by `identity`; the body runs in a new frame inside `scope`.
  | closure (identity : Nat) (params : List Symbol) (body : List Value) (scope : Scope)
  | unspecified

namespace Value

def typeName : Value → String
  | number _ => "number"
  | symbol _ => "symbol"
  | string _ => "string"
  | bool _ => "boolean"
  | list _ => "list"
  | host _ => "host-procedure"
  | closure .. => "closure"
  | unspecified => "unspecified"

def isNil : Value → Bool
  | list [] => true
  | _ => false

def isUnspecified : Value → Bool
  | unspecified => true
  | _ => false

def isProcedure : Value → Bool
  | host _ => true
  | closure .. => true
  | _ => false

def number? : Value → Option Float
  | number x => some x
  | _ => none

def symbol? : Value → Option Symbol
  | symbol s => some s
  | _ => none

def bool? : Value → Option Bool
  | bool b => some b
  | _ => none

mutual

/-- Equality as programs see it: numbers by value, symbols by number, host procedures by name,
closures by identity, lists by their elements; an unspecified value equals nothing. -/
def equal : Value → Value → Bool
  | number x, number y => x == y
  | symbol s, symbol t => s.same t
  | string s, string t => s == t
  | bool b, bool c => b == c
  | list vs, list ws => equalAll vs ws
  | host p, host q => p.name == q.name
  | closure i _ _ _, closure j _ _ _ => i == j
  | _, _ => false

def equalAll : List Value → List Value → Bool
  | [], [] => true
  | v :: vs, w :: ws => equal v w && equalAll vs ws
  | _, _ => false

end

end Value

end SmallScheme
