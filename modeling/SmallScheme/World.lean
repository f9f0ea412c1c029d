import SmallScheme.Host
import SmallScheme.Store
import SmallScheme.Value.Text

/-! The state that running code changes: the store, the text displayed so far, the events a log
may show, and the functions that a host registered. A run that fails keeps what it changed. -/

namespace SmallScheme

inductive Event where
  | hostCall (name : String) (count : Nat)
  | closureCall (arity : Nat)
  | defined (name : String) (v : Value)
  | assigned (name : String) (v : Value)
  | running (forms : Nat)
  | loading (path : String)
  | historyLost (path fault : String)

structure External where
  calls : Nat
  function : HostFunction

/-- Faults of the output: a text is refused, or taken and then not passed on. -/
structure Sink where
  writeFault : Option String
  flushFault : Option String
deriving DecidableEq

namespace Sink

def collecting : Sink := ⟨none, none⟩

end Sink

structure World where
  store : Store
  sink : Sink
  output : String
  events : Array Event
  externals : Array External

namespace World

def start (sink : Sink) : World :=
  { store := .empty, sink, output := "", events := #[], externals := #[] }

end World

abbrev Run := EStateM Error World

namespace Run

def ofExcept {α : Type} (outcome : Except Error α) : Run α :=
  match outcome with
  | .ok a => pure a
  | .error e => throw e

def note (e : Event) : Run Unit :=
  modify fun w => { w with events := w.events.push e }

def lookup (e : Scope) (s : Symbol) : Run Value := do
  match (← get).store.lookup? e s with
  | some v => pure v
  | none => throw (.unbound s.name)

def define (e : Scope) (s : Symbol) (v : Value) : Run Unit :=
  modify fun w => { w with store := w.store.define e s v }

def assign (e : Scope) (s : Symbol) (v : Value) : Run Unit := do
  match (← get).store.home? e s with
  | some i => modify fun w => { w with store := w.store.put i s v }
  | none => throw (.unbound s.name)

def newChild (e : Scope) : Run Scope :=
  modifyGet fun w =>
    let (inner, store) := w.store.newChild e
    (inner, { w with store })

def newClosure (params : List Symbol) (body : List Value) (e : Scope) : Run Value :=
  modifyGet fun w =>
    let (identity, store) := w.store.newClosure
    (.closure identity params body e, { w with store })

def write (text : String) : Run Unit := do
  match (← get).sink.writeFault with
  | some fault => throw (.io fault)
  | none => modify fun w => { w with output := w.output ++ text }
  match (← get).sink.flushFault with
  | some fault => throw (.io fault)
  | none => pure ()

def callExternal (name : String) (slot : Nat) (args : List Value) : Run Value := do
  let w ← get
  match w.externals[slot]? with
  | none => throw (.notApplicable name)
  | some f =>
    set { w with externals := w.externals.setIfInBounds slot { f with calls := f.calls + 1 } }
    ofExcept (f.function (f.calls + 1) args)

end Run

end SmallScheme
