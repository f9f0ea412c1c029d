import SmallScheme.Eval
import SmallScheme.Reader.Report

namespace SmallScheme

structure Session where
  symbols : SymbolTable
  world : World
  global : Scope
  comments : Bool

namespace Session

abbrev Action := EStateM Error Session

def intern (name : String) (s : Session) : Symbol × Session :=
  let (symbol, symbols) := s.symbols.intern name
  (symbol, { s with symbols })

def define (name : String) (v : Value) (s : Session) : Session :=
  let (symbol, s) := s.intern name
  { s with world := { s.world with store := s.world.store.define s.global symbol v } }

def displayProcedure : HostProcedure :=
  ⟨"display", .atLeast 0, .display⟩

def start (sink : Sink) : Session :=
  let symbols := SpecialForm.all.foldl (fun t form => (t.intern form.name).2) .empty
  let world := World.start sink
  let (global, store) := world.store.newRoot
  let s : Session := { symbols, world := { world with store }, global, comments := false }
  (Builtin.all.foldl (fun s b => s.define b.name (.host b.procedure)) s).define
    displayProcedure.name (.host displayProcedure)

def register (name : String) (arity : Arity) (function : HostFunction) (s : Session) :
    Session :=
  let slot := s.world.externals.size
  let world := { s.world with externals := s.world.externals.push ⟨0, function⟩ }
  { s with world }.define name (.host ⟨name, arity, .external slot⟩)

def lookup (name : String) (s : Session) : Except Error Value :=
  match s.symbols.get? name with
  | none => .error (.unbound name)
  | some symbol =>
    match s.world.store.lookup? s.global symbol with
    | none => .error (.unbound name)
    | some v => .ok v

def newScope (e : Scope) (s : Session) : Scope × Session :=
  let (inner, store) := s.world.store.newChild e
  (inner, { s with world := { s.world with store } })

def takeOutput (s : Session) : String × Session :=
  (s.world.output, { s with world := { s.world with output := "" } })

def takeEvents (s : Session) : List Event × Session :=
  (s.world.events.toList, { s with world := { s.world with events := #[] } })

def perform {α : Type} (run : Run α) : Action α := fun s =>
  match run s.world with
  | .ok a world => .ok a { s with world }
  | .error e world => .error e { s with world }

def reading {α : Type} (reader : Bool → SymbolTable → Except ReadError α × SymbolTable) :
    Action α := fun s =>
  match reader s.comments s.symbols with
  | (.ok a, symbols) => .ok a { s with symbols }
  | (.error e, symbols) => .error (.read e) { s with symbols }

def read (text : String) : Action (Option Value) :=
  reading fun comments symbols => Reader.read comments text symbols

def readAll (text : String) : Action (List Value) :=
  reading fun comments symbols => Reader.readAll comments text symbols

def evaluateText (text : String) (e : Scope) : Action Value := do
  match ← read text with
  | some x => perform (evaluate x e)
  | none => pure .unspecified

def runText (text : String) : Action Value := do
  let forms ← readAll text
  perform (Run.note (.running forms.length))
  let s ← get
  perform (Eval.sequence evaluate s.global .unspecified forms)

def load (path : String) (content : Except String String) : Action Value := do
  perform (Run.note (.loading path))
  match content with
  | .ok text => runText text
  | .error fault => throw (.io fault)

def inspectReading (comments : Bool) : String :=
  "ParseConfig \x7b handle_comments: " ++ (if comments then "true" else "false") ++ " \x7d"

def inspectSpecialForms : String :=
  let names := (SpecialForm.all.map SpecialForm.name).mergeSort fun a b => decide (a ≤ b)
  "Evaluator \x7b special_forms: [" ++ ", ".intercalate (names.map Text.quoted) ++ "] \x7d"

def inspect (s : Session) : String :=
  "Interpreter \x7b symbols: " ++ toString s.symbols.size ++ ", global: "
    ++ s.world.store.inspectScope s.global ++ ", parse_config: " ++ inspectReading s.comments
    ++ ", .. \x7d"

end Session

end SmallScheme
