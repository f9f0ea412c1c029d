import SmallScheme.Listing
import SmallScheme.Proofs.Named.Evaluation
import SmallScheme.Session

namespace SmallScheme.Named

namespace Reader

open SmallScheme.Reader (Atom Failure Lexeme nestingLimit)

def atom : Atom → Value
  | .bool b => .bool b
  | .number x => .number x
  | .name text => .symbol text

structure Progress where
  pending : List (List Char × List Value)
  forms : List Value

namespace Progress

def add (p : Progress) (v : Value) : Progress :=
  match p.pending with
  | [] => { p with forms := v :: p.forms }
  | (start, vs) :: os => { p with pending := (start, v :: vs) :: os }

def inside (p : Progress) (l : Lexeme) (next : Except Failure Progress) :
    Except Failure Progress :=
  if p.pending.length < nestingLimit then next else .error ⟨.tooDeep, l.start⟩

def close (p : Progress) (l : Lexeme) : Except Failure Progress :=
  match p.pending with
  | [] => .error ⟨.unexpectedClose, l.start⟩
  | (_, vs) :: os => .ok ({ p with pending := os }.add (.list vs.reverse))

def step (p : Progress) (l : Lexeme) : Except Failure Progress :=
  match l.token with
  | .closing => p.close l
  | .opening => p.inside l (.ok { p with pending := (l.start, []) :: p.pending })
  | .string body => p.inside l (.ok (p.add (.string (String.ofList body))))
  | .atom name => p.inside l (.ok (p.add (atom (Atom.ofChars name))))
  | .unterminated => p.inside l (.error ⟨.unterminated, l.start⟩)
  | .stray => p.inside l (.error ⟨.invalid, l.start⟩)

def finish (p : Progress) : Except Failure Unit :=
  match p.pending with
  | [] => .ok ()
  | (start, _) :: _ => .error ⟨.unclosed, start⟩

def run (p : Progress) : List Lexeme → Except Failure (List Value)
  | [] => p.finish.map fun _ => p.forms.reverse
  | l :: ls =>
    match p.step l with
    | .error failure => .error failure
    | .ok q => q.run ls

def runFirst (p : Progress) : List Lexeme → Except Failure (Option Value)
  | [] => p.finish.map fun _ => p.forms.head?
  | l :: ls =>
    match p.step l with
    | .error failure => .error failure
    | .ok q =>
      if q.forms.isEmpty then q.runFirst ls
      else
        match ls with
        | [] => .ok q.forms.head?
        | l :: _ => .error (SmallScheme.Reader.excess l)

end Progress

def readAll (comments : Bool) (text : String) : Except ReadError (List Value) :=
  ((⟨[], []⟩ : Progress).run (SmallScheme.Reader.lexemes comments text.toList)).mapError
    (·.report text.toList)

def read (comments : Bool) (text : String) : Except ReadError (Option Value) :=
  ((⟨[], []⟩ : Progress).runFirst (SmallScheme.Reader.lexemes comments text.toList)).mapError
    (·.report text.toList)

end Reader

structure Session where
  world : World
  global : Scope
  comments : Bool

namespace Session

abbrev Action := EStateM Error Session

def define (name : String) (v : Value) (s : Session) : Session :=
  { s with world := { s.world with store := s.world.store.put s.global.frame name v } }

def start (sink : Sink) : Session :=
  let s : Session := ⟨⟨⟨#[[]], 0⟩, sink, ""⟩, ⟨0, []⟩, false⟩
  let display := SmallScheme.Session.displayProcedure
  (Builtin.all.foldl (fun s b => s.define b.name (.host b.procedure)) s).define display.name
    (.host display)

def lookup (name : String) (s : Session) : Except Error Value :=
  match s.world.store.lookup? s.global name with
  | none => .error (.unbound name)
  | some v => .ok v

def newScope (e : Scope) (s : Session) : Scope × Session :=
  (⟨s.world.store.frames.size, e.chain⟩,
    { s with world := { s.world with store := s.world.store.newFrame } })

def perform {α : Type} (run : Run α) : Action α := fun s =>
  match run s.world with
  | .ok a world => .ok a { s with world }
  | .error e world => .error e { s with world }

def reading {α : Type} (reader : Bool → Except ReadError α) : Action α := fun s =>
  match reader s.comments with
  | .ok a => .ok a s
  | .error e => .error (.read e) s

def read (text : String) : Action (Option Value) :=
  reading fun comments => Reader.read comments text

def readAll (text : String) : Action (List Value) :=
  reading fun comments => Reader.readAll comments text

def evaluateText (text : String) (e : Scope) : Action Value := do
  match ← read text with
  | some x => perform (named.evaluate x e)
  | none => pure .unspecified

def runText (text : String) : Action Value := do
  let forms ← readAll text
  let s ← get
  perform (named.sequence named.evaluate s.global .unspecified forms)

end Session

end SmallScheme.Named
