import SmallScheme.Number.Decimal
import SmallScheme.Reader.Lexeme
import SmallScheme.Value

/-! Forms from lexemes. The reader keeps the lists that are still open, innermost first, and
every name it meets goes into the symbol table at once. -/

namespace SmallScheme.Reader

inductive Atom where
  | bool (b : Bool)
  | number (x : Float)
  | name (text : String)

namespace Atom

def ofChars (cs : List Char) : Atom :=
  if cs = ['#', 't'] then bool true
  else if cs = ['#', 'f'] then bool false
  else
    match Decimal.ofChars? cs with
    | some d => number d.toFloat
    | none => name (String.ofList cs)

end Atom

def nestingLimit : Nat := 128

inductive Cause where
  | tooDeep
  | unexpectedClose
  | unclosed
  | unterminated
  | invalid
  | trailing
deriving DecidableEq

structure Failure where
  cause : Cause
  rest : List Char
deriving DecidableEq

structure OpenList where
  start : List Char
  elements : List Value

/-- How far reading has come; finished forms stand latest first. -/
structure Progress where
  symbols : SymbolTable
  pending : List OpenList
  forms : List Value

namespace Progress

def start (symbols : SymbolTable) : Progress := ⟨symbols, [], []⟩

def add (p : Progress) (v : Value) : Progress :=
  match p.pending with
  | [] => { p with forms := v :: p.forms }
  | o :: os => { p with pending := { o with elements := v :: o.elements } :: os }

def addAtom (p : Progress) : Atom → Progress
  | .bool b => p.add (.bool b)
  | .number x => p.add (.number x)
  | .name text =>
    let (s, symbols) := p.symbols.intern text
    { p with symbols }.add (.symbol s)

def inside (p : Progress) (l : Lexeme) (next : Except Failure Progress) :
    Except Failure Progress :=
  if p.pending.length < nestingLimit then next else .error ⟨.tooDeep, l.start⟩

def close (p : Progress) (l : Lexeme) : Except Failure Progress :=
  match p.pending with
  | [] => .error ⟨.unexpectedClose, l.start⟩
  | o :: os => .ok ({ p with pending := os }.add (.list o.elements.reverse))

def step (p : Progress) (l : Lexeme) : Except Failure Progress :=
  match l.token with
  | .closing => p.close l
  | .opening => p.inside l (.ok { p with pending := ⟨l.start, []⟩ :: p.pending })
  | .string body => p.inside l (.ok (p.add (.string (String.ofList body))))
  | .atom name => p.inside l (.ok (p.addAtom (Atom.ofChars name)))
  | .unterminated => p.inside l (.error ⟨.unterminated, l.start⟩)
  | .stray => p.inside l (.error ⟨.invalid, l.start⟩)

def finish (p : Progress) : Except Failure Unit :=
  match p.pending with
  | [] => .ok ()
  | o :: _ => .error ⟨.unclosed, o.start⟩

/-- Reads to the end. The progress returned with a failure is the one before it. -/
def run (p : Progress) : List Lexeme → Progress × Except Failure Unit
  | [] => (p, p.finish)
  | l :: ls =>
    match p.step l with
    | .error failure => (p, .error failure)
    | .ok q => q.run ls

def runFirst (p : Progress) : List Lexeme → Progress × Except Failure (List Lexeme)
  | [] => (p, p.finish.map fun _ => [])
  | l :: ls =>
    match p.step l with
    | .error failure => (p, .error failure)
    | .ok q => if q.forms.isEmpty then q.runFirst ls else (q, .ok ls)

end Progress

def excess (l : Lexeme) : Failure :=
  ⟨if l.token = .closing then .unexpectedClose else .trailing, l.start⟩

def forms (comments : Bool) (symbols : SymbolTable) (cs : List Char) :
    Except Failure (List Value) × SymbolTable :=
  let (p, outcome) := (Progress.start symbols).run (lexemes comments cs)
  (outcome.map fun _ => p.forms.reverse, p.symbols)

def form? (comments : Bool) (symbols : SymbolTable) (cs : List Char) :
    Except Failure (Option Value) × SymbolTable :=
  let (p, outcome) := (Progress.start symbols).runFirst (lexemes comments cs)
  match outcome with
  | .error failure => (.error failure, p.symbols)
  | .ok [] => (.ok p.forms.head?, p.symbols)
  | .ok (l :: _) => (.error (excess l), p.symbols)

end SmallScheme.Reader
