import SmallScheme.Error
import SmallScheme.Reader.Form

namespace SmallScheme

namespace Text

def charsBefore : Nat → List Char → Nat
  | _, [] => 0
  | 0, _ :: _ => 0
  | offset + 1, c :: cs => charsBefore (offset + 1 - c.utf8Size) cs + 1

def onOneLine (cs : List Char) : List Char :=
  (cs.flatMap fun c => if c == '\n' then ['\\', 'n'] else [c]).filter (· != '\r')

def ellipsis : List Char := "[...]".toList

/-- Up to a hundred characters of `cs`, from twenty before the byte `offset` on. Marks show
what is cut off on either side. -/
def window (cs : List Char) (offset : Nat) : List Char :=
  let first := charsBefore offset cs - 20
  let shown := (cs.drop first).take 100
  onOneLine <|
    (if 0 < first then ellipsis else []) ++ shown
      ++ (if first + shown.length < cs.length then ellipsis else [])

end Text

namespace ReadError

def near (fault : ReadFault) (message : String) (cs : List Char) (offset : Nat)
    (found : Option String) : ReadError :=
  ⟨fault, message, some (String.ofList (Text.window cs offset)), found⟩

def plain (fault : ReadFault) (message : String) : ReadError :=
  ⟨fault, message, none, none⟩

end ReadError

namespace Reader

namespace Cause

def fault : Cause → ReadFault
  | tooDeep => .tooDeeplyNested
  | unexpectedClose => .unmatchedParen
  | unclosed => .unmatchedParen
  | unterminated => .incomplete
  | invalid => .invalidSyntax
  | trailing => .trailingContent

end Cause

namespace Failure

def sample (f : Failure) : String :=
  String.ofList (f.rest.take 10)

def message (f : Failure) (position : Nat) : String :=
  match f.cause with
  | .tooDeep => "Expression too deeply nested (max depth: " ++ toString nestingLimit ++ ")"
  | .unexpectedClose => "Unexpected ')' at position " ++ toString position
  | .unclosed => "Unclosed '(' at position " ++ toString position
  | .unterminated => "Unterminated string starting at position " ++ toString position
  | .invalid => "Invalid syntax near '" ++ f.sample ++ "'"
  | .trailing => "Unexpected remaining input: '" ++ f.sample ++ "'"

def position (f : Failure) (cs : List Char) : Nat :=
  Text.byteLength cs - Text.byteLength f.rest

def report (f : Failure) (cs : List Char) : ReadError :=
  .near f.cause.fault (f.message (f.position cs)) cs (f.position cs)
    (f.rest.head?.map String.singleton)

end Failure

def readAll (comments : Bool) (text : String) (symbols : SymbolTable) :
    Except ReadError (List Value) × SymbolTable :=
  let (outcome, symbols) := forms comments symbols text.toList
  (outcome.mapError (·.report text.toList), symbols)

def read (comments : Bool) (text : String) (symbols : SymbolTable) :
    Except ReadError (Option Value) × SymbolTable :=
  let (outcome, symbols) := form? comments symbols text.toList
  (outcome.mapError (·.report text.toList), symbols)

end Reader

end SmallScheme
