/-! Plain text: terminal control sequences and control characters left out. A sequence starts
with an escape; its next character tells how far it goes. -/

namespace SmallScheme.Text

namespace ControlSequence

inductive State where
  | ground
  | escape
  | intermediate
  | parameters
  | device
  | deviceParameters
  | deviceIntermediate
  | command
  | string
deriving DecidableEq

def isBetween (low high : Nat) (c : Char) : Bool :=
  decide (low ≤ c.toNat) && decide (c.toNat ≤ high)

def isSpacing (c : Char) : Bool :=
  c == '\t' || c == '\n' || c == '\x0C' || c == '\r'

def terminator : UInt8 := 0x9C

def anywhere? (c : Char) : Option State :=
  if c == '\x18' || c == '\x1A' then some .ground
  else if c == '\x1B' then some .escape
  else none

def afterEscape (c : Char) : State :=
  if isBetween 0x20 0x2F c then .intermediate
  else if c == '[' then .parameters
  else if c == ']' then .command
  else if c == 'P' then .device
  else if c == 'X' || c == '^' || c == '_' then .string
  else if isBetween 0x30 0x7E c then .ground
  else .escape

def afterDevice (c : Char) : State :=
  if isBetween 0x20 0x2F c then .deviceIntermediate
  else if isBetween 0x30 0x3F c then .deviceParameters
  else if isBetween 0x40 0x7E c then .string
  else .device

def next (s : State) (c : Char) : State :=
  (anywhere? c).getD <|
    match s with
    | .ground => .ground
    | .escape => afterEscape c
    | .intermediate => if isBetween 0x30 0x7E c then .ground else .intermediate
    | .parameters => if isBetween 0x40 0x7E c then .ground else .parameters
    | .device => afterDevice c
    | .deviceParameters =>
      if isBetween 0x20 0x2F c then .deviceIntermediate
      else if isBetween 0x3C 0x7E c then .string
      else .deviceParameters
    | .deviceIntermediate => if isBetween 0x30 0x7E c then .string else .deviceIntermediate
    | .command => if c == '\x07' then .ground else .command
    | .string => if (String.utf8EncodeChar c).contains terminator then .ground else .string

def shows (s : State) (c : Char) : Bool :=
  match s with
  | .ground => isSpacing c || (decide (0x20 ≤ c.toNat) && c != '\x7F')
  | .escape | .intermediate | .parameters => isSpacing c
  | .device | .deviceParameters | .deviceIntermediate | .command | .string => false

structure Cursor where
  state : State
  showing : Bool
deriving DecidableEq

namespace Cursor

def start : Cursor := ⟨.ground, false⟩

def shown (s : State) (c : Char) : Cursor :=
  ⟨if c.toNat < 0x80 then s else .ground, true⟩

def skip (s : State) (c : Char) : Bool × Cursor :=
  if shows s c then (true, shown (next s c) c) else (false, ⟨next s c, false⟩)

def step (x : Cursor) (c : Char) : Bool × Cursor :=
  if x.showing then
    if shows .ground c then (true, shown x.state c)
    else skip ((anywhere? c).getD x.state) c
  else skip x.state c

end Cursor

def plainFrom (x : Cursor) : List Char → List Char
  | [] => []
  | c :: cs =>
    match x.step c with
    | (true, y) => c :: plainFrom y cs
    | (false, y) => plainFrom y cs

end ControlSequence

def plain (text : String) : String :=
  String.ofList (ControlSequence.plainFrom .start text.toList)

end SmallScheme.Text
