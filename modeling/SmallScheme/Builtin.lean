import SmallScheme.Error
import SmallScheme.Operation

namespace SmallScheme.Builtin

def combine (op : Float → Float → Float) (total v : Value) : Value :=
  match total.number?, v.number? with
  | some x, some y => .number (op x y)
  | _, _ => total

def fold? (op : Float → Float → Float) : List Value → Option Value
  | [] => none
  | v :: vs => some (vs.foldl (combine op) v)

def reduce (op : Float → Float → Float) (alone : Float → Float) (args : List Value) :
    Except Error Value :=
  match args with
  | [.number x] => .ok (.number (alone x))
  | args =>
    match fold? op args with
    | some v => .ok v
    | none => .error (.arity 1 0 none)

def chained {α : Type} (r : α → α → Bool) : List α → Bool
  | x :: y :: rest => r x y && chained r (y :: rest)
  | _ => true

def numbers (procedure : String) : List Value → Except Error (List Float)
  | [] => .ok []
  | v :: vs =>
    match v.number? with
    | none => .error (.wrongType (.notNumber procedure v.typeName) [])
    | some x => (numbers procedure vs).map (x :: ·)

def compare (procedure : String) (r : Float → Float → Bool) (args : List Value) :
    Except Error Value :=
  (numbers procedure args).map fun xs => .bool (chained r xs)

def negation : List Value → Except Error Value
  | [.bool false] => .ok (.bool true)
  | [_] => .ok (.bool false)
  | args => .error (.arity 1 args.length none)

def apply (b : Builtin) (args : List Value) : Except Error Value :=
  match b with
  | add => .ok ((fold? (· + ·) args).getD (.number 0))
  | mul => .ok ((fold? (· * ·) args).getD (.number 1))
  | sub => reduce (· - ·) (- ·) args
  | div => reduce (· / ·) (1 / ·) args
  | equal => .ok (.bool (chained Value.equal args))
  | less => compare b.name (fun x y => decide (x < y)) args
  | greater => compare b.name (fun x y => decide (y < x)) args
  | atMost => compare b.name (fun x y => decide (x ≤ y)) args
  | atLeast => compare b.name (fun x y => decide (y ≤ x)) args
  | not => negation args

end SmallScheme.Builtin
