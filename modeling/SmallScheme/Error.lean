import SmallScheme.Value

namespace SmallScheme

inductive ReadFault where
  | invalidSyntax
  | unmatchedParen
  | incomplete
  | tooDeeplyNested
  | trailingContent
deriving DecidableEq

structure ReadError where
  fault : ReadFault
  message : String
  context : Option String
  found : Option String
deriving DecidableEq

inductive ParameterFault where
  | repeated (name : String)
  | notSymbol (written : String)
  | notList (written : String)
  | other (text : String)
deriving DecidableEq

inductive TypeFault where
  | expected (wanted got : String)
  | notNumber (procedure got : String)
  | other (text : String)
deriving DecidableEq

inductive EvalFault where
  | tooDeep
  | emptyForm
  | other (text : String)
deriving DecidableEq

def depthLimit : Nat := 256

inductive Error where
  | read (e : ReadError)
  | unbound (name : String)
  | defineTarget (written : String)
  | assignTarget (written : String)
  | parameters (fault : ParameterFault)
  | conditional (form : String)
  | arity (expected got : Nat) (form : Option String)
  | notApplicable (written : String)
  -- The trail holds the forms that were being evaluated, innermost first.
  | wrongType (fault : TypeFault) (trail : List String)
  | evaluation (fault : EvalFault) (trail : List String)
  | io (fault : String)
deriving DecidableEq

namespace ParameterFault

def message : ParameterFault → String
  | repeated name => "duplicate parameter name: " ++ name
  | notSymbol written => "lambda parameters must be symbols, got " ++ written
  | notList written => "lambda parameters must be a list, got " ++ written
  | other text => text

end ParameterFault

namespace TypeFault

def message : TypeFault → String
  | expected wanted got => "expected " ++ wanted ++ ", got " ++ got
  | notNumber procedure got => procedure ++ " requires numbers, got " ++ got
  | other text => text

end TypeFault

namespace EvalFault

def message : EvalFault → String
  | tooDeep => "Evaluation depth limit exceeded (max: " ++ toString depthLimit ++ ")"
  | emptyForm => "cannot evaluate empty list"
  | other text => text

end EvalFault

namespace ReadError

def report (e : ReadError) : String :=
  "ParseError: " ++ e.message
    ++ (match e.found with | some found => "\nFound: " ++ found | none => "")
    ++ (match e.context with | some context => "\nContext: " ++ context | none => "")

end ReadError

namespace Error

def trailText (trail : List String) : String :=
  String.join (trail.map fun form => "\n  Context: while evaluating: " ++ form)

def message : Error → String
  | read e => e.report
  | unbound name => "Unbound symbol: " ++ name
  | defineTarget written => "InvalidDefineTarget: define requires a symbol in " ++ written
  | assignTarget written => "InvalidSetTarget: set! requires a symbol in " ++ written
  | parameters fault => "InvalidParameterList: " ++ fault.message
  | conditional form =>
    "InvalidIfForm: expected (if cond then) or (if cond then else), got " ++ form
  | arity expected got (some form) =>
    "ArityMismatch: expression " ++ form ++ ": expected " ++ toString expected
      ++ " arguments, got " ++ toString got
  | arity expected got none =>
    "ArityMismatch: procedure expected " ++ toString expected ++ " arguments but got "
      ++ toString got
  | notApplicable written => "NotApplicable: cannot apply " ++ written
  | wrongType fault trail => "Type error: " ++ fault.message ++ trailText trail
  | evaluation fault trail => "EvaluationError: " ++ fault.message ++ trailText trail
  | io fault => "I/O error: " ++ fault

def within (form : String) : Error → Error
  | wrongType fault trail => wrongType fault (trail ++ [form])
  | evaluation fault trail => evaluation fault (trail ++ [form])
  | e => e

end Error

namespace Arity

def check (a : Arity) (count : Nat) : Except Error Unit :=
  match a.broken? count with
  | some bound => .error (.arity bound count none)
  | none => .ok ()

end Arity

namespace Value

def toNumber (v : Value) : Except Error Float :=
  match v.number? with
  | some x => .ok x
  | none => .error (.wrongType (.expected "number" v.typeName) [])

def toBool (v : Value) : Except Error Bool :=
  match v.bool? with
  | some b => .ok b
  | none => .error (.wrongType (.expected "boolean" v.typeName) [])

end Value

end SmallScheme
