import SmallScheme.Text.Blank
import SmallScheme.Text.ControlSequence
import SmallScheme.Text.Split
import SmallScheme.World

namespace SmallScheme.Log

inductive Level where
  | error
  | warn
  | info
  | debug
  | trace
deriving DecidableEq

namespace Level

def all : List Level :=
  [error, warn, info, debug, trace]

def rank : Level → Nat
  | error => 1
  | warn => 2
  | info => 3
  | debug => 4
  | trace => 5

def name : Level → String
  | error => "error"
  | warn => "warn"
  | info => "info"
  | debug => "debug"
  | trace => "trace"

def label : Level → String
  | error => "ERROR"
  | warn => "WARN "
  | info => "INFO "
  | debug => "DEBUG"
  | trace => "TRACE"

def rankOfName? (name : List Char) : Option Nat :=
  let lower := String.ofList (name.map Char.toLower)
  if lower == "off" then some 0
  else (all.find? fun level => level.name == lower).map rank

end Level

structure Rule where
  target : Option (List Char)
  rank : Nat
deriving DecidableEq

namespace Rule

def ofChars? (item : List Char) : Option Rule :=
  match Text.split '=' (Text.trim item) with
  | [word] =>
    if word.isEmpty then none
    else
      match Level.rankOfName? word with
      | some rank => some ⟨none, rank⟩
      | none => some ⟨some word, Level.trace.rank⟩
  | [target, word] =>
    let word := Text.trim word
    if word.isEmpty then some ⟨some target, Level.trace.rank⟩
    else (Level.rankOfName? word).map fun rank => ⟨some target, rank⟩
  | _ => none

def start (rule : Rule) : List Char :=
  rule.target.getD []

end Rule

structure Filter where
  rules : List Rule
deriving DecidableEq

namespace Filter

def insert (rules : List Rule) (rule : Rule) : List Rule :=
  if rules.any fun r => r.target == rule.target then
    rules.map fun r => if r.target = rule.target then rule else r
  else rules ++ [rule]

def ofText (text : String) : Filter :=
  match ((Text.split ',' text.toList).filterMap Rule.ofChars?).foldl insert [] with
  | [] => ⟨[⟨none, Level.error.rank⟩]⟩
  | rules => ⟨rules⟩

def closer (best : Option Rule) (rule : Rule) : Option Rule :=
  match best with
  | none => some rule
  | some r => if rule.start.length < r.start.length then some r else some rule

def rule? (f : Filter) (target : String) : Option Rule :=
  (f.rules.filter fun rule => rule.start.isPrefixOf target.toList).foldl closer none

def shows (f : Filter) (level : Level) (target : String) : Bool :=
  match f.rule? target with
  | some rule => decide (level.rank ≤ rule.rank)
  | none => false

end Filter

def level : Event → Level
  | .hostCall .. | .closureCall .. => .trace
  | .defined .. | .assigned .. | .running .. | .loading .. => .debug
  | .historyLost .. => .warn

def target : Event → String
  | .hostCall .. | .closureCall .. | .defined .. | .assigned .. => "miniscm::evaluator"
  | .running .. | .loading .. => "miniscm::interpreter"
  | .historyLost .. => "miniscm::repl"

def message : Event → String
  | .hostCall name count =>
    "calling " ++ name ++ " with " ++ toString count ++ " argument(s)"
  | .closureCall arity => "calling #<closure/" ++ toString arity ++ ">"
  | .defined name v => "define " ++ name ++ " = " ++ v.written
  | .assigned name v => "set! " ++ name ++ " = " ++ v.written
  | .running forms => "running program of " ++ toString forms ++ " form(s)"
  | .loading path => "loading " ++ path
  | .historyLost path fault => "could not save history to " ++ path ++ ": " ++ fault

def indented (text : String) : String :=
  String.ofList <| text.toList.flatMap fun c => if c == '\n' then "\n    ".toList else [c]

def line (e : Event) : String :=
  Text.plain <| "[" ++ (level e).label ++ " " ++ target e ++ "] " ++ indented (message e) ++ "\n"

def render (f : Filter) (events : List Event) : String :=
  String.join ((events.filter fun e => f.shows (level e) (target e)).map line)

end SmallScheme.Log
