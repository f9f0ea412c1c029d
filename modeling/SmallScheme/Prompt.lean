import SmallScheme.Listing
import SmallScheme.Session
import SmallScheme.Text.Blank

namespace SmallScheme

inductive Command where
  | help
  | listing
  | quit
  | unknown (text : String)
  | evaluate (text : String)
  | blank
deriving DecidableEq

namespace Command

def ofLine (line : String) : Command :=
  let text := String.ofList (Text.trim line.toList)
  if text = "" then blank
  else if text = ":help" then help
  else if text = ":env" then listing
  else if text = ":quit" ∨ text = ":exit" then quit
  else if text.toList.head? = some ':' then unknown text
  else evaluate text

def isBlank (c : Command) : Bool :=
  c == blank

end Command

namespace Prompt

def banner : String :=
  "miniscm: a small Scheme interpreter\n"
    ++ "Enter S-expressions like: (+ 1 2)\n"
    ++ "Type :help for more commands, or Ctrl+D to exit.\n"
    ++ "\n"

def mark : String := "miniscm> "

def farewell : String := "Goodbye!\n"

def historyFile : String := ".miniscm_history"

def help : String :=
  "Commands:\n"
    ++ "  :help      - Show this help message\n"
    ++ "  :env       - Show current environment bindings\n"
    ++ "  :quit      - Exit the interpreter\n"
    ++ "  :exit      - Exit the interpreter\n"
    ++ "  Ctrl+D     - Exit the interpreter\n"
    ++ "\n"
    ++ "Special forms:\n"
    ++ "  (define name expr)          (set! name expr)\n"
    ++ "  (lambda (param ...) body ...)\n"
    ++ "  (if test then [else])       only #t selects the then-branch\n"
    ++ "\n"
    ++ "Procedures:\n"
    ++ "  Arithmetic: +, -, *, /\n"
    ++ "  Comparison: =, <, >, <=, >=\n"
    ++ "  Logic: not\n"
    ++ "  Output: display\n"
    ++ "\n"
    ++ "Examples:\n"
    ++ "  (define fact (lambda (n) (if (< n 2) 1 (* n (fact (- n 1))))))\n"
    ++ "  (fact 5)\n"
    ++ "\n"

def resultLine (v : Value) : String :=
  if v.isUnspecified then "" else v.written ++ "\n"

def evaluate (text : String) (s : Session) : String × Session :=
  match Session.runText text s with
  | .ok v s =>
    let (displayed, s) := s.takeOutput
    (displayed ++ resultLine v, s)
  | .error e s =>
    let (displayed, s) := s.takeOutput
    (displayed ++ "Error: " ++ e.message ++ "\n", s)

def answer (c : Command) (s : Session) : String × Session :=
  match c with
  | .help => (help, s)
  | .listing => (s.world.store.listing s.global, s)
  | .quit => (farewell, s)
  | .unknown text => ("Unknown command " ++ text ++ "; type :help for a list\n", s)
  | .evaluate text => evaluate text s
  | .blank => ("", s)

inductive Ending where
  | done
  | undecodable
deriving DecidableEq

def converse (s : Session) : List (Option String) → Ending × String × Session
  | [] => (.done, mark ++ farewell, s)
  | none :: _ => (.undecodable, mark, s)
  | some line :: rest =>
    let c := Command.ofLine line
    let (text, s) := answer c s
    if c = .quit then (.done, mark ++ text, s)
    else
      let (ending, more, s) := converse s rest
      (ending, mark ++ text ++ more, s)

end Prompt

end SmallScheme
