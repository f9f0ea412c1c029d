import SmallScheme.CommandLine.Folder
import SmallScheme.CommandLine.Options
import SmallScheme.Log
import SmallScheme.Prompt
import SmallScheme.Text.Typed

/-! A whole run of the command line: files, then expressions, then the prompt, all in one
session, with what goes to the output, what to the error output, and the exit status. -/

namespace SmallScheme.CommandLine

structure Console where
  session : Session
  filter : Log.Filter
  output : String
  errors : String
  entered : Bool

namespace Console

def start (filter : Log.Filter) : Console :=
  { session := { Session.start .collecting with comments := true }, filter, output := "",
    errors := "", entered := false }

def print (text : String) (c : Console) : Console :=
  { c with output := c.output ++ text }

def complain (text : String) (c : Console) : Console :=
  { c with errors := c.errors ++ text }

def resume (s : Session) (c : Console) : Console :=
  let (displayed, s) := s.takeOutput
  let (events, s) := s.takeEvents
  { c with session := s }.print displayed |>.complain (Log.render c.filter events)

def perform (action : Session.Action Value) (c : Console) : Except Error Value × Console :=
  match action c.session with
  | .ok v s => (.ok v, c.resume s)
  | .error e s => (.error e, c.resume s)

def runFiles (disk : Disk) (c : Console) : List String → Bool × Console
  | [] => (true, c)
  | path :: rest =>
    match c.perform (Session.load path (disk.text path)) with
    | (.ok _, c) => c.runFiles disk rest
    | (.error e, c) => (false, c.complain (path ++ ": " ++ e.message ++ "\n"))

def runExpressions (c : Console) : List String → Bool × Console
  | [] => (true, c)
  | text :: rest =>
    match c.perform (Session.runText text) with
    | (.ok v, c) => (c.print (Prompt.resultLine v)).runExpressions rest
    | (.error e, c) => (false, c.complain ("Error: " ++ e.message ++ "\n"))

def runBatch (disk : Disk) (o : Options) (c : Console) : Bool × Console :=
  match c.runFiles disk o.files with
  | (true, c) => c.runExpressions o.expressions
  | (false, c) => (false, c)

def respond (line : String) (c : Console) : Bool × Console :=
  let command := Command.ofLine (Text.typed line)
  let (text, s) := Prompt.answer command c.session
  let c := { c with entered := c.entered || !command.isBlank }
  (command != .quit, (c.resume s).print text)

def keepHistory (disk : Disk) (c : Console) : Console :=
  match disk.historyFault with
  | some fault =>
    if c.entered then
      c.complain (Log.render c.filter [.historyLost Prompt.historyFile fault])
    else c
  | none => c

def undecodable : String :=
  "REPL error: " ++ (Error.io FileFault.undecodable.message).message ++ "\n"

def isEntered (line : Option String) : Bool :=
  line.any fun text => !(Command.ofLine text).isBlank

def converse (disk : Disk) (lines : List (Option String)) (c : Console) : Bool × Console :=
  let lines := lines.map (·.map Text.typed)
  let (ending, text, s) := Prompt.converse c.session lines
  let c := { c with entered := c.entered || lines.any isEntered }
  let c := (c.resume s).print (Prompt.banner ++ text)
  match ending with
  | .done => (true, c.keepHistory disk)
  | .undecodable => (false, c.complain undecodable)

end Console

structure Report where
  status : Nat
  output : String
  errors : String
deriving DecidableEq

def filterFor (setting : Option String) (verbose : Bool) : Log.Filter :=
  .ofText (setting.getD (if verbose then "debug" else "warn"))

def status (succeeded : Bool) : Nat :=
  if succeeded then 0 else 1

def usageFault (e : MissingValue) : Report :=
  { status := 2, output := "", errors := "miniscm: " ++ e.message ++ "\n" ++ help }

def runOptions (o : Options) (disk : Disk) (input : List UInt8) (setting : Option String) :
    Report :=
  let (succeeded, c) := (Console.start (filterFor setting o.verbose)).runBatch disk o
  if o.wantsPrompt then
    let (ended, c) := c.converse disk (Text.lines input)
    { status := status ended, output := c.output, errors := c.errors }
  else { status := status succeeded, output := c.output, errors := c.errors }

def run (args : List String) (disk : Disk) (input : List UInt8) (setting : Option String) :
    Report :=
  match Options.parse args with
  | .error e => usageFault e
  | .ok none => { status := 0, output := help, errors := "" }
  | .ok (some o) => runOptions o disk input setting

end SmallScheme.CommandLine
