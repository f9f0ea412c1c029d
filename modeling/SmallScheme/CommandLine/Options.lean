namespace SmallScheme.CommandLine

structure Options where
  files : List String
  expressions : List String
  interactive : Bool
  verbose : Bool
deriving DecidableEq

structure MissingValue where
  option : String
deriving DecidableEq

namespace MissingValue

def message (e : MissingValue) : String :=
  "the '" ++ e.option ++ "' option doesn't have an associated value"

end MissingValue

def takeFlag : List String → List String → Bool × List String
  | [], args => (false, args)
  | name :: names, args =>
    if args.contains name then (true, args.erase name) else takeFlag names args

def takeValues (option : String) : List String → Except MissingValue (List String × List String)
  | [] => .ok ([], [])
  | [arg] => if arg = option then .error ⟨option⟩ else .ok ([], [arg])
  | arg :: value :: rest =>
    if arg = option then
      (takeValues option rest).map fun (values, others) => (value :: values, others)
    else
      (takeValues option (value :: rest)).map fun (values, others) => (values, arg :: others)

namespace Options

def parse (args : List String) : Except MissingValue (Option Options) :=
  let (help, args) := takeFlag ["-h", "--help"] args
  if help then .ok none
  else do
    let (interactive, args) := takeFlag ["-i", "--interactive"] args
    let (verbose, args) := takeFlag ["-v", "--verbose"] args
    let (short, args) ← takeValues "-e" args
    let (long, files) ← takeValues "--eval" args
    .ok (some { files, expressions := short ++ long, interactive, verbose })

def wantsPrompt (o : Options) : Bool :=
  o.interactive || (o.files.isEmpty && o.expressions.isEmpty)

end Options

def help : String :=
  "miniscm: a small Scheme interpreter\n"
    ++ "\n"
    ++ "USAGE:\n"
    ++ "  miniscm [OPTIONS] [FILE]...\n"
    ++ "\n"
    ++ "Files are run in order in one session. With no file and no -e, the REPL starts.\n"
    ++ "\n"
    ++ "OPTIONS:\n"
    ++ "  -e, --eval EXPR      Evaluate EXPR and print its value (repeatable)\n"
    ++ "  -i, --interactive    Start the REPL after running files and expressions\n"
    ++ "  -v, --verbose        Log definitions and assignments (same as RUST_LOG=debug)\n"
    ++ "  -h, --help           Print this help\n"

end SmallScheme.CommandLine
