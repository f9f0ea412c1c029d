import SmallScheme.CommandLine.Console

namespace SmallScheme.CommandLine

def FileFault.ofCode? (code : UInt32) : Option FileFault :=
  match code with
  | 2 => some .missing
  | 20 => some .notFolder
  | 21 => some .folder
  | 36 => some .nameTooLong
  | _ => none

def codeOf : IO.Error → UInt32
  | .noFileOrDirectory _ code _ | .inappropriateType _ code _ | .invalidArgument _ code _ =>
    if code < 0x80000000 then code else 0 - code
  | _ => 0

def faultOf (e : IO.Error) : String :=
  match FileFault.ofCode? (codeOf e) with
  | some fault => fault.message
  | none => toString e

def textAt (path : String) : IO (Except String String) := do
  try
    return (Entry.file (← IO.FS.readBinFile path).toList).text.mapError FileFault.message
  catch e => return .error (faultOf e)

def diskOf (paths : List String) : IO Disk := do
  let texts ← paths.mapM fun path => return (path, ← textAt path)
  let historyFault ← match ← textAt Prompt.historyFile with
    | .error fault => pure (if fault = FileFault.folder.message then some fault else none)
    | .ok _ => pure none
  let text (path : String) := (texts.lookup path).getD (.error FileFault.missing.message)
  return { text, historyFault }

def flush (c : Console) : IO Console := do
  let output ← IO.getStdout
  output.putStr c.output
  output.flush
  (← IO.getStderr).putStr c.errors
  return { c with output := "", errors := "" }

partial def readLineBytes (input : IO.FS.Stream) (line : ByteArray) : IO ByteArray := do
  let byte ← input.read 1
  if byte.isEmpty || byte = ⟨#[Text.newline]⟩ then return line ++ byte
  else readLineBytes input (line ++ byte)

def readLine? : IO (Option String) := do
  return String.fromUTF8? (← readLineBytes (← IO.getStdin) .empty)

partial def converseLive (disk : Disk) (c : Console) : IO UInt32 := do
  let c ← flush (c.print Prompt.mark)
  match ← readLine? with
  | none =>
    discard <| flush (c.complain Console.undecodable)
    return 1
  | some "" =>
    discard <| flush ((c.print Prompt.farewell).keepHistory disk)
    return 0
  | some line =>
    let (goesOn, c) := c.respond line
    if goesOn then converseLive disk c
    else
      discard <| flush (c.keepHistory disk)
      return 0

def runLive (o : Options) : IO UInt32 := do
  let disk ← diskOf o.files
  let filter := filterFor (← IO.getEnv "RUST_LOG") o.verbose
  let (succeeded, c) := (Console.start filter).runBatch disk o
  let c ← flush c
  if o.wantsPrompt then converseLive disk (c.print Prompt.banner)
  else return (status succeeded).toUInt32

end SmallScheme.CommandLine

def main (args : List String) : IO UInt32 := do
  match SmallScheme.CommandLine.Options.parse args with
  | .ok (some o) => SmallScheme.CommandLine.runLive o
  | _ =>
    let report := SmallScheme.CommandLine.run args ⟨fun _ => .ok "", none⟩ [] none
    (← IO.getStdout).putStr report.output
    (← IO.getStderr).putStr report.errors
    return report.status.toUInt32
