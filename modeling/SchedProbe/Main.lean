import SchedProbe.CommandLine.Run

/-! The program: words, files and standard input in; lines, log and exit code out. -/

set_option autoImplicit false

namespace SchedProbe

open CommandLine

def usage : String :=
  "usage: [-c FILE] [--task-name ID=LABEL]... [--timer-name ID=LABEL]... [--per-task-timing]\n" ++
  "       [-l LEVEL] -s FILE (task-trace | task-queue | timer-trace | timer-dump | list | repl)"

def Level.name : Level → String
  | error => "ERROR"
  | warn => "WARN"
  | info => "INFO"
  | debug => "DEBUG"
  | trace => "TRACE"

def readText (path : String) : IO (Except String String) := do
  try
    return .ok (← IO.FS.readFile path)
  catch fault =>
    return .error (toString fault)

def readFiles (arguments : Arguments) : IO Files := do
  let snapshot ← readText arguments.snapshot
  let config ← match arguments.options.config with
    | some path => readText path
    | none => pure snapshot
  return {
    text := fun path => if path = arguments.snapshot then snapshot else config
    noConfig := fun _ => "not a configuration"
    noSnapshot := fun _ => "not a snapshot" }

def present (level : Level) (output : Output) : IO Unit := do
  let stdout ← IO.getStdout
  stdout.putStr output.text
  stdout.flush
  for note in output.shown level do
    IO.eprintln (Text.alignRight ' ' 5 note.level.name ++ " " ++ note.text)

/-- Give a prompt the bytes of standard input as they come. The result says whether all went well. -/
partial def converse (level : Level) (loaded : Loaded) (prompt : Prompt) (succeeded : Bool) : IO Bool := do
  if prompt = .left then return succeeded
  let registry := Registry.standard loaded.config
  match (← (← IO.getStdin).read 1).toList with
  | [] =>
    let output := prompt.finish registry loaded.snapshot
    present level output
    return succeeded && output.succeeded
  | byte :: _ =>
    let (next, output) := prompt.take registry loaded.snapshot byte
    present level output
    converse level loaded next (succeeded && output.succeeded)

end SchedProbe

open SchedProbe CommandLine in
def main (words : List String) : IO UInt32 := do
  match Arguments.ofWords? words with
  | none =>
    IO.eprintln usage
    return usageExitCode.toUInt32
  | some arguments =>
    let files ← readFiles arguments
    -- Without input, a run of the prompt is its opening.
    let output := run arguments files []
    present arguments.level output
    match arguments.action, load files arguments with
    | .prompt, .ok loaded =>
      return if ← converse arguments.level loaded (.asking []) output.succeeded then 0 else 1
    | _, _ => return output.exitCode.toUInt32
