import SchedProbe.Command
import SchedProbe.Snapshot.Basic
import SchedProbe.Text.Blank

/-! Commands carried out on a capture, one at a time or from a prompt, and what they show. -/

set_option autoImplicit false

namespace SchedProbe.CommandLine

structure Output where
  lines : List String := []
  notes : List Note := []
  succeeded : Bool := true
  deriving DecidableEq, Repr

/-- One output after another; both have to go well. -/
def Output.append (first second : Output) : Output :=
  ⟨first.lines ++ second.lines, first.notes ++ second.notes, first.succeeded && second.succeeded⟩

instance : Append Output := ⟨Output.append⟩

def incompleteMark (failure : Failure) : String :=
  "*** incomplete: " ++ failure.message

def failureLines (failure : Failure) : List String :=
  failure.partialLines ++ if failure.isPartial then [incompleteMark failure] else []

def Output.ofResult (notes : List Note) : Except Failure (List String) → Output
  | .ok lines => { lines, notes }
  | .error failure =>
    { lines := failureLines failure, notes := notes ++ [⟨.error, failure.message⟩],
      succeeded := false }

def runCommand (registry : Registry) (snapshot : Snapshot) (name : String) : Output :=
  let probe := (registry.invoke name).run
  .ofResult (probe.notes Snapshot.target snapshot) (probe.result Snapshot.target snapshot)

def listLine (name description : String) : String :=
  "  " ++ Text.alignLeft 12 name ++ " " ++ description

def listing (registry : Registry) : List String :=
  registry.commands.map fun command => listLine command.name command.description

def banner (registry : Registry) : List String :=
  ["", "Commands:"] ++ listing registry ++ [listLine "quit" "Exit", ""]

inductive Request where
  | nothing
  | leave
  | list
  | invoke (name : String)
  deriving DecidableEq, Repr

def Request.ofLine (line : String) : Request :=
  let word := Text.trim line
  if word = "" then nothing
  else if word = "quit" ∨ word = "exit" then leave
  else if word = "list" ∨ word = "help" then list
  else invoke word

inductive Response where
  | proceed (output : Output)
  | stop (output : Output)

def lineText? (bytes : List UInt8) : Option String :=
  String.fromUTF8? ⟨bytes.toArray⟩

/-- Answer one line of input, given as bytes. A line that is no text ends the session as a failure. -/
def respond (registry : Registry) (snapshot : Snapshot) (bytes : List UInt8) : Response :=
  match lineText? bytes with
  | none =>
    .stop { notes := [⟨.error, "writing output: stream did not contain valid UTF-8"⟩],
            succeeded := false }
  | some line =>
    match Request.ofLine line with
    | .nothing => .proceed {}
    | .leave => .stop {}
    | .list => .proceed { lines := listing registry }
    | .invoke name => .proceed (runCommand registry snapshot name)

/-- A prompt, with the bytes of the line that is open, the last one first; or one that has been left. -/
inductive Prompt where
  | asking (reversed : List UInt8)
  | left
  deriving DecidableEq, Repr

def Response.next : Response → Prompt × Output
  | proceed output => (.asking [], output)
  | stop output => (.left, output)

namespace Prompt

variable (registry : Registry) (snapshot : Snapshot)

def take (byte : UInt8) : Prompt → Prompt × Output
  | asking reversed =>
    if byte = 0x0a then (respond registry snapshot reversed.reverse).next
    else (asking (byte :: reversed), {})
  | left => (left, {})

/-- What the end of the input shows. It ends an open line too, unless that is empty. -/
def finish : Prompt → Output
  | asking [] | left => {}
  | asking reversed => (respond registry snapshot reversed.reverse).next.2

def session : Prompt → List UInt8 → Output
  | prompt, [] => prompt.finish registry snapshot
  | prompt, byte :: rest =>
    let (next, output) := prompt.take registry snapshot byte
    output ++ next.session rest

end Prompt

def promptSession (registry : Registry) (snapshot : Snapshot) (input : List UInt8) : Output :=
  { lines := banner registry } ++ (Prompt.asking []).session registry snapshot input

end SchedProbe.CommandLine
