import SchedProbe.CommandLine.Arguments
import SchedProbe.CommandLine.Session
import SchedProbe.Config.Codec
import SchedProbe.Config.Merge
import SchedProbe.Snapshot.Codec

/-! A run of the program: configuration and capture are loaded, then the action is carried out. -/

set_option autoImplicit false

namespace SchedProbe.CommandLine

/-- The files of a run: their texts by their paths, or what the system says of one it does not read, and what
the JSON reader says of a text that holds no configuration or no snapshot. -/
structure Files where
  text : String → Except String String
  noConfig : String → String
  noSnapshot : String → String

def loadConfig (files : Files) (path : String) : Except InputError Config :=
  match files.text path with
  | .ok text => Config.ofText files.noConfig text
  | .error detail => .error (.unreadable detail)

def loadSnapshot (files : Files) (path : String) : Except InputError Snapshot :=
  match files.text path with
  | .ok text => Snapshot.ofText files.noSnapshot text
  | .error detail => .error (.unreadable detail)

/-- The configuration of a run: the file's, if one is given, under the options' names and timing. -/
def configFor (files : Files) (options : Options) : Except InputError Config := do
  let config ← match options.config with
    | some path => loadConfig files path
    | none => .ok {}
  config.merge options.taskNames options.timerNames options.perTaskTiming

def timingName : RunTiming → String
  | .legacy => "Legacy"
  | .perTask => "PerTask"

def rejected (message : String) : Output :=
  { notes := [⟨.error, message⟩], succeeded := false }

def loadedNote (path : String) (snapshot : Snapshot) : Note :=
  ⟨.debug, "Loaded snapshot " ++ path ++ " (" ++ Text.decimal snapshot.scalars.size ++ " scalars, " ++
    Text.decimal snapshot.arrays.size ++ " arrays)"⟩

def startNote : Note :=
  ⟨.info, "tosview 0.1.0 starting"⟩

structure Loaded where
  config : Config
  snapshot : Snapshot

/-- Load what a run needs, or say why that failed. The configuration is loaded first. -/
def load (files : Files) (arguments : Arguments) : Except String Loaded :=
  match configFor files arguments.options with
  | .error error => .error ("configuration: " ++ error.message)
  | .ok config =>
    match loadSnapshot files arguments.snapshot with
    | .error error => .error ("snapshot " ++ arguments.snapshot ++ ": " ++ error.message)
    | .ok snapshot => .ok ⟨config, snapshot⟩

def loadedNotes (arguments : Arguments) (loaded : Loaded) : List Note :=
  [loadedNote arguments.snapshot loaded.snapshot,
    ⟨.debug, "run timing: " ++ timingName loaded.config.runTiming⟩]

def perform (registry : Registry) (snapshot : Snapshot) (input : List UInt8) : Action → Output
  | .invoke name => runCommand registry snapshot name
  | .list => { lines := listing registry }
  | .prompt => promptSession registry snapshot input

def run (arguments : Arguments) (files : Files) (input : List UInt8) : Output :=
  let start : Output := { notes := [startNote] }
  match load files arguments with
  | .error message => start ++ rejected message
  | .ok loaded =>
    start ++ { notes := loadedNotes arguments loaded } ++
      perform (.standard loaded.config) loaded.snapshot input arguments.action

def Output.shown (output : Output) (level : Level) : List Note :=
  (output.notes.filter fun note => note.level.rank ≤ level.rank).map Note.shown

def Output.exitCode (output : Output) : UInt8 :=
  if output.succeeded then 0 else 1

def Output.text (output : Output) : String :=
  String.join (output.lines.map (· ++ "\n"))

def usageExitCode : UInt8 := 2

end SchedProbe.CommandLine
