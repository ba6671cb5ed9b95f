import SchedProbe.ReadyQueue.Inspect
import SchedProbe.TaskTrace.Inspect
import SchedProbe.TimerTable.Inspect
import SchedProbe.TimerTrace.Inspect

/-! Commands by name. A registry lists each name once, in the order of last registration. -/

set_option autoImplicit false

namespace SchedProbe

structure Command where
  name : String
  description : String
  inspection : Inspection (List String)

namespace Command

def announced (name description : String) (inspection : Inspection (List String)) : Command :=
  ⟨name, description, do
    Inspection.log .debug ("invoking " ++ name)
    inspection⟩

def taskTrace (config : Config) : Command :=
  announced "task-trace" "Display the scheduler task trace, oldest first" (TaskTrace.inspect config)

def taskQueue (config : Config) : Command :=
  announced "task-queue" "Display the scheduler ready queue" (ReadyQueue.inspect config)

def timerTrace (config : Config) : Command :=
  announced "timer-trace" "Display the virtual timer trace, oldest first" (TimerTrace.inspect config)

def timerDump (config : Config) : Command :=
  announced "timer-dump" "Display the virtual timer descriptors" (TimerTable.inspect config)

def standard (config : Config) : List Command :=
  [taskTrace config, taskQueue config, timerTrace config, timerDump config]

end Command

structure Registry where
  commands : List Command

namespace Registry

def empty : Registry := ⟨[]⟩

/-- Add a command at the end, in place of one of the same name. -/
def register (registry : Registry) (command : Command) : Registry :=
  ⟨registry.commands.filter (fun other => other.name != command.name) ++ [command]⟩

def standard (config : Config) : Registry :=
  (Command.standard config).foldl register empty

def size (registry : Registry) : Nat :=
  registry.commands.length

def isEmpty (registry : Registry) : Bool :=
  registry.commands.isEmpty

def find? (registry : Registry) (name : String) : Option Command :=
  registry.commands.find? (·.name == name)

def invoke (registry : Registry) (name : String) : Inspection (List String) :=
  match registry.find? name with
  | some command => command.inspection
  | none => throw (.unknownCommand name)

end Registry

end SchedProbe
