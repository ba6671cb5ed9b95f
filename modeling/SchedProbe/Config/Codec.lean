import SchedProbe.Config.Basic
import SchedProbe.Json.Decoding

/-! Configurations as JSON text. What a text leaves out keeps its default.

For each part `ofValue?` reads it off a JSON value and `toValue` writes it as one. -/

set_option autoImplicit false

namespace SchedProbe

open Json (Value fieldOr)

namespace Names

def ofValue? (value : Value) : Option Names := do
  let fields ← value.record? ["overrides"]
  let labels ← fieldOr fields "overrides" ∅ (Value.idMap? Value.text?)
  return ⟨labels⟩

def members (names : Names) : List (String × Value) :=
  [("overrides", .ofMembers (names.labels.toList.map fun entry =>
    (Text.decimal entry.1.toNat, .ofText entry.2)))]

def toValue (names : Names) : Value :=
  .ofMembers names.members

end Names

namespace RunTiming

def name : RunTiming → String
  | legacy => "legacy"
  | perTask => "per-task"

def ofName? (name : String) : Option RunTiming :=
  if name = "legacy" then some legacy else if name = "per-task" then some perTask else none

def ofValue? (value : Value) : Option RunTiming :=
  value.alternative?.bind ofName?

end RunTiming

namespace SchedulerSymbols

def keys : List String :=
  ["tag_post", "tag_run", "tag_end", "num_tasks", "no_task", "trace_next", "trace", "queue_head",
    "queue_tail", "queue_next"]

def ofValue? (value : Value) : Option SchedulerSymbols := do
  let fields ← value.record? keys
  let default : SchedulerSymbols := {}
  let tagPost ← fieldOr fields "tag_post" default.tagPost Value.text?
  let tagRun ← fieldOr fields "tag_run" default.tagRun Value.text?
  let tagEnd ← fieldOr fields "tag_end" default.tagEnd Value.text?
  let numTasks ← fieldOr fields "num_tasks" default.numTasks Value.text?
  let noTask ← fieldOr fields "no_task" default.noTask Value.text?
  let traceNext ← fieldOr fields "trace_next" default.traceNext Value.text?
  let trace ← fieldOr fields "trace" default.trace Value.text?
  let queueHead ← fieldOr fields "queue_head" default.queueHead Value.text?
  let queueTail ← fieldOr fields "queue_tail" default.queueTail Value.text?
  let queueNext ← fieldOr fields "queue_next" default.queueNext Value.text?
  return {
    tagPost, tagRun, tagEnd, numTasks, noTask, traceNext, trace, queueHead, queueTail, queueNext }

def members (symbols : SchedulerSymbols) : List (String × Value) :=
  [("tag_post", .ofText symbols.tagPost), ("tag_run", .ofText symbols.tagRun),
    ("tag_end", .ofText symbols.tagEnd), ("num_tasks", .ofText symbols.numTasks),
    ("no_task", .ofText symbols.noTask), ("trace_next", .ofText symbols.traceNext),
    ("trace", .ofText symbols.trace), ("queue_head", .ofText symbols.queueHead),
    ("queue_tail", .ofText symbols.queueTail), ("queue_next", .ofText symbols.queueNext)]

def toValue (symbols : SchedulerSymbols) : Value :=
  .ofMembers symbols.members

end SchedulerSymbols

namespace TimerSymbols

def keys : List String :=
  ["tag_start_lt", "tag_start_usecs", "tag_stopped", "tag_fired", "tag_end", "tag_delta",
    "trace_next", "trace", "num_timers", "descriptors"]

def ofValue? (value : Value) : Option TimerSymbols := do
  let fields ← value.record? keys
  let default : TimerSymbols := {}
  let tagStartTicks ← fieldOr fields "tag_start_lt" default.tagStartTicks Value.text?
  let tagStartMicros ← fieldOr fields "tag_start_usecs" default.tagStartMicros Value.text?
  let tagStopped ← fieldOr fields "tag_stopped" default.tagStopped Value.text?
  let tagFired ← fieldOr fields "tag_fired" default.tagFired Value.text?
  let tagEnd ← fieldOr fields "tag_end" default.tagEnd Value.text?
  let tagDelta ← fieldOr fields "tag_delta" default.tagDelta Value.text?
  let traceNext ← fieldOr fields "trace_next" default.traceNext Value.text?
  let trace ← fieldOr fields "trace" default.trace Value.text?
  let numTimers ← fieldOr fields "num_timers" default.numTimers Value.text?
  let descriptors ← fieldOr fields "descriptors" default.descriptors Value.text?
  return {
    tagStartTicks, tagStartMicros, tagStopped, tagFired, tagEnd, tagDelta, traceNext, trace,
    numTimers, descriptors }

def members (symbols : TimerSymbols) : List (String × Value) :=
  [("tag_start_lt", .ofText symbols.tagStartTicks),
    ("tag_start_usecs", .ofText symbols.tagStartMicros),
    ("tag_stopped", .ofText symbols.tagStopped), ("tag_fired", .ofText symbols.tagFired),
    ("tag_end", .ofText symbols.tagEnd), ("tag_delta", .ofText symbols.tagDelta),
    ("trace_next", .ofText symbols.traceNext), ("trace", .ofText symbols.trace),
    ("num_timers", .ofText symbols.numTimers), ("descriptors", .ofText symbols.descriptors)]

def toValue (symbols : TimerSymbols) : Value :=
  .ofMembers symbols.members

end TimerSymbols

namespace SymbolTable

def ofValue? (value : Value) : Option SymbolTable := do
  let fields ← value.record? ["scheduler", "timers"]
  let scheduler ← fieldOr fields "scheduler" {} SchedulerSymbols.ofValue?
  let timers ← fieldOr fields "timers" {} TimerSymbols.ofValue?
  return { scheduler, timers }

def membersOf (scheduler timers : Value) : List (String × Value) :=
  [("scheduler", scheduler), ("timers", timers)]

def toValue (symbols : SymbolTable) : Value :=
  .ofMembers (membersOf symbols.scheduler.toValue symbols.timers.toValue)

def ofText? (s : String) : Option SymbolTable :=
  (Value.ofText? s).bind ofValue?

end SymbolTable

namespace Config

def ofValue? (value : Value) : Option Config := do
  let fields ← value.record? ["tasks", "timers", "run_timing", "symbols"]
  let tasks ← fieldOr fields "tasks" .empty Names.ofValue?
  let timers ← fieldOr fields "timers" .empty Names.ofValue?
  let runTiming ← fieldOr fields "run_timing" .legacy RunTiming.ofValue?
  let symbols ← fieldOr fields "symbols" {} SymbolTable.ofValue?
  return { tasks, timers, runTiming, symbols }

/-- The members of a configuration whose parts are written as given. -/
def membersOf (tasks timers : Value) (runTiming : RunTiming) (symbols : Value) : List (String × Value) :=
  [("tasks", tasks), ("timers", timers), ("run_timing", .ofText runTiming.name), ("symbols", symbols)]

def toValue (config : Config) : Value :=
  .ofMembers (membersOf config.tasks.toValue config.timers.toValue config.runTiming config.symbols.toValue)

/-- Read a configuration; `complaint` is what the reader says of a text that holds none. -/
def ofText (complaint : String → String) (s : String) : Except InputError Config :=
  match (Value.ofText? s).bind ofValue? with
  | some config => .ok config
  | none => .error (.malformed (complaint s))

def toText (config : Config) : String :=
  config.toValue.text

end Config

end SchedProbe
