import SchedProbe.Config.Codec
import SchedProbe.Proofs.Json.Members
import SchedProbe.Proofs.Json.Written

/-! Configurations of which only a part is written. Main statement: a text that leaves members of a written
configuration out, at any level, is read as that configuration with the defaults of these members; the order
of members and members under unknown keys are of no account. -/

set_option autoImplicit false

namespace SchedProbe

open Json (Value)

/-- The keys that are left out of each of the records a configuration is written as. -/
structure Omission where
  config : String → Bool
  tasks : String → Bool
  timers : String → Bool
  symbols : String → Bool
  scheduler : String → Bool
  timerSymbols : String → Bool

def Omission.none : Omission where
  config _ := false
  tasks _ := false
  timers _ := false
  symbols _ := false
  scheduler _ := false
  timerSymbols _ := false

/-! ## What is left of a configuration -/

def Names.without (gone : String → Bool) (names : Names) : Names :=
  if gone "overrides" then .empty else names

def SchedulerSymbols.without (gone : String → Bool) (symbols : SchedulerSymbols) : SchedulerSymbols :=
  let default : SchedulerSymbols := {}
  { tagPost := if gone "tag_post" then default.tagPost else symbols.tagPost
    tagRun := if gone "tag_run" then default.tagRun else symbols.tagRun
    tagEnd := if gone "tag_end" then default.tagEnd else symbols.tagEnd
    numTasks := if gone "num_tasks" then default.numTasks else symbols.numTasks
    noTask := if gone "no_task" then default.noTask else symbols.noTask
    traceNext := if gone "trace_next" then default.traceNext else symbols.traceNext
    trace := if gone "trace" then default.trace else symbols.trace
    queueHead := if gone "queue_head" then default.queueHead else symbols.queueHead
    queueTail := if gone "queue_tail" then default.queueTail else symbols.queueTail
    queueNext := if gone "queue_next" then default.queueNext else symbols.queueNext }

def TimerSymbols.without (gone : String → Bool) (symbols : TimerSymbols) : TimerSymbols :=
  let default : TimerSymbols := {}
  { tagStartTicks := if gone "tag_start_lt" then default.tagStartTicks else symbols.tagStartTicks
    tagStartMicros := if gone "tag_start_usecs" then default.tagStartMicros else symbols.tagStartMicros
    tagStopped := if gone "tag_stopped" then default.tagStopped else symbols.tagStopped
    tagFired := if gone "tag_fired" then default.tagFired else symbols.tagFired
    tagEnd := if gone "tag_end" then default.tagEnd else symbols.tagEnd
    tagDelta := if gone "tag_delta" then default.tagDelta else symbols.tagDelta
    traceNext := if gone "trace_next" then default.traceNext else symbols.traceNext
    trace := if gone "trace" then default.trace else symbols.trace
    numTimers := if gone "num_timers" then default.numTimers else symbols.numTimers
    descriptors := if gone "descriptors" then default.descriptors else symbols.descriptors }

def SymbolTable.without (omitted : Omission) (symbols : SymbolTable) : SymbolTable where
  scheduler := if omitted.symbols "scheduler" then {} else symbols.scheduler.without omitted.scheduler
  timers := if omitted.symbols "timers" then {} else symbols.timers.without omitted.timerSymbols

def Config.without (omitted : Omission) (config : Config) : Config where
  tasks := if omitted.config "tasks" then .empty else config.tasks.without omitted.tasks
  timers := if omitted.config "timers" then .empty else config.timers.without omitted.timers
  runTiming := if omitted.config "run_timing" then .legacy else config.runTiming
  symbols := if omitted.config "symbols" then {} else config.symbols.without omitted

theorem Config.without_none (config : Config) : config.without .none = config :=
  rfl

/-! ## What is left of its written form -/

/-- A symbol table written as a record of its parts, each of them a part of what is written for it. -/
inductive SymbolTable.WrittenBut (omitted : Omission) (symbols : SymbolTable) (value : Value) : Prop
  | intro {scheduler timers : Value}
    (scheduler_part : scheduler.PartOf symbols.scheduler.members omitted.scheduler)
    (timers_part : timers.PartOf symbols.timers.members omitted.timerSymbols)
    (part : value.PartOf (membersOf scheduler timers) omitted.symbols)

inductive Config.WrittenBut (omitted : Omission) (config : Config) (value : Value) : Prop
  | intro {tasks timers symbols : Value}
    (tasks_part : tasks.PartOf config.tasks.members omitted.tasks)
    (timers_part : timers.PartOf config.timers.members omitted.timers)
    (symbols_part : config.symbols.WrittenBut omitted symbols)
    (part : value.PartOf (membersOf tasks timers config.runTiming symbols) omitted.config)

theorem Config.writtenBut_toValue (config : Config) : config.WrittenBut .none config.toValue :=
  .intro Value.partOf_ofMembers Value.partOf_ofMembers
    (.intro Value.partOf_ofMembers Value.partOf_ofMembers Value.partOf_ofMembers) Value.partOf_ofMembers

/-! ## Reading a part -/

section

variable {gone : String → Bool} {value : Value}

theorem Names.ofValue?_of_partOf {names : Names} (part : value.PartOf names.members gone) :
    ofValue? value = some (names.without gone) := by
  obtain ⟨fields, record, read⟩ := part.fields ["overrides"] rfl (by decide)
  have labels := read (List.mem_singleton_self _) (Value.idMap?_ofMembers Value.text?_ofText names.labels) ∅
  rw [ofValue?, record, Option.bind_eq_bind, Option.bind_some, labels, without]
  cases gone "overrides" with
  | true => rfl
  | false => rfl

theorem SchedulerSymbols.ofValue?_of_partOf {symbols : SchedulerSymbols}
    (part : value.PartOf symbols.members gone) : ofValue? value = some (symbols.without gone) := by
  obtain ⟨fields, record, text⟩ := part.texts keys rfl (by decide)
  dsimp only [ofValue?]
  rw [record, Option.bind_eq_bind, Option.bind_some,
    text "tag_post" symbols.tagPost (by simp [members]),
    text "tag_run" symbols.tagRun (by simp [members]),
    text "tag_end" symbols.tagEnd (by simp [members]),
    text "num_tasks" symbols.numTasks (by simp [members]),
    text "no_task" symbols.noTask (by simp [members]),
    text "trace_next" symbols.traceNext (by simp [members]),
    text "trace" symbols.trace (by simp [members]),
    text "queue_head" symbols.queueHead (by simp [members]),
    text "queue_tail" symbols.queueTail (by simp [members]),
    text "queue_next" symbols.queueNext (by simp [members])]
  rfl

theorem TimerSymbols.ofValue?_of_partOf {symbols : TimerSymbols}
    (part : value.PartOf symbols.members gone) : ofValue? value = some (symbols.without gone) := by
  obtain ⟨fields, record, text⟩ := part.texts keys rfl (by decide)
  dsimp only [ofValue?]
  rw [record, Option.bind_eq_bind, Option.bind_some,
    text "tag_start_lt" symbols.tagStartTicks (by simp [members]),
    text "tag_start_usecs" symbols.tagStartMicros (by simp [members]),
    text "tag_stopped" symbols.tagStopped (by simp [members]),
    text "tag_fired" symbols.tagFired (by simp [members]),
    text "tag_end" symbols.tagEnd (by simp [members]),
    text "tag_delta" symbols.tagDelta (by simp [members]),
    text "trace_next" symbols.traceNext (by simp [members]),
    text "trace" symbols.trace (by simp [members]),
    text "num_timers" symbols.numTimers (by simp [members]),
    text "descriptors" symbols.descriptors (by simp [members])]
  rfl

theorem RunTiming.ofValue?_name (timing : RunTiming) : ofValue? (.ofText timing.name) = some timing := by
  rw [ofValue?, Value.ofText, Value.alternative?, Json.Literal.text?_ofText]
  cases timing with
  | legacy => rfl
  | perTask => rfl

end

section

variable {omitted : Omission} {value : Value}

theorem SymbolTable.ofValue?_of_writtenBut {symbols : SymbolTable}
    (written : symbols.WrittenBut omitted value) : ofValue? value = some (symbols.without omitted) := by
  obtain ⟨scheduler_part, timers_part, part⟩ := written
  obtain ⟨fields, record, read⟩ := part.fields ["scheduler", "timers"] rfl (by decide)
  have scheduler := SchedulerSymbols.ofValue?_of_partOf scheduler_part
  have timers := TimerSymbols.ofValue?_of_partOf timers_part
  rw [ofValue?, record, Option.bind_eq_bind, Option.bind_some,
    read (by simp [membersOf]) scheduler, read (by simp [membersOf]) timers]
  rfl

theorem Config.ofValue?_of_writtenBut {config : Config} (written : config.WrittenBut omitted value) :
    ofValue? value = some (config.without omitted) := by
  obtain ⟨tasks_part, timers_part, symbols_part, part⟩ := written
  obtain ⟨fields, record, read⟩ := part.fields ["tasks", "timers", "run_timing", "symbols"] rfl (by decide)
  have tasks := Names.ofValue?_of_partOf tasks_part
  have timers := Names.ofValue?_of_partOf timers_part
  have timing := RunTiming.ofValue?_name config.runTiming
  have symbols := SymbolTable.ofValue?_of_writtenBut symbols_part
  rw [ofValue?, record, Option.bind_eq_bind, Option.bind_some,
    read (by simp [membersOf]) tasks, read (by simp [membersOf]) timers,
    read (by simp [membersOf]) timing, read (by simp [membersOf]) symbols]
  rfl

end

namespace Config

/-- What is left of a written configuration is read as that configuration, with the defaults of the members
that are left out; nothing left out, it is read as it was. -/
theorem partial_reading (complaint : String → String) :
    (∀ (omitted : Omission) (config : Config) (value : Value) (text : String),
        config.WrittenBut omitted value → Value.ofText? text = some value →
          ofText complaint text = .ok (config.without omitted)) ∧
      ∀ config : Config, ofText complaint config.toText = .ok config := by
  have reading : ∀ (omitted : Omission) (config : Config) (value : Value) (text : String),
      config.WrittenBut omitted value → Value.ofText? text = some value →
        ofText complaint text = .ok (config.without omitted) := by
    intro omitted config value text written spelled
    rw [ofText, spelled, Option.bind_some, ofValue?_of_writtenBut written]
  refine ⟨reading, fun config => ?_⟩
  have whole := reading .none config config.toValue config.toText config.writtenBut_toValue
    (Value.ofText?_text config.toValue)
  rwa [without_none] at whole

-- A written configuration with members left out at three levels, in another order, with a key in escapes and
-- with members that no record has.
namespace Cut

def config : Config where
  tasks := .ofList [(3, "blink")]
  timers := .ofList [(7, "idle")]
  runTiming := .perTask
  symbols := { scheduler := { trace := "T", queueHead := "H" }, timers := { trace := "V" } }

def left : Config where
  tasks := .ofList [(3, "blink")]
  runTiming := .perTask
  symbols := { scheduler := { trace := "T" } }

def omitted : Omission :=
  { Omission.none with config := (· == "timers"), symbols := (· == "timers"), scheduler := (· != "trace") }

def scheduler : Value :=
  .object [(⟨"tr\\u0061ce".toList, by decide⟩, .ofText "T")]

def symbols : Value :=
  .ofMembers [("", .null), ("scheduler", scheduler)]

def strange : String × Value :=
  ("new", .array [.literal ⟨"\\ud800".toList, by decide⟩, .number (.real 1 400)])

def value : Value :=
  .ofMembers [strange, ("symbols", symbols), ("run_timing", .ofText "per-task"),
    ("tasks", config.tasks.toValue)]

def text : String :=
  "\x7b\"new\": [\"\\ud800\", 1e400], \"symbols\": \x7b\"\": null, \"scheduler\": " ++
    "\x7b\"tr\\u0061ce\": \"T\"\x7d\x7d,\n  \"run_timing\": \"per-task\", " ++
    "\"tasks\": \x7b\"overrides\": \x7b\"3\": \"blink\"\x7d\x7d\x7d"

theorem partOf_scheduler : scheduler.PartOf config.symbols.scheduler.members omitted.scheduler := by
  have key : Json.Literal.text? ⟨"tr\\u0061ce".toList, by decide⟩ = some "trace" := by decide +kernel
  refine .intro [("trace", .ofText "T")] [] ?_ (.of_eq ?_) fun _ member => nomatch member
  · rw [List.mapM_cons, key]
    rfl
  · simp [config, omitted, SchedulerSymbols.members]

theorem writtenBut_symbols : config.symbols.WrittenBut omitted symbols := by
  have order := List.reverse_perm [("scheduler", scheduler), ("", .null)]
  exact .intro partOf_scheduler Value.partOf_ofMembers
    (.intro _ [("", .null)] Value.mapM_ofMembers order (by decide))

theorem writtenBut_value : config.WrittenBut omitted value := by
  have order := List.reverse_perm
    [("tasks", config.tasks.toValue), ("run_timing", .ofText "per-task"), ("symbols", symbols), strange]
  exact .intro Value.partOf_ofMembers Value.partOf_ofMembers writtenBut_symbols
    (.intro _ [strange] Value.mapM_ofMembers order (by decide))

end Cut

theorem partial_reading_cut :
    let complaint : String → String := fun _ => "expected value at line 1 column 1"
    Value.ofText? Cut.text = some Cut.value ∧ Cut.config.WrittenBut Cut.omitted Cut.value ∧
      ofText complaint Cut.text = .ok Cut.left := by
  intro complaint
  have spelled : Value.ofText? Cut.text = some Cut.value := Value.ofText?_of_tokens (by decide +kernel)
  have left : Cut.config.without Cut.omitted = Cut.left := by decide +kernel
  refine ⟨spelled, Cut.writtenBut_value, ?_⟩
  rw [(partial_reading complaint).1 Cut.omitted Cut.config Cut.value Cut.text Cut.writtenBut_value spelled, left]

end Config

end SchedProbe
