import SchedProbe.Config.Basic
import SchedProbe.TaskTrace.Display

/-! Reading the task trace off a target. -/

set_option autoImplicit false

namespace SchedProbe.TaskTrace

def readTags (symbols : SchedulerSymbols) : Inspection TagSet := do
  let post ← Inspection.scalar symbols.tagPost
  let run ← Inspection.scalar symbols.tagRun
  let finish ← Inspection.scalar symbols.tagEnd
  return ⟨post, run, finish⟩

def renderRecord (tags : TagSet) (names : Names) (clock : RunClock) (slot : Nat)
    (record : TraceRecord) : String × RunClock :=
  let stepped := tags.step clock slot record
  (stepped.1.line names, stepped.2)

def inspect (config : Config) : Inspection (List String) := do
  let symbols := config.symbols.scheduler
  let tags ← readTags symbols
  Ring.renderRing symbols.traceNext symbols.trace "task-trace" (renderRecord tags config.tasks)
    (.fresh config.runTiming)

end SchedProbe.TaskTrace
