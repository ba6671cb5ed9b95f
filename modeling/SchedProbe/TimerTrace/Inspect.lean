import SchedProbe.Config.Basic
import SchedProbe.TimerTrace.Entry

/-! Reading the virtual timer trace off a target. -/

set_option autoImplicit false

namespace SchedProbe.TimerTrace

def readTags (symbols : TimerSymbols) : Inspection TagSet := do
  let startTicks ← Inspection.scalar symbols.tagStartTicks
  let startMicros ← Inspection.scalar symbols.tagStartMicros
  let stopped ← Inspection.scalar symbols.tagStopped
  let fired ← Inspection.scalar symbols.tagFired
  let finish ← Inspection.scalar symbols.tagEnd
  let delta ← Inspection.scalar symbols.tagDelta
  return ⟨startTicks, startMicros, stopped, fired, finish, delta⟩

def inspect (config : Config) : Inspection (List String) := do
  let symbols := config.symbols.timers
  let tags ← readTags symbols
  Ring.renderRing symbols.traceNext symbols.trace "timer-trace"
    (fun _ _ record => (tags.line config.timers record, ())) ()

end SchedProbe.TimerTrace
