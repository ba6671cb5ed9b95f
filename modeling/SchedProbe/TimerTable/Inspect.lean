import SchedProbe.Config.Basic
import SchedProbe.Target.Inspection
import SchedProbe.TimerTable.Descriptor

/-! Reading the table of virtual timers off a target. -/

set_option autoImplicit false

namespace SchedProbe.TimerTable

/-- Show the table, with a warning if it has more timers than there are ids for. -/
def dump (names : Names) (timers : List Descriptor) : Inspection (List String) := do
  if maxTimers < timers.length then
    Inspection.log .warn ("timer table has " ++ Text.decimal timers.length ++ " entries, showing the first " ++
      Text.decimal maxTimers)
  return lines names timers

def inspect (config : Config) : Inspection (List String) := do
  let symbols := config.symbols.timers
  let count ← Inspection.scalarId symbols.numTimers
  let length ← Inspection.length symbols.descriptors
  if length < count.toNat then
    throw (.access (.countExceedsArray symbols.numTimers count.toNat symbols.descriptors length))
  Inspection.log .debug ("timer-dump: " ++ Text.decimal count.toNat ++ " timers")
  let timers ← Inspection.elements symbols.descriptors Descriptor.ofElement count.toNat 0 #[]
  dump config.timers timers.toList

end SchedProbe.TimerTable
