import Std.Data.ExtTreeMap
import SchedProbe.Ticks

/-! Run clocks: how long a task ran, measured from its last start to its end. -/

set_option autoImplicit false

namespace SchedProbe

inductive RunTiming where
  /-- The last start of any task. -/
  | legacy
  /-- The last start of the same task. -/
  | perTask
  deriving DecidableEq, Repr

namespace TaskTrace

/-- The starts that wait for an end: one for all tasks, where zero stands for none, or one for each. -/
inductive RunClock where
  | shared (last : Ticks)
  | perTask (last : Std.ExtTreeMap UInt16 Ticks)

namespace RunClock

def fresh : RunTiming → RunClock
  | .legacy => shared 0
  | .perTask => perTask ∅

def started (id : UInt16) (time : Ticks) : RunClock → RunClock
  | shared _ => shared time
  | perTask last => perTask (last.insert id time)

/-- The start that an end of a task is measured from; zero if there is none. -/
def lastStart (id : UInt16) : RunClock → Ticks
  | shared last => last
  | perTask last => last[id]?.getD 0

def clear (id : UInt16) : RunClock → RunClock
  | shared _ => shared 0
  | perTask last => perTask (last.erase id)

/-- How long a task ran when it ends at a time. A start at time zero counts as none. -/
def duration (id : UInt16) (time : Ticks) (clock : RunClock) : Int :=
  let last := clock.lastStart id
  if last = 0 then 0 else (time.toNat : Int) - last.toNat

end RunClock

end TaskTrace

end SchedProbe
