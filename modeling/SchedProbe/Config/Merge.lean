import SchedProbe.Config.Override

/-! Name overrides merged over a configuration. -/

set_option autoImplicit false

namespace SchedProbe

/-- Add overrides in order; a later one replaces an earlier one, and the first malformed one fails. -/
def Names.override (names : Names) : List String → Except InputError Names
  | [] => .ok names
  | text :: rest => do
    let entry ← NameOverride.ofText text
    (names.insert entry.1 entry.2).override rest

def Config.merge (config : Config) (taskNames timerNames : List String) (perTaskTiming : Bool) :
    Except InputError Config := do
  let tasks ← config.tasks.override taskNames
  let timers ← config.timers.override timerNames
  let runTiming := if perTaskTiming then .perTask else config.runTiming
  return { config with tasks, timers, runTiming }

end SchedProbe
