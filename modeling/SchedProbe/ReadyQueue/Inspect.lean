import SchedProbe.Config.Basic
import SchedProbe.Target.Inspection

/-! Reading the ready queue off a target. -/

set_option autoImplicit false

namespace SchedProbe.ReadyQueue

def report (head tail : TaskId) (links : Array TaskId) (sentinel : TaskId) (maxSteps : Nat) :
    Inspection (List String) :=
  match walk head tail links sentinel maxSteps with
  | .error queue => do
    Inspection.log .warn queue.message
    throw (.corruptedQueue queue)
  | .ok walked => do
    unless walked.tailMatches do
      Inspection.log .warn ("ready queue tail " ++ Text.decimal tail.toNat ++
        " not reached from head " ++ Text.decimal head.toNat)
    return lines head tail walked

/-- The lines of the ready queue. The link table is read whole before it is walked. -/
def inspect (config : Config) : Inspection (List String) := do
  let symbols := config.symbols.scheduler
  let numTasks ← Inspection.scalarAs .size symbols.numTasks
  let sentinel ← Inspection.scalarId symbols.noTask
  let head ← Inspection.scalarId symbols.queueHead
  let tail ← Inspection.scalarId symbols.queueTail
  let length ← Inspection.length symbols.queueNext
  let links ← Inspection.elements symbols.queueNext (·.getId "value") length 0 #[]
  Inspection.log .debug ("task-queue: head " ++ Text.decimal head.toNat ++ " tail " ++
    Text.decimal tail.toNat ++ " (" ++ Text.decimal numTasks.toNat ++ " tasks, " ++
    Text.decimal length ++ " links)")
  report head tail links sentinel numTasks.toNat

end SchedProbe.ReadyQueue
