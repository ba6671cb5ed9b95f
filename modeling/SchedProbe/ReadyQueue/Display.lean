import SchedProbe.ReadyQueue.Walk
import SchedProbe.Text.Column

/-! The lines that show a ready queue. -/

set_option autoImplicit false

namespace SchedProbe.ReadyQueue

def header (head tail : TaskId) : String :=
  "taskQ:  h: " ++ Text.alignRight '0' 3 (Text.decimal head.toNat) ++
    "  t: " ++ Text.alignRight '0' 3 (Text.decimal tail.toNat)

/-- The line with the chain of ids, the first one right-aligned in two columns. -/
def chainLine : List TaskId → String
  | [] => "  (empty)"
  | first :: rest =>
    rest.foldl (fun line id => line ++ " -> " ++ Text.decimal id.toNat)
      ("  " ++ Text.alignRight ' ' 2 (Text.decimal first.toNat))

/-- The lines of a walked queue; a third one warns of a tail that is not at the end of the chain. -/
def lines (head tail : TaskId) (walk : Walk) : List String :=
  [header head tail, chainLine walk.order] ++
    if walk.tailMatches then []
    else ["  (tail " ++ Text.decimal tail.toNat ++
      " not at end of chain, queue changed while reading?)"]

def Corrupted.lines (queue : Corrupted) : List String :=
  [header queue.head queue.tail, chainLine queue.visited]

end SchedProbe.ReadyQueue
