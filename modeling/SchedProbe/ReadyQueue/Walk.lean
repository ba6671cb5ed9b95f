import Std.Data.ExtTreeSet
import SchedProbe.Text.Numeral

/-! The ready queue: a chain of task ids held in a link table, from the head to a sentinel.

The table is copied while the target runs and may be damaged, so a walk along it stops at the sentinel or
at the first of three faults: too many steps, an id without a link, an id met a second time. -/

set_option autoImplicit false

namespace SchedProbe.ReadyQueue

abbrev TaskId := UInt16

inductive Fault where
  | stepLimit (maxSteps : Nat)
  | cycle (id : TaskId)
  | linkOutOfRange (source : Option TaskId) (id : TaskId)
  deriving DecidableEq, Repr

def Fault.message : Fault → String
  | stepLimit maxSteps => "no sentinel within " ++ Text.decimal maxSteps ++ " steps"
  | cycle id => "cycle at task " ++ Text.decimal id.toNat
  | linkOutOfRange (some source) id =>
    "link out of range: " ++ Text.decimal source.toNat ++ " -> " ++ Text.decimal id.toNat
  | linkOutOfRange none id => "head out of range: " ++ Text.decimal id.toNat

/-- A queue that could not be walked to its end: the ends it claims to have, the fault, and the ids
visited before it, head first. -/
structure Corrupted where
  head : TaskId
  tail : TaskId
  fault : Fault
  visited : List TaskId
  deriving DecidableEq, Repr

def chainText : List TaskId → String
  | [] => "(empty)"
  | ids => String.intercalate " -> " (ids.map fun id => Text.decimal id.toNat)

def Corrupted.message (queue : Corrupted) : String :=
  "ready queue corrupted (" ++ queue.fault.message ++ "); partial chain: " ++ chainText queue.visited

structure Walk where
  order : List TaskId
  tailMatches : Bool
  deriving DecidableEq, Repr

/-- Follow links until the sentinel, with `left` of `maxSteps` steps to go. The answer holds the ids
visited and the fault, if one stopped the walk. -/
def follow (links : Array TaskId) (sentinel : TaskId) (maxSteps : Nat) :
    (left : Nat) → (visited : Array TaskId) → (seen : Std.ExtTreeSet TaskId) → (id : TaskId) →
      Array TaskId × Option Fault
  | left, visited, seen, id =>
    if id = sentinel then (visited, none)
    -- The bound comes first, so a ring of links as long as the bound counts as too many steps.
    else match left with
    | 0 => (visited, some (.stepLimit maxSteps))
    | left + 1 =>
      match links[id.toNat]? with
      | none => (visited, some (.linkOutOfRange visited.back? id))
      | some next =>
        if id ∈ seen then (visited, some (.cycle id))
        else follow links sentinel maxSteps left (visited.push id) (seen.insert id) next

/-- Whether `tail` ends the chain; an empty chain ends in the sentinel. -/
def endsIn (order : List TaskId) (sentinel tail : TaskId) : Bool :=
  order.getLast?.getD sentinel == tail

def walk (head tail : TaskId) (links : Array TaskId) (sentinel : TaskId) (maxSteps : Nat) :
    Except Corrupted Walk :=
  match follow links sentinel maxSteps maxSteps #[] ∅ head with
  | (visited, none) => .ok ⟨visited.toList, endsIn visited.toList sentinel tail⟩
  | (visited, some fault) => .error ⟨head, tail, fault, visited.toList⟩

end SchedProbe.ReadyQueue
