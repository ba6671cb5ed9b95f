import SchedProbe.Proofs.Target.Capture
import SchedProbe.ReadyQueue.Inspect

/-! The ready queue of a capture. Either a read of it fails, or all of it is read and the lines are those of
the walk along the links read. -/

set_option autoImplicit false

namespace SchedProbe.ReadyQueue

open Inspection

theorem on_report (snapshot : Snapshot) (head tail : TaskId) (links : Array TaskId)
    (sentinel : TaskId) (maxSteps : Nat) :
    (report head tail links sentinel maxSteps).on snapshot =
      ((walk head tail links sentinel maxSteps).mapError .corruptedQueue).map (lines head tail) := by
  unfold report
  cases walk head tail links sentinel maxSteps with
  | error queue => rfl
  | ok walked =>
    simp only [on_bind, on_ite, on_log, on_pure]
    split <;> rfl

/-- What the reads of a captured queue come back with when none of them fails. -/
structure Held (snapshot : Snapshot) (symbols : SchedulerSymbols) (numTasks : Nat)
    (sentinel head tail : TaskId) (links : Array TaskId) : Prop where
  numTasks : (scalarAs .size symbols.numTasks).on snapshot = .ok (numTasks : Int)
  sentinel : (scalarId symbols.noTask).on snapshot = .ok sentinel
  head : (scalarId symbols.queueHead).on snapshot = .ok head
  tail : (scalarId symbols.queueTail).on snapshot = .ok tail
  size : (length symbols.queueNext).on snapshot = .ok links.size
  links : snapshot.Gives symbols.queueNext (·.getId "value") links

theorem on_inspect {snapshot : Snapshot} {config : Config} {numTasks : Nat} {sentinel head tail : TaskId}
    {links : Array TaskId}
    (held : Held snapshot config.symbols.scheduler numTasks sentinel head tail links) :
    (inspect config).on snapshot =
      ((walk head tail links sentinel numTasks).mapError .corruptedQueue).map (lines head tail) := by
  simp only [inspect, on_bind, on_log, held.numTasks, held.sentinel, held.head, held.tail, held.size]
  simp only [bind, Except.bind, on_elements held.links, on_report]
  rfl

/-- A queue is read whole unless a read of it fails. -/
theorem held_or_unread (snapshot : Snapshot) (config : Config) :
    (∃ numTasks sentinel head tail links,
      Held snapshot config.symbols.scheduler numTasks sentinel head tail links) ∨
    (inspect config).Unread snapshot := by
  refine or_unread_bind (scalarAs_or_unread _ _) fun count numTasks => ?_
  refine or_unread_bind (scalarId_or_unread _) fun sentinel noTask => ?_
  refine or_unread_bind (scalarId_or_unread _) fun head queueHead => ?_
  refine or_unread_bind (scalarId_or_unread _) fun tail queueTail => ?_
  refine or_unread_bind (length_or_unread _) fun size length => ?_
  refine or_unread_bind (elements_or_unread _ _ _) fun links taken => ?_
  obtain ⟨rfl, gives⟩ := gives_of_on_elements taken
  obtain ⟨least, -⟩ := holds_of_on_scalarAs numTasks
  refine .inl ⟨count.toNat, sentinel, head, tail, links, ?_, noTask, queueHead, queueTail, length, gives⟩
  rw [numTasks, Int.toNat_of_nonneg least]

end SchedProbe.ReadyQueue
