import SchedProbe.Command
import SchedProbe.Proofs.ReadyQueue.Captured
import SchedProbe.Proofs.ReadyQueue.Report

/-! Ids in a captured queue that no task has. A walk takes as many steps as there are tasks, but it follows
any link that the captured link table has an entry for. Where the table is longer than the number of tasks
the queue shown may hold such an id; where it is not, it never does. -/

set_option autoImplicit false

namespace SchedProbe.ReadyQueue

open Inspection

variable {links : Array TaskId} {sentinel head : TaskId} {maxSteps bound : Nat} {ids : List TaskId}
  {fault : Option Fault}

/-- All ids a walk visits are below a bound if all are that the links lead to within its steps. -/
theorem Finds.below_iff (finds : Finds links sentinel head maxSteps ids fault) :
    (∀ id ∈ ids, id.toNat < bound) ↔
      ∀ before id, Path links sentinel head before id → before.length < maxSteps → id ≠ sentinel →
        id.toNat < links.size → id.toNat < bound := by
  constructor
  · intro below before id path early proper inside
    exact below id (finds.visits path early proper inside)
  · intro below id member
    obtain ⟨-, room, stop, path, -⟩ := finds
    obtain ⟨proper, inside⟩ := path.proper member
    obtain ⟨before, after, rfl⟩ := List.append_of_mem member
    refine below before id path.to_mem ?_ proper inside
    rw [List.length_append, List.length_cons] at room
    omega

/-- A walk that takes only ids below a bound for tasks: the queue it ends with lies below it, and any
other id that the links lead to within the steps makes the walk fail and is not visited. -/
structure KeepsBelow (links : Array TaskId) (sentinel head : TaskId) (maxSteps bound : Nat)
    (outcome : Except Corrupted Walk) : Prop where
  shown : ∀ walked, outcome = .ok walked → ∀ id ∈ walked.order, id.toNat < bound
  refused : ∀ before id, Path links sentinel head before id → before.length ≤ maxSteps →
    id ≠ sentinel → bound ≤ id.toNat → ∃ report, outcome = .error report ∧ id ∉ report.visited

theorem keepsBelow_iff (head tail : TaskId) (links : Array TaskId) (sentinel : TaskId)
    (maxSteps bound : Nat) :
    KeepsBelow links sentinel head maxSteps bound (walk head tail links sentinel maxSteps) ↔
      ∀ before id, Path links sentinel head before id → before.length < maxSteps → id ≠ sentinel →
        id.toNat < links.size → id.toNat < bound := by
  obtain ⟨ids, fault, finds⟩ := exists_finds links sentinel head maxSteps
  rw [← finds.below_iff, walk_of_finds finds]
  constructor
  · intro keeps id member
    refine Nat.lt_of_not_le fun beyond => ?_
    cases fault with
    | none => exact absurd (keeps.shown _ rfl id member) (Nat.not_lt.2 beyond)
    | some fault =>
      obtain ⟨-, room, stop, path, -⟩ := finds
      obtain ⟨before, after, rfl⟩ := List.append_of_mem member
      rw [List.length_append] at room
      obtain ⟨report, failed, unvisited⟩ :=
        keeps.refused before id path.to_mem (by omega) (path.proper member).1 beyond
      cases failed
      exact unvisited member
  · intro below
    refine ⟨?_, ?_⟩
    · intro walked succeeded
      cases fault with
      | none =>
        cases succeeded
        exact below
      | some fault => cases succeeded
    · intro before id path room proper beyond
      have unvisited : id ∉ ids := fun member => absurd (below id member) (Nat.not_lt.2 beyond)
      cases fault with
      | some fault => exact ⟨_, rfl, unvisited⟩
      | none =>
        -- A walk that reached the sentinel visited every id on the way.
        obtain ⟨-, whole⟩ := finds_none_iff.1 finds
        exact absurd (whole.mem_of_proper path proper) unvisited

/-- The command takes the ids below the number of tasks for tasks, and no others, exactly if the links lead
to no other id that the link table has an entry for. It does so in every case of the ids below the length of
the table, and therefore of the tasks if the table is not longer than their number. -/
theorem taskQueue_keepsToTasks_iff (config : Config) (snapshot : Snapshot) {numTasks : Nat}
    {sentinel head tail : TaskId} {links : Array TaskId}
    (held : Held snapshot config.symbols.scheduler numTasks sentinel head tail links) :
    let outcome := walk head tail links sentinel numTasks
    (Command.taskQueue config).inspection.run.result Snapshot.target snapshot =
        (outcome.mapError .corruptedQueue).map (lines head tail) ∧
      (KeepsBelow links sentinel head numTasks numTasks outcome ↔
        ∀ before id, Path links sentinel head before id → before.length < numTasks → id ≠ sentinel →
          id.toNat < links.size → id.toNat < numTasks) ∧
      KeepsBelow links sentinel head numTasks links.size outcome ∧
      (links.size ≤ numTasks → KeepsBelow links sentinel head numTasks numTasks outcome) := by
  intro outcome
  refine ⟨on_inspect held, keepsBelow_iff .., (keepsBelow_iff ..).2 ?_, fun short => (keepsBelow_iff ..).2 ?_⟩
  · intro before id _ _ _ inside
    exact inside
  · intro before id _ _ _ inside
    exact Nat.lt_of_lt_of_le inside short

instance (snapshot : Snapshot) (symbols : SchedulerSymbols) (numTasks : Nat)
    (sentinel head tail : TaskId) (links : Array TaskId) :
    Decidable (Held snapshot symbols numTasks sentinel head tail links) :=
  decidable_of_iff
    ((scalarAs .size symbols.numTasks).on snapshot = .ok (numTasks : Int) ∧
      (scalarId symbols.noTask).on snapshot = .ok sentinel ∧
      (scalarId symbols.queueHead).on snapshot = .ok head ∧
      (scalarId symbols.queueTail).on snapshot = .ok tail ∧
      (length symbols.queueNext).on snapshot = .ok links.size ∧
      ∀ index (inside : index < links.size),
        (snapshot.element symbols.queueNext index).bind (·.getId "value") = .ok links[index])
    ⟨fun ⟨count, sentinel, head, tail, size, links⟩ => ⟨count, sentinel, head, tail, size, links⟩,
      fun held => ⟨held.numTasks, held.sentinel, held.head, held.tail, held.size, held.links⟩⟩

def queueCapture (numTasks head tail : Int64) (links : List Int64) : Snapshot :=
  let symbols : SchedulerSymbols := {}
  (Snapshot.empty.withScalar symbols.numTasks numTasks)
    |>.withScalar symbols.noTask 255
    |>.withScalar symbols.queueHead head
    |>.withScalar symbols.queueTail tail
    |>.withValues symbols.queueNext links

-- Eight tasks in a table of eight links, one of which leads to 40.
theorem taskQueue_keepsToTasks_wildLink :
    let links : Array TaskId := #[255, 255, 5, 255, 255, 40, 255, 255]
    let snapshot := queueCapture 8 2 5 (links.toList.map fun id => Int64.ofNat id.toNat)
    Held snapshot {} 8 255 2 5 links ∧
      (Command.taskQueue {}).inspection.run.result Snapshot.target snapshot =
        .error (.corruptedQueue ⟨2, 5, .linkOutOfRange (some 5) 40, [2, 5]⟩) ∧
      KeepsBelow links 255 2 8 8 (walk 2 5 links 255 8) := by
  intro links snapshot
  have held : Held snapshot {} 8 255 2 5 links := by decide +kernel
  obtain ⟨outcome, -, -, keeps⟩ := taskQueue_keepsToTasks_iff {} snapshot held
  exact ⟨held, outcome.trans (by decide +kernel), keeps (by decide)⟩

/-- A queue of one task shows the id 5: the link table, of eight entries, has one for it. -/
theorem taskQueue_shows_stray :
    let links : Array TaskId := Array.replicate 8 255
    let snapshot := queueCapture 1 5 5 (List.replicate 8 255)
    Held snapshot {} 1 255 5 5 links ∧
      (Command.taskQueue {}).inspection.run.result Snapshot.target snapshot =
        .ok ["taskQ:  h: 005  t: 005", "   5"] ∧
      ¬ KeepsBelow links 255 5 1 1 (walk 5 5 links 255 1) := by
  intro links snapshot
  have held : Held snapshot {} 1 255 5 5 links := by decide +kernel
  have walked : walk 5 5 links 255 1 = .ok ⟨[5], true⟩ := by decide +kernel
  refine ⟨held, by decide +kernel, fun keeps => ?_⟩
  have below : (5 : TaskId).toNat < 1 := keeps.shown _ walked 5 List.mem_cons_self
  exact absurd below (by decide)

end SchedProbe.ReadyQueue
