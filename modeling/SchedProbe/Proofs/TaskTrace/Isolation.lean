import SchedProbe.TaskTrace.Event

/-! Interleaved tasks. An event depends on the clock through the last start of its own task alone, so a
trace that is timed per task says of each task what a shared clock says of the records of that task. -/

set_option autoImplicit false

namespace SchedProbe.TaskTrace

def recordsOf (id : UInt16) (records : List (Nat × TraceRecord)) : List (Nat × TraceRecord) :=
  records.filter fun entry => entry.2.id = id

def eventsOf (id : UInt16) (events : List Event) : List Event :=
  events.filter fun event => event.record.id = id

namespace RunClock

/-- The shared clock that shows what a clock has for one task. -/
def seenBy (id : UInt16) (clock : RunClock) : RunClock :=
  shared (clock.lastStart id)

theorem duration_seenBy (id : UInt16) (time : Ticks) (clock : RunClock) :
    (clock.seenBy id).duration id time = clock.duration id time := rfl

theorem started_seenBy (id : UInt16) (time : Ticks) (clock : RunClock) :
    (clock.started id time).seenBy id = (clock.seenBy id).started id time := by
  cases clock with
  | shared last => rfl
  | perTask last => simp [seenBy, started, lastStart]

theorem clear_seenBy (id : UInt16) (clock : RunClock) :
    (clock.clear id).seenBy id = (clock.seenBy id).clear id := by
  cases clock with
  | shared last => rfl
  | perTask last => simp [seenBy, clear, lastStart]

end RunClock

variable (tags : TagSet)

theorem step_event (clock : RunClock) (slot : Nat) (record : TraceRecord) :
    (tags.step clock slot record).1 =
      ⟨slot, record, tags.classify record.tag,
        if tags.classify record.tag = .finish then some (clock.duration record.id record.value)
        else none⟩ := by
  simp only [TagSet.step]
  cases tags.classify record.tag <;> rfl

theorem step_record (clock : RunClock) (slot : Nat) (record : TraceRecord) :
    (tags.step clock slot record).1.record = record := by
  rw [step_event]

/-- A task's own record reads and moves the clock as the shared clock of that task would be. -/
theorem step_seenBy (clock : RunClock) (slot : Nat) (record : TraceRecord) :
    tags.step (clock.seenBy record.id) slot record =
      ((tags.step clock slot record).1, (tags.step clock slot record).2.seenBy record.id) := by
  simp only [TagSet.step]
  cases tags.classify record.tag with
  | run => simp only [RunClock.started_seenBy]
  | finish => simp only [RunClock.duration_seenBy, RunClock.clear_seenBy]
  | post => rfl
  | unknown word => rfl

/-- A record moves the start of its own task only. -/
theorem step_perTask (last : Std.ExtTreeMap UInt16 Ticks) (slot : Nat) (record : TraceRecord) :
    ∃ moved, (tags.step (.perTask last) slot record).2 = .perTask moved ∧
      ∀ id, id ≠ record.id → moved[id]? = last[id]? := by
  simp only [TagSet.step]
  cases tags.classify record.tag with
  | run =>
    refine ⟨last.insert record.id record.value, rfl, fun id other => ?_⟩
    simp [Std.ExtTreeMap.getElem?_insert, Ne.symm other]
  | finish =>
    refine ⟨last.erase record.id, rfl, fun id other => ?_⟩
    simp [Std.ExtTreeMap.getElem?_erase, Ne.symm other]
  | post => exact ⟨last, rfl, fun _ _ => rfl⟩
  | unknown word => exact ⟨last, rfl, fun _ _ => rfl⟩

theorem eventsFrom_entries (clock : RunClock) (records : List (Nat × TraceRecord)) :
    (tags.eventsFrom clock records).map (fun event => (event.slot, event.record)) = records := by
  induction records generalizing clock with
  | nil => rfl
  | cons entry rest ih => simp only [TagSet.eventsFrom, List.map_cons, step_event, ih]

/-- Every event is that of a record at some state of the clock. -/
theorem exists_step_of_mem {clock : RunClock} {records : List (Nat × TraceRecord)} {event : Event}
    (member : event ∈ tags.eventsFrom clock records) :
    ∃ before slot record, event = (tags.step before slot record).1 := by
  induction records generalizing clock with
  | nil => exact absurd member List.not_mem_nil
  | cons entry rest ih =>
    obtain rfl | member := List.mem_cons.1 member
    · exact ⟨clock, entry.1, entry.2, rfl⟩
    · exact ih member

-- The clocks of both runs stay in step: the shared one shows the task's entry of the other.
theorem eventsOf_eventsFrom (id : UInt16) (records : List (Nat × TraceRecord))
    (last : Std.ExtTreeMap UInt16 Ticks) :
    eventsOf id (tags.eventsFrom (.perTask last) records) =
      tags.eventsFrom ((RunClock.perTask last).seenBy id) (recordsOf id records) := by
  induction records generalizing last with
  | nil => rfl
  | cons entry rest ih =>
    obtain ⟨slot, record⟩ := entry
    obtain ⟨moved, stepped, others⟩ := step_perTask tags last slot record
    simp only [TagSet.eventsFrom, stepped, eventsOf, recordsOf, List.filter_cons, step_record]
    by_cases own : record.id = id
    -- The task's own record: both clocks make one event of it and move alike.
    · subst own
      have same := step_seenBy tags (.perTask last) slot record
      rw [stepped] at same
      simp only [decide_true, if_true, TagSet.eventsFrom, same]
      exact congrArg _ (ih moved)
    -- A record of another task is left out and moves nothing the shared clock shows.
    · have unmoved : (RunClock.perTask moved).seenBy id = (RunClock.perTask last).seenBy id := by
        simp only [RunClock.seenBy, RunClock.lastStart, others id (Ne.symm own)]
      simp only [own, decide_false, Bool.false_eq_true, if_false, ← unmoved]
      exact ih moved

/-- Timed per task, a trace shows the events of each task as if its records stood alone under a
shared clock, whatever other tasks do in between. -/
theorem eventsOf_perTask (records : List (Nat × TraceRecord)) (id : UInt16) :
    (tags.events .perTask records).map (fun event => (event.slot, event.record)) = records ∧
      eventsOf id (tags.events .perTask records) = tags.events .legacy (recordsOf id records) ∧
      ∀ others, recordsOf id others = recordsOf id records →
        eventsOf id (tags.events .perTask others) = eventsOf id (tags.events .perTask records) := by
  have alone : ∀ all, eventsOf id (tags.events .perTask all) = tags.events .legacy (recordsOf id all) :=
    fun all => eventsOf_eventsFrom tags id all ∅
  refine ⟨eventsFrom_entries tags _ records, alone records, fun others same => ?_⟩
  rw [alone, alone, same]

theorem eventsOf_perTask_interleaved :
    recordsOf 1 [(0, ⟨1, 1, 100⟩), (1, ⟨2, 1, 120⟩), (2, ⟨1, 2, 200⟩), (3, ⟨2, 2, 230⟩)] =
        recordsOf 1 [(0, ⟨1, 1, 100⟩), (2, ⟨1, 2, 200⟩)] ∧
      eventsOf 1 (TagSet.events ⟨0, 1, 2⟩ .perTask
          [(0, ⟨1, 1, 100⟩), (1, ⟨2, 1, 120⟩), (2, ⟨1, 2, 200⟩), (3, ⟨2, 2, 230⟩)]) =
        eventsOf 1 (TagSet.events ⟨0, 1, 2⟩ .perTask [(0, ⟨1, 1, 100⟩), (2, ⟨1, 2, 200⟩)]) := by
  have same : recordsOf 1 [(0, ⟨1, 1, 100⟩), (1, ⟨2, 1, 120⟩), (2, ⟨1, 2, 200⟩), (3, ⟨2, 2, 230⟩)] =
      recordsOf 1 [(0, ⟨1, 1, 100⟩), (2, ⟨1, 2, 200⟩)] := by decide
  exact ⟨same, (eventsOf_perTask ⟨0, 1, 2⟩ _ 1).2.2 _ same⟩

end SchedProbe.TaskTrace
