import Mathlib.Data.List.Pairwise
import SchedProbe.Proofs.TaskTrace.Isolation

/-! Run times within elapsed time. On one clock the runs that ends are measured from do not overlap: while time
goes on, the run that waits for its end grows by no more than the time that passes, and each end uses it up. -/

set_option autoImplicit false

namespace SchedProbe.TaskTrace

def Chronological (records : List (Nat × TraceRecord)) : Prop :=
  records.Pairwise fun entry next => entry.2.value ≤ next.2.value

instance (records : List (Nat × TraceRecord)) : Decidable (Chronological records) :=
  inferInstanceAs (Decidable (records.Pairwise _))

def runTime : List Event → Int
  | [] => 0
  | event :: rest => event.duration.getD 0 + runTime rest

/-- How long the run that waits for its end on the shared clock has lasted at a time. -/
def lasted (last now : Ticks) : Int :=
  if last = 0 then 0 else (now.toNat : Int) - last.toNat

variable {tags : TagSet} {last now : Ticks}

theorem lasted_nonneg (begun : last ≤ now) : 0 ≤ lasted last now := by
  have begun := UInt32.le_iff_toNat_le.1 begun
  unfold lasted
  split <;> omega

theorem lasted_later (last : Ticks) {later : Ticks} (passed : now ≤ later) :
    lasted last later ≤ lasted last now + (later.toNat - now.toNat) := by
  have passed := UInt32.le_iff_toNat_le.1 passed
  unfold lasted
  split <;> omega

/-- What an end shows and what then waits on the clock add up to no more than what waited before. -/
theorem step_lasted (tags : TagSet) (slot : Nat) {record : TraceRecord} (begun : last ≤ record.value) :
    ∃ left, (tags.step (.shared last) slot record).2 = .shared left ∧ left ≤ record.value ∧
      (∀ time ∈ (tags.step (.shared last) slot record).1.duration, 0 ≤ time) ∧
      (tags.step (.shared last) slot record).1.duration.getD 0 + lasted left record.value ≤
        lasted last record.value := by
  have waited := lasted_nonneg begun
  have unshown : ∀ time ∈ (none : Option Int), 0 ≤ time := fun time shown => absurd shown (Option.not_mem_none time)
  simp only [TagSet.step]
  cases tags.classify record.tag with
  | run =>
    have fresh : lasted record.value record.value = 0 := by
      unfold lasted
      split
      · rfl
      · exact Int.sub_self _
    refine ⟨record.value, rfl, UInt32.le_refl _, unshown, ?_⟩
    rw [fresh]
    exact waited
  | finish =>
    refine ⟨0, rfl, UInt32.zero_le, fun time shown => ?_, ?_⟩
    · cases shown
      exact waited
    · exact Int.le_of_eq (Int.add_zero _)
  | post => exact ⟨last, rfl, begun, unshown, Int.le_of_eq (Int.zero_add _)⟩
  | unknown word => exact ⟨last, rfl, begun, unshown, Int.le_of_eq (Int.zero_add _)⟩

section Shared

variable {records : List (Nat × TraceRecord)}

theorem duration_nonneg (ordered : Chronological records) (begun : ∀ entry ∈ records, last ≤ entry.2.value) :
    ∀ event ∈ tags.eventsFrom (.shared last) records, ∀ time ∈ event.duration, 0 ≤ time := by
  induction records generalizing last with
  | nil => exact fun event member => absurd member List.not_mem_nil
  | cons entry rest ih =>
    obtain ⟨slot, record⟩ := entry
    obtain ⟨later, ordered⟩ := List.pairwise_cons.1 ordered
    obtain ⟨left, stepped, leftBegun, nonneg, -⟩ := step_lasted tags slot (begun _ List.mem_cons_self)
    rw [TagSet.eventsFrom, stepped]
    intro event member
    obtain rfl | member := List.mem_cons.1 member
    · exact nonneg
    · exact ih ordered (fun entry member => UInt32.le_trans leftBegun (later entry member)) event member

-- By induction on the records: what waits on the clock at the time of a record pays for the ends behind it.
theorem runTime_eventsFrom_le {final : Ticks} (ordered : Chronological records) (begun : last ≤ now)
    (within : ∀ entry ∈ records, now ≤ entry.2.value ∧ entry.2.value ≤ final) (passed : now ≤ final) :
    runTime (tags.eventsFrom (.shared last) records) ≤ lasted last now + (final.toNat - now.toNat) := by
  induction records generalizing last now with
  | nil =>
    have waited := lasted_nonneg begun
    have passed := UInt32.le_iff_toNat_le.1 passed
    change 0 ≤ _
    omega
  | cons entry rest ih =>
    obtain ⟨slot, record⟩ := entry
    obtain ⟨later, ordered⟩ := List.pairwise_cons.1 ordered
    obtain ⟨reached, early⟩ := within _ List.mem_cons_self
    obtain ⟨left, stepped, leftBegun, -, spent⟩ := step_lasted tags slot (UInt32.le_trans begun reached)
    have rest := ih ordered leftBegun
      (fun entry member => ⟨later entry member, (within entry (List.mem_cons_of_mem _ member)).2⟩) early
    have grown := lasted_later last reached
    rw [TagSet.eventsFrom, stepped, runTime]
    dsimp only at *
    omega

theorem runTime_legacy_le {first final : Ticks} (ordered : Chronological records)
    (within : ∀ entry ∈ records, first ≤ entry.2.value ∧ entry.2.value ≤ final) (passed : first ≤ final) :
    runTime (tags.events .legacy records) ≤ final.toNat - first.toNat := by
  have spent : runTime (tags.events .legacy records) ≤ lasted 0 first + (final.toNat - first.toNat) :=
    runTime_eventsFrom_le ordered UInt32.zero_le within passed
  rwa [lasted, if_pos rfl, Int.zero_add] at spent

theorem duration_legacy_nonneg (ordered : Chronological records) :
    ∀ event ∈ tags.events .legacy records, ∀ time ∈ event.duration, 0 ≤ time :=
  duration_nonneg ordered fun _ _ => UInt32.zero_le

theorem chronological_recordsOf (ordered : Chronological records) (id : UInt16) :
    Chronological (recordsOf id records) :=
  List.Pairwise.filter _ ordered

/-- Timed per task, the events of a task are those that its records have alone on a shared clock. -/
theorem eventsOf_eq_legacy (id : UInt16) :
    eventsOf id (tags.events .perTask records) = tags.events .legacy (recordsOf id records) :=
  eventsOf_eventsFrom tags id records ∅

theorem duration_events_nonneg (timing : RunTiming) (ordered : Chronological records) :
    ∀ event ∈ tags.events timing records, ∀ time ∈ event.duration, 0 ≤ time := by
  cases timing with
  | legacy => exact duration_legacy_nonneg ordered
  | perTask =>
    intro event member
    have own : event ∈ eventsOf event.record.id (tags.events .perTask records) :=
      List.mem_filter.2 ⟨member, decide_eq_true rfl⟩
    rw [eventsOf_eq_legacy] at own
    exact duration_legacy_nonneg (chronological_recordsOf ordered _) event own

theorem timed_iff_finish {clock : RunClock} {event : Event} (member : event ∈ tags.eventsFrom clock records) :
    event.tag = .finish ↔ event.duration.isSome := by
  obtain ⟨before, slot, record, rfl⟩ := exists_step_of_mem tags member
  rw [step_event]
  by_cases finish : tags.classify record.tag = .finish
  · simp [finish]
  · simp [finish]

end Shared

/-- Where time never goes back, no end shows a run time below zero. On one clock for all tasks the run times of a
trace add up to no more than the time from its first record to its last one; on a clock for each task those of any
one task do. Ends of runs have a run time, and no other events. -/
theorem runTime_le_elapsed (tags : TagSet) (records : List (Nat × TraceRecord)) (filled : records ≠ [])
    (ordered : Chronological records) :
    let elapsed : Int := (records.getLast filled).2.value.toNat - (records.head filled).2.value.toNat
    (∀ timing, ∀ event ∈ tags.events timing records, (event.tag = .finish ↔ event.duration.isSome) ∧
        ∀ time ∈ event.duration, 0 ≤ time) ∧
      runTime (tags.events .legacy records) ≤ elapsed ∧
      ∀ id, runTime (eventsOf id (tags.events .perTask records)) ≤ elapsed := by
  intro elapsed
  have within : ∀ entry ∈ records,
      (records.head filled).2.value ≤ entry.2.value ∧ entry.2.value ≤ (records.getLast filled).2.value := by
    intro entry member
    exact ⟨List.Pairwise.rel_head_of_rel_head_head ordered member (UInt32.le_refl _),
      List.Pairwise.rel_getLast_of_rel_getLast_getLast ordered member (UInt32.le_refl _)⟩
  have passed := (within _ (List.getLast_mem filled)).1
  refine ⟨fun timing event member => ⟨?_, ?_⟩, runTime_legacy_le ordered within passed, fun id => ?_⟩
  · exact timed_iff_finish member
  · exact duration_events_nonneg timing ordered event member
  · rw [eventsOf_eq_legacy]
    exact runTime_legacy_le (chronological_recordsOf ordered id)
      (fun entry member => within entry (List.mem_filter.1 member).1) passed

-- Task 1 begins twice and ends twice, task 2 begins at time zero and again, posts and unknown records stand in
-- between. Together both tasks run longer than the time that passes; neither of them does alone.
theorem runTime_le_elapsed_overlapping :
    let tags : TagSet := ⟨0, 1, 2⟩
    let records : List (Nat × TraceRecord) := [(5, ⟨2, 1, 0⟩), (6, ⟨2, 2, 10⟩), (7, ⟨1, 1, 10⟩), (0, ⟨2, 1, 20⟩),
      (1, ⟨3, 0, 30⟩), (2, ⟨1, 77, 30⟩), (3, ⟨1, 2, 100⟩), (4, ⟨2, 2, 100⟩), (5, ⟨1, 2, 110⟩)]
    records ≠ [] ∧ Chronological records ∧
      runTime (tags.events .legacy records) = 80 ∧ runTime (tags.events .legacy records) ≤ 110 ∧
      runTime (tags.events .perTask records) = 170 ∧
      runTime (eventsOf 1 (tags.events .perTask records)) ≤ 110 ∧
      runTime (eventsOf 2 (tags.events .perTask records)) ≤ 110 := by
  intro tags records
  have filled : records ≠ [] := List.cons_ne_nil _ _
  have ordered : Chronological records := by decide +kernel
  obtain ⟨-, shared, own⟩ := runTime_le_elapsed tags records filled ordered
  exact ⟨filled, ordered, by decide +kernel, shared, by decide +kernel, own 1, own 2⟩

end SchedProbe.TaskTrace
