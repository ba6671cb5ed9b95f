import Mathlib.Algebra.Group.Int.Defs
import SchedProbe.Proofs.TaskTrace.Cooperation
import SchedProbe.Proofs.TaskTrace.History

/-! Run times under one clock for all tasks. An end is measured from the run or end directly before it, of
whatever task, and posts and unknown records between the two have no part in it. -/

set_option autoImplicit false

namespace SchedProbe.TaskTrace

theorem RunClock.duration_bounds (clock : RunClock) (id : UInt16) (time : Ticks) :
    -2 ^ 32 < clock.duration id time ∧ clock.duration id time < 2 ^ 32 := by
  have late : time.toNat < 2 ^ 32 := time.toNat_lt
  have early : (clock.lastStart id).toNat < 2 ^ 32 := (clock.lastStart id).toNat_lt
  simp only [RunClock.duration]
  split <;> omega

variable {tags : TagSet}

/-- Posts and unknown records leave the events of all others as they are. -/
theorem eventsFrom_turns (clock : RunClock) (records : List (Nat × TraceRecord)) :
    (tags.eventsFrom clock records).filter (fun event => event.tag = .run ∨ event.tag = .finish) =
      tags.eventsFrom clock (tags.turns records) := by
  induction records generalizing clock with
  | nil => rfl
  | cons entry rest ih =>
    obtain ⟨slot, record⟩ := entry
    have kind : (tags.step clock slot record).1.tag = tags.classify record.tag := by rw [step_event]
    rw [turns_cons, TagSet.eventsFrom, List.filter_cons, kind, ih]
    by_cases turns : tags.classify record.tag = .run ∨ tags.classify record.tag = .finish
    · simp only [turns, decide_true, if_true, TagSet.eventsFrom]
    · have still : (tags.step clock slot record).2 = clock := by
        simp only [TagSet.step]
        split
        next run => exact absurd (.inl run) turns
        next finish => exact absurd (.inr finish) turns
        all_goals rfl
      simp only [turns, decide_false, Bool.false_eq_true, if_false, still]

/-- The end at position `j` is measured from the run at position `i`, and uses it up. -/
def TagSet.UsesUp (tags : TagSet) (records : List (Nat × TraceRecord)) (j i : Nat) : Prop :=
  ∃ slot record turn, records[j]? = some (slot, record) ∧ tags.classify record.tag = .finish ∧
    tags.LastTurn .legacy record.id records j i turn ∧ tags.classify turn.tag = .run

-- The earlier of two such ends would itself stand between the run and the later one.
theorem TagSet.UsesUp.not_lt {records : List (Nat × TraceRecord)} {i j j' : Nat}
    (uses : tags.UsesUp records j i) (other : tags.UsesUp records j' i) : ¬ j < j' := by
  obtain ⟨slot, record, turn, found, finish, lastTurn, -⟩ := uses
  obtain ⟨_, _, _, -, -, otherLast, -⟩ := other
  exact fun later => otherLast.last j (slot, record) lastTurn.earlier later found ⟨.inr finish, trivial⟩

/-- Under one clock for all tasks there is one event for each record, with its slot and kind. An end is
measured from the last record before it that begins or ends a run, of any task: from the time of that record
if it begins a run, and not at time zero, or else the time is zero. The difference does not wrap. Other
records have no part in it, and no two ends are measured from one run. -/
theorem measured_from_lastTurn (tags : TagSet) (records : List (Nat × TraceRecord)) :
    (tags.events .legacy records).length = records.length ∧
    (∀ j slot record, records[j]? = some (slot, record) →
      ∃ duration, (tags.events .legacy records)[j]? =
          some ⟨slot, record, tags.classify record.tag, duration⟩ ∧
        (tags.classify record.tag ≠ .finish → duration = none) ∧
        (tags.classify record.tag = .finish → ∃ time, duration = some time ∧
          (∀ i turn, tags.LastTurn .legacy record.id records j i turn →
            time = if tags.classify turn.tag = .run ∧ turn.value ≠ 0 then
              (record.value.toNat : Int) - turn.value.toNat else 0) ∧
          ((∀ i turn, ¬ tags.LastTurn .legacy record.id records j i turn) → time = 0) ∧
          -2 ^ 32 < time ∧ time < 2 ^ 32)) ∧
    (tags.events .legacy records).filter (fun event => event.tag = .run ∨ event.tag = .finish) =
      tags.events .legacy (tags.turns records) ∧
    ∀ i j j', tags.UsesUp records j i → tags.UsesUp records j' i → j = j' := by
  refine ⟨length_eventsFrom _ records, fun j slot record found => ?_, eventsFrom_turns _ records,
    fun i j j' uses other =>
      Nat.le_antisymm (Nat.not_lt.1 (other.not_lt uses)) (Nat.not_lt.1 (uses.not_lt other))⟩
  rw [TagSet.events, getElem?_eventsFrom found, step_event]
  refine ⟨_, rfl, fun other => if_neg other, fun finish => ⟨_, if_pos finish, ?_, fun none => ?_, ?_⟩⟩
  · intro i turn lastTurn
    exact duration_of_lastTurn lastTurn record.value
  · obtain ⟨noTurn, -⟩ | ⟨i, turn, lastTurn, -⟩ :=
      lastStart_clockAfter tags (.fresh .legacy) record.id records j
    · exact duration_of_noTurn noTurn record.value
    · exact absurd lastTurn (none i turn)
  · exact RunClock.duration_bounds _ record.id record.value

-- Task 1 ends behind a run of task 2 that its own clock has not reached yet; the next end finds nothing.
theorem measured_from_lastTurn_negative :
    let tags : TagSet := ⟨0, 1, 2⟩
    let records : List (Nat × TraceRecord) := [(6, ⟨1, 1, 100⟩), (7, ⟨2, 1, 4294967295⟩), (0, ⟨3, 0, 110⟩),
      (1, ⟨1, 77, 120⟩), (2, ⟨1, 2, 1⟩), (3, ⟨2, 2, 130⟩)]
    tags.LastTurn .legacy 1 records 4 1 ⟨2, 1, 4294967295⟩ ∧
      (tags.events .legacy records)[4]? = some ⟨2, ⟨1, 2, 1⟩, .finish, some (-4294967294)⟩ ∧
      tags.LastTurn .legacy 2 records 5 4 ⟨1, 2, 1⟩ ∧
      (tags.events .legacy records)[5]? = some ⟨3, ⟨2, 2, 130⟩, .finish, some 0⟩ ∧
      tags.UsesUp records 4 1 := by
  intro tags records
  have first : tags.LastTurn .legacy 1 records 4 1 ⟨2, 1, 4294967295⟩ := by
    refine ⟨by decide, ⟨7, rfl⟩, by decide, fun k entry later before found => ?_⟩
    obtain rfl | rfl : k = 2 ∨ k = 3 := by omega
    all_goals cases found; decide
  have second : tags.LastTurn .legacy 2 records 5 4 ⟨1, 2, 1⟩ :=
    ⟨by decide, ⟨2, rfl⟩, by decide, fun k entry later before => by omega⟩
  obtain ⟨-, events, -, -⟩ := measured_from_lastTurn tags records
  obtain ⟨_, shown, -, timed⟩ := events 4 2 ⟨1, 2, 1⟩ rfl
  obtain ⟨time, rfl, measured, -, -, -⟩ := timed (by decide)
  obtain ⟨_, shown', -, timed'⟩ := events 5 3 ⟨2, 2, 130⟩ rfl
  obtain ⟨time', rfl, measured', -, -, -⟩ := timed' (by decide)
  rw [measured 1 _ first] at shown
  rw [measured' 4 _ second] at shown'
  exact ⟨first, shown, second, shown', 2, _, _, rfl, by decide, first, by decide⟩

end SchedProbe.TaskTrace
