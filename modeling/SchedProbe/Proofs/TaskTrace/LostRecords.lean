import SchedProbe.Proofs.TaskTrace.History

/-! Traces whose beginning is lost, as that of a ring which has gone round. The clock of a decoding that
begins with the records that are left agrees with the clock of the whole trace once a run has begun or ended
on it, so that no event but the first on each clock can differ, and that one only if it ends a run. -/

set_option autoImplicit false

namespace SchedProbe

theorem RunTiming.Shares.symm {timing : RunTiming} {id other : UInt16} (shares : timing.Shares id other) :
    timing.Shares other id := by
  cases timing with
  | legacy => trivial
  | perTask => exact Eq.symm shares

namespace TaskTrace

/-- The record at position `k` is the first to begin or end a run on its clock. -/
structure TagSet.FirstTurn (tags : TagSet) (timing : RunTiming) (records : List (Nat × TraceRecord))
    (k slot : Nat) (record : TraceRecord) : Prop where
  found : records[k]? = some (slot, record)
  turn : tags.TurnFor timing record.id record
  first : tags.NoTurn timing record.id records k

variable {tags : TagSet} {timing : RunTiming} {records : List (Nat × TraceRecord)} {k k' slot slot' : Nat}
  {record record' : TraceRecord}

theorem TagSet.FirstTurn.not_lt (firstTurn : tags.FirstTurn timing records k slot record)
    (other : tags.FirstTurn timing records k' slot' record')
    (shares : timing.Shares record.id record'.id) : ¬ k < k' :=
  fun later => other.first k (slot, record) later firstTurn.found ⟨firstTurn.turn.1, shares⟩

theorem TagSet.FirstTurn.unique (firstTurn : tags.FirstTurn timing records k slot record)
    (other : tags.FirstTurn timing records k' slot' record')
    (shares : timing.Shares record.id record'.id) : k = k' :=
  Nat.le_antisymm (Nat.not_lt.1 (other.not_lt firstTurn shares.symm))
    (Nat.not_lt.1 (firstTurn.not_lt other shares))

/-- Clocks that are kept alike make the same event of a record behind the first turn, whatever they show at
the beginning. -/
theorem getElem?_eventsFrom_congr {clock other : RunClock} (alike : clock.timing = other.timing)
    (later : ∀ slot record, tags.FirstTurn clock.timing records k slot record →
      tags.classify record.tag ≠ .finish) :
    (tags.eventsFrom clock records)[k]? = (tags.eventsFrom other records)[k]? := by
  cases found : records[k]? with
  | none =>
    have outside : records.length ≤ k := List.getElem?_eq_none_iff.1 found
    rw [List.getElem?_eq_none (by rwa [length_eventsFrom]),
      List.getElem?_eq_none (by rwa [length_eventsFrom])]
  | some entry =>
    obtain ⟨slot, record⟩ := entry
    rw [getElem?_eventsFrom found, getElem?_eventsFrom found, step_event, step_event]
    by_cases finish : tags.classify record.tag = .finish
    · obtain ⟨noTurn, -⟩ | ⟨i, turn, lastTurn, -⟩ := lastStart_clockAfter tags clock record.id records k
      · exact absurd finish (later slot record ⟨found, ⟨.inr finish, .refl _ _⟩, noTurn⟩)
      · rw [duration_of_lastTurn lastTurn, duration_of_lastTurn (alike ▸ lastTurn)]
    · rw [if_neg finish, if_neg finish]

/-- Of a trace that has lost its beginning every record makes the event that it makes in the whole trace, but
for the first record on each clock that begins or ends a run. If that one ends a run, the time it shows may
differ, and is zero where the beginning is lost. Under one clock for all tasks there is one such record, and
otherwise one for each task. -/
theorem events_of_lost_beginning (tags : TagSet) (timing : RunTiming) (lost kept : List (Nat × TraceRecord)) :
    let whole := (tags.events timing (lost ++ kept)).drop lost.length
    let fresh := tags.events timing kept
    whole.length = kept.length ∧ fresh.length = kept.length ∧
      (∀ k, (∀ slot record, tags.FirstTurn timing kept k slot record →
        tags.classify record.tag ≠ .finish) → whole[k]? = fresh[k]?) ∧
      (∀ k slot record, tags.FirstTurn timing kept k slot record → tags.classify record.tag = .finish →
        ∃ time, whole[k]? = some ⟨slot, record, .finish, some time⟩ ∧
          fresh[k]? = some ⟨slot, record, .finish, some 0⟩) ∧
      ∀ k k' slot slot' record record', tags.FirstTurn timing kept k slot record →
        tags.FirstTurn timing kept k' slot' record' → timing.Shares record.id record'.id → k = k' := by
  intro whole fresh
  have rest : whole = tags.eventsFrom (tags.clockAfter (.fresh timing) lost) kept := by
    have length : (tags.eventsFrom (.fresh timing) lost).length = lost.length := length_eventsFrom _ lost
    change (tags.eventsFrom (.fresh timing) (lost ++ kept)).drop lost.length = _
    rw [eventsFrom_append, List.drop_left' length]
  have ofTiming : (tags.clockAfter (.fresh timing) lost).timing = timing := by
    rw [timing_clockAfter, RunClock.timing_fresh]
  refine ⟨by rw [rest, length_eventsFrom], length_eventsFrom _ kept, fun k later => ?_,
    fun k slot record firstTurn finish => ?_, fun _ _ _ _ _ _ firstTurn other => firstTurn.unique other⟩
  · rw [rest]
    refine getElem?_eventsFrom_congr (ofTiming.trans (RunClock.timing_fresh timing).symm) ?_
    rwa [ofTiming]
  · have shown : fresh[k]? = some ⟨slot, record, .finish, some 0⟩ := by
      change (tags.eventsFrom (.fresh timing) kept)[k]? = _
      rw [getElem?_eventsFrom firstTurn.found, step_event, if_pos finish, finish,
        duration_of_noTurn firstTurn.first]
    let before := tags.clockAfter (tags.clockAfter (.fresh timing) lost) (kept.take k)
    refine ⟨before.duration record.id record.value, ?_, shown⟩
    rw [rest, getElem?_eventsFrom firstTurn.found, step_event, if_pos finish, finish]

-- Both tasks run when the beginning is lost: each clock misses one end and is right from then on.
theorem events_of_lost_beginning_running :
    let tags : TagSet := ⟨0, 1, 2⟩
    let lost : List (Nat × TraceRecord) := [(6, ⟨1, 1, 100⟩), (7, ⟨2, 1, 120⟩)]
    let kept : List (Nat × TraceRecord) := [(0, ⟨2, 0, 140⟩), (1, ⟨1, 2, 150⟩), (2, ⟨2, 2, 160⟩),
      (3, ⟨1, 1, 170⟩), (4, ⟨1, 2, 190⟩)]
    let whole := (tags.events .perTask (lost ++ kept)).drop 2
    let fresh := tags.events .perTask kept
    tags.FirstTurn .perTask kept 1 1 ⟨1, 2, 150⟩ ∧ tags.FirstTurn .perTask kept 2 2 ⟨2, 2, 160⟩ ∧
      whole[1]? = some ⟨1, ⟨1, 2, 150⟩, .finish, some 50⟩ ∧
      fresh[1]? = some ⟨1, ⟨1, 2, 150⟩, .finish, some 0⟩ ∧
      fresh[2]? = some ⟨2, ⟨2, 2, 160⟩, .finish, some 0⟩ ∧
      whole[4]? = fresh[4]? ∧ fresh[4]? = some ⟨4, ⟨1, 2, 190⟩, .finish, some 20⟩ := by
  intro tags lost kept whole fresh
  have first : tags.FirstTurn .perTask kept 1 1 ⟨1, 2, 150⟩ := by
    refine ⟨rfl, by decide, fun k entry before found => ?_⟩
    obtain rfl : k = 0 := by omega
    cases found
    decide
  have second : tags.FirstTurn .perTask kept 2 2 ⟨2, 2, 160⟩ := by
    refine ⟨rfl, by decide, fun k entry before found => ?_⟩
    obtain rfl | rfl : k = 0 ∨ k = 1 := by omega
    all_goals cases found; decide
  obtain ⟨-, -, agree, ends, unique⟩ := events_of_lost_beginning tags .perTask lost kept
  obtain ⟨_, -, missed⟩ := ends 1 1 ⟨1, 2, 150⟩ first (by decide)
  obtain ⟨_, -, missed'⟩ := ends 2 2 ⟨2, 2, 160⟩ second (by decide)
  refine ⟨first, second, by decide +kernel, missed, missed', agree 4 fun slot record other => ?_,
    by decide +kernel⟩
  -- The last end is of task 1, whose first turn is the record in slot 1.
  cases other.found
  exact absurd (unique 4 1 4 1 _ _ other first rfl) (by decide)

end TaskTrace

end SchedProbe
