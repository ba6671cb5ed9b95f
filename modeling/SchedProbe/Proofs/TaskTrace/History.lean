import SchedProbe.Proofs.TaskTrace.Isolation

/-! What clocks keep of the records before. The start an end is measured from was left by the last record
before it that begins or ends a run on the same clock; without such a record the clock shows what it showed
at the beginning. -/

set_option autoImplicit false

namespace SchedProbe

/-- Whether one clock keeps the time of both tasks. -/
def RunTiming.Shares : RunTiming → UInt16 → UInt16 → Prop
  | .legacy, _, _ => True
  | .perTask, id, other => id = other

instance (timing : RunTiming) (id other : UInt16) : Decidable (timing.Shares id other) :=
  match timing with
  | .legacy => .isTrue trivial
  | .perTask => instDecidableEqUInt16 id other

theorem RunTiming.Shares.refl (timing : RunTiming) (id : UInt16) : timing.Shares id id := by
  cases timing with
  | legacy => trivial
  | perTask => rfl

namespace TaskTrace

namespace RunClock

def timing : RunClock → RunTiming
  | shared _ => .legacy
  | perTask _ => .perTask

theorem timing_fresh (timing : RunTiming) : (fresh timing).timing = timing := by
  cases timing <;> rfl

theorem timing_started (clock : RunClock) (id : UInt16) (time : Ticks) :
    (clock.started id time).timing = clock.timing := by
  cases clock <;> rfl

theorem timing_clear (clock : RunClock) (id : UInt16) : (clock.clear id).timing = clock.timing := by
  cases clock <;> rfl

theorem lastStart_fresh (timing : RunTiming) (id : UInt16) : (fresh timing).lastStart id = 0 := by
  cases timing with
  | legacy => rfl
  | perTask => simp [fresh, lastStart]

theorem lastStart_started (clock : RunClock) (id other : UInt16) (time : Ticks) :
    (clock.started id time).lastStart other =
      if clock.timing.Shares id other then time else clock.lastStart other := by
  cases clock with
  | shared last => exact (if_pos trivial).symm
  | perTask last =>
    by_cases own : id = other
    · simp [started, lastStart, timing, RunTiming.Shares, own]
    · simp [started, lastStart, timing, RunTiming.Shares, Std.ExtTreeMap.getElem?_insert, own]

theorem lastStart_clear (clock : RunClock) (id other : UInt16) :
    (clock.clear id).lastStart other =
      if clock.timing.Shares id other then 0 else clock.lastStart other := by
  cases clock with
  | shared last => exact (if_pos trivial).symm
  | perTask last =>
    by_cases own : id = other
    · simp [clear, lastStart, timing, RunTiming.Shares, own]
    · simp [clear, lastStart, timing, RunTiming.Shares, Std.ExtTreeMap.getElem?_erase, own]

end RunClock

/-- A record begins or ends a run on the clock that keeps the time of task `id`. -/
def TagSet.TurnFor (tags : TagSet) (timing : RunTiming) (id : UInt16) (record : TraceRecord) : Prop :=
  (tags.classify record.tag = .run ∨ tags.classify record.tag = .finish) ∧ timing.Shares record.id id

instance (tags : TagSet) (timing : RunTiming) (id : UInt16) (record : TraceRecord) :
    Decidable (tags.TurnFor timing id record) :=
  inferInstanceAs (Decidable (_ ∧ _))

/-- The start that a record leaves behind which begins or ends a run. -/
def TagSet.startLeft (tags : TagSet) (turn : TraceRecord) : Ticks :=
  if tags.classify turn.tag = .run then turn.value else 0

def TagSet.clockAfter (tags : TagSet) (clock : RunClock) (records : List (Nat × TraceRecord)) : RunClock :=
  records.foldl (fun clock entry => (tags.step clock entry.1 entry.2).2) clock

variable {tags : TagSet}

theorem timing_step (clock : RunClock) (slot : Nat) (record : TraceRecord) :
    (tags.step clock slot record).2.timing = clock.timing := by
  simp only [TagSet.step]
  cases tags.classify record.tag with
  | run => exact clock.timing_started record.id record.value
  | finish => exact clock.timing_clear record.id
  | post => rfl
  | unknown word => rfl

theorem lastStart_step (clock : RunClock) (slot : Nat) (record : TraceRecord) (id : UInt16) :
    (tags.step clock slot record).2.lastStart id =
      if tags.TurnFor clock.timing id record then tags.startLeft record else clock.lastStart id := by
  cases kind : tags.classify record.tag with
  | run => simp [TagSet.step, TagSet.TurnFor, TagSet.startLeft, kind, RunClock.lastStart_started]
  | finish => simp [TagSet.step, TagSet.TurnFor, TagSet.startLeft, kind, RunClock.lastStart_clear]
  | post => simp [TagSet.step, TagSet.TurnFor, kind]
  | unknown word => simp [TagSet.step, TagSet.TurnFor, kind]

theorem timing_clockAfter (clock : RunClock) (records : List (Nat × TraceRecord)) :
    (tags.clockAfter clock records).timing = clock.timing := by
  induction records generalizing clock with
  | nil => rfl
  | cons entry rest ih => exact (ih _).trans (timing_step clock entry.1 entry.2)

theorem clockAfter_concat (clock : RunClock) (records : List (Nat × TraceRecord)) (slot : Nat)
    (record : TraceRecord) :
    tags.clockAfter clock (records ++ [(slot, record)]) =
      (tags.step (tags.clockAfter clock records) slot record).2 := by
  simp only [TagSet.clockAfter, List.foldl_append, List.foldl_cons, List.foldl_nil]

theorem eventsFrom_append (clock : RunClock) (before after : List (Nat × TraceRecord)) :
    tags.eventsFrom clock (before ++ after) =
      tags.eventsFrom clock before ++ tags.eventsFrom (tags.clockAfter clock before) after := by
  induction before generalizing clock with
  | nil => rfl
  | cons entry rest ih =>
    simp only [List.cons_append, TagSet.eventsFrom, ih]
    rfl

theorem length_eventsFrom (clock : RunClock) (records : List (Nat × TraceRecord)) :
    (tags.eventsFrom clock records).length = records.length := by
  rw [← congrArg List.length (eventsFrom_entries tags clock records), List.length_map]

/-- The event of a record is made by the clock that the records before it leave. -/
theorem getElem?_eventsFrom {clock : RunClock} {records : List (Nat × TraceRecord)} {k slot : Nat}
    {record : TraceRecord} (found : records[k]? = some (slot, record)) :
    (tags.eventsFrom clock records)[k]? =
      some (tags.step (tags.clockAfter clock (records.take k)) slot record).1 := by
  obtain ⟨inside, here⟩ := List.getElem?_eq_some_iff.1 found
  have split : records = records.take k ++ (slot, record) :: records.drop (k + 1) := by
    rw [← here, List.getElem_cons_drop, List.take_append_drop]
  have length : (tags.eventsFrom clock (records.take k)).length = k := by
    rw [length_eventsFrom, List.length_take, Nat.min_eq_left (Nat.le_of_lt inside)]
  rw [congrArg (tags.eventsFrom clock) split, eventsFrom_append,
    List.getElem?_append_right (Nat.le_of_eq length), length, Nat.sub_self]
  rfl

/-- The record at position `i` is the last before position `j` that begins or ends a run on the clock of
task `id`. -/
structure TagSet.LastTurn (tags : TagSet) (timing : RunTiming) (id : UInt16)
    (records : List (Nat × TraceRecord)) (j i : Nat) (turn : TraceRecord) : Prop where
  earlier : i < j
  found : ∃ slot, records[i]? = some (slot, turn)
  turn : tags.TurnFor timing id turn
  last : ∀ k entry, i < k → k < j → records[k]? = some entry → ¬ tags.TurnFor timing id entry.2

def TagSet.NoTurn (tags : TagSet) (timing : RunTiming) (id : UInt16) (records : List (Nat × TraceRecord))
    (j : Nat) : Prop :=
  ∀ k entry, k < j → records[k]? = some entry → ¬ tags.TurnFor timing id entry.2

variable {timing : RunTiming} {id : UInt16} {records : List (Nat × TraceRecord)} {i i' j : Nat}
  {turn turn' : TraceRecord}

theorem TagSet.LastTurn.not_noTurn (lastTurn : tags.LastTurn timing id records j i turn) :
    ¬ tags.NoTurn timing id records j := by
  obtain ⟨slot, found⟩ := lastTurn.found
  exact fun none => none i (slot, turn) lastTurn.earlier found lastTurn.turn

theorem TagSet.LastTurn.not_lt (lastTurn : tags.LastTurn timing id records j i turn)
    (other : tags.LastTurn timing id records j i' turn') : ¬ i < i' := by
  obtain ⟨slot, found⟩ := other.found
  exact fun later => lastTurn.last i' (slot, turn') later other.earlier found other.turn

theorem TagSet.LastTurn.unique (lastTurn : tags.LastTurn timing id records j i turn)
    (other : tags.LastTurn timing id records j i' turn') : turn = turn' := by
  obtain rfl : i = i' := Nat.le_antisymm (Nat.not_lt.1 (other.not_lt lastTurn))
    (Nat.not_lt.1 (lastTurn.not_lt other))
  obtain ⟨slot, found⟩ := lastTurn.found
  obtain ⟨slot', found'⟩ := other.found
  exact congrArg Prod.snd (Option.some.inj (found.symm.trans found'))

/-- A record that leaves the clock alone leaves the last turn the last. -/
theorem TagSet.LastTurn.succ (lastTurn : tags.LastTurn timing id records j i turn)
    (passed : ∀ entry, records[j]? = some entry → ¬ tags.TurnFor timing id entry.2) :
    tags.LastTurn timing id records (j + 1) i turn where
  earlier := Nat.lt_succ_of_lt lastTurn.earlier
  found := lastTurn.found
  turn := lastTurn.turn
  last k entry later before found := by
    obtain before | rfl := Nat.lt_succ_iff_lt_or_eq.1 before
    · exact lastTurn.last k entry later before found
    · exact passed entry found

theorem TagSet.NoTurn.succ (noTurn : tags.NoTurn timing id records j)
    (passed : ∀ entry, records[j]? = some entry → ¬ tags.TurnFor timing id entry.2) :
    tags.NoTurn timing id records (j + 1) := by
  intro k entry before found
  obtain before | rfl := Nat.lt_succ_iff_lt_or_eq.1 before
  · exact noTurn k entry before found
  · exact passed entry found

theorem lastTurn_succ {slot : Nat} (found : records[j]? = some (slot, turn))
    (turns : tags.TurnFor timing id turn) : tags.LastTurn timing id records (j + 1) j turn :=
  ⟨Nat.lt_succ_self j, ⟨slot, found⟩, turns, fun _ _ later before => by omega⟩

theorem lastStart_clockAfter_succ (clock : RunClock) {slot : Nat} {record : TraceRecord}
    (found : records[j]? = some (slot, record)) :
    (tags.clockAfter clock (records.take (j + 1))).lastStart id =
      if tags.TurnFor clock.timing id record then tags.startLeft record
      else (tags.clockAfter clock (records.take j)).lastStart id := by
  rw [List.take_add_one, found, Option.toList_some, clockAfter_concat, lastStart_step, timing_clockAfter]

-- By induction on the position: the record there is itself the last turn, or it passes on what the records
-- before it left.
theorem lastStart_clockAfter (tags : TagSet) (clock : RunClock) (id : UInt16)
    (records : List (Nat × TraceRecord)) (j : Nat) :
    (tags.NoTurn clock.timing id records j ∧
        (tags.clockAfter clock (records.take j)).lastStart id = clock.lastStart id) ∨
      ∃ i turn, tags.LastTurn clock.timing id records j i turn ∧
        (tags.clockAfter clock (records.take j)).lastStart id = tags.startLeft turn := by
  induction j with
  | zero => exact .inl ⟨nofun, rfl⟩
  | succ j ih =>
    cases found : records[j]? with
    | none =>
      have same : records.take (j + 1) = records.take j := by
        rw [List.take_add_one, found, Option.toList_none, List.append_nil]
      have passed : ∀ entry, records[j]? = some entry → ¬ tags.TurnFor clock.timing id entry.2 := by
        simp [found]
      rw [same]
      exact ih.imp (.imp_left (·.succ passed)) fun ⟨i, turn, last, left⟩ => ⟨i, turn, last.succ passed, left⟩
    | some entry =>
      obtain ⟨slot, record⟩ := entry
      rw [lastStart_clockAfter_succ clock found]
      by_cases turns : tags.TurnFor clock.timing id record
      · exact .inr ⟨j, record, lastTurn_succ found turns, if_pos turns⟩
      · have passed : ∀ entry, records[j]? = some entry → ¬ tags.TurnFor clock.timing id entry.2 := by
          simpa [found] using turns
        rw [if_neg turns]
        exact ih.imp (.imp_left (·.succ passed))
          fun ⟨i, turn, last, left⟩ => ⟨i, turn, last.succ passed, left⟩

theorem lastStart_of_noTurn {clock : RunClock} (noTurn : tags.NoTurn clock.timing id records j) :
    (tags.clockAfter clock (records.take j)).lastStart id = clock.lastStart id := by
  obtain ⟨-, kept⟩ | ⟨i, turn, lastTurn, -⟩ := lastStart_clockAfter tags clock id records j
  · exact kept
  · exact absurd noTurn lastTurn.not_noTurn

theorem lastStart_of_lastTurn {clock : RunClock} (lastTurn : tags.LastTurn clock.timing id records j i turn) :
    (tags.clockAfter clock (records.take j)).lastStart id = tags.startLeft turn := by
  obtain ⟨noTurn, -⟩ | ⟨_, other, otherLast, left⟩ := lastStart_clockAfter tags clock id records j
  · exact absurd noTurn lastTurn.not_noTurn
  · rw [left, lastTurn.unique otherLast]

/-- The time that an end shows, by the last turn before it. -/
theorem duration_of_lastTurn {clock : RunClock} (lastTurn : tags.LastTurn clock.timing id records j i turn)
    (time : Ticks) :
    (tags.clockAfter clock (records.take j)).duration id time =
      if tags.classify turn.tag = .run ∧ turn.value ≠ 0 then (time.toNat : Int) - turn.value.toNat
      else 0 := by
  rw [RunClock.duration, lastStart_of_lastTurn lastTurn, TagSet.startLeft]
  by_cases run : tags.classify turn.tag = .run
  · by_cases zero : turn.value = 0 <;> simp [run, zero]
  · simp [run]

theorem duration_of_noTurn (noTurn : tags.NoTurn timing id records j) (time : Ticks) :
    (tags.clockAfter (.fresh timing) (records.take j)).duration id time = 0 := by
  have zero : (tags.clockAfter (.fresh timing) (records.take j)).lastStart id = 0 := by
    rw [← RunClock.timing_fresh timing] at noTurn
    rw [lastStart_of_noTurn noTurn, RunClock.lastStart_fresh]
  exact if_pos zero

end TaskTrace

end SchedProbe
