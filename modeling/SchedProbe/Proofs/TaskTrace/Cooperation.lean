import Mathlib.Data.List.Chain
import SchedProbe.Proofs.Command.Outcome
import SchedProbe.Proofs.CommandLine.Output
import SchedProbe.Proofs.TaskTrace.Isolation

/-! Tasks that take turns. Where every run is ended, or begun again, by its own task before another task
runs, the clock of the running task shows what one clock for all tasks shows, and the two ways of timing
make the same events of a trace. On other traces they differ in nothing but run times. -/

set_option autoImplicit false

namespace SchedProbe.TaskTrace

def TagSet.turns (tags : TagSet) (records : List (Nat × TraceRecord)) : List (Nat × TraceRecord) :=
  records.filter fun entry => tags.classify entry.2.tag = .run ∨ tags.classify entry.2.tag = .finish

/-- Tasks take turns: between a run and the next run or end, which is of the same task, there are only
posts and unknown records. -/
def TagSet.Cooperative (tags : TagSet) (records : List (Nat × TraceRecord)) : Prop :=
  (tags.turns records).IsChain fun entry next => tags.classify entry.2.tag = .run → next.2.id = entry.2.id

instance (tags : TagSet) (records : List (Nat × TraceRecord)) : Decidable (tags.Cooperative records) :=
  inferInstanceAs (Decidable ((tags.turns records).IsChain _))

/-- Both clocks while at most one task runs: the clock of that task shows what the shared clock shows, and
no other clock shows anything. -/
structure InStep (running : Option UInt16) (last : Ticks) (starts : Std.ExtTreeMap UInt16 Ticks) :
    Prop where
  same : ∀ id ∈ running, (RunClock.perTask starts).lastStart id = last
  others : ∀ id, id ∉ running → (RunClock.perTask starts).lastStart id = 0
  idle : running = none → last = 0

variable {tags : TagSet} {running : Option UInt16} {last : Ticks} {starts : Std.ExtTreeMap UInt16 Ticks}
  {record : TraceRecord}

theorem InStep.lastStart (inStep : InStep running last starts) (turn : ∀ id ∈ running, record.id = id) :
    (RunClock.perTask starts).lastStart record.id = last := by
  cases running with
  | none => rw [inStep.others record.id (by simp), inStep.idle rfl]
  | some id => rw [turn id rfl, inStep.same id rfl]

theorem InStep.started (inStep : InStep running last starts) (turn : ∀ id ∈ running, record.id = id) :
    InStep (some record.id) record.value (starts.insert record.id record.value) where
  same := by simp [RunClock.lastStart]
  others id other := by
    have apart : record.id ≠ id := by simpa using other
    have unset : id ∉ running := fun member => apart (turn id member)
    have zero := inStep.others id unset
    simpa [RunClock.lastStart, Std.ExtTreeMap.getElem?_insert, apart] using zero
  idle := nofun

theorem InStep.clear (inStep : InStep running last starts) (turn : ∀ id ∈ running, record.id = id) :
    InStep none 0 (starts.erase record.id) where
  same := nofun
  others id _ := by
    by_cases own : record.id = id
    · simp [RunClock.lastStart, own]
    · have zero := inStep.others id fun member => own (turn id member)
      simpa [RunClock.lastStart, Std.ExtTreeMap.getElem?_erase, own] using zero
  idle _ := rfl

theorem turns_cons (slot : Nat) (record : TraceRecord) (rest : List (Nat × TraceRecord)) :
    tags.turns ((slot, record) :: rest) =
      if tags.classify record.tag = .run ∨ tags.classify record.tag = .finish then
        (slot, record) :: tags.turns rest
      else tags.turns rest := by
  simp only [TagSet.turns, List.filter_cons, decide_eq_true_eq]

-- By induction on the records: each one leaves the clocks in step, whichever task runs behind it.
theorem eventsFrom_eq_of_inStep {records : List (Nat × TraceRecord)}
    (inStep : InStep running last starts) (cooperative : tags.Cooperative records)
    (turn : ∀ next ∈ (tags.turns records).head?, ∀ id ∈ running, next.2.id = id) :
    tags.eventsFrom (.shared last) records = tags.eventsFrom (.perTask starts) records := by
  induction records generalizing running last starts with
  | nil => rfl
  | cons entry rest ih =>
    obtain ⟨slot, record⟩ := entry
    simp only [TagSet.Cooperative, turns_cons] at cooperative turn
    simp only [TagSet.eventsFrom, TagSet.step]
    cases kind : tags.classify record.tag with
    | post =>
      simp only [kind, reduceCtorEq, or_self, if_false] at cooperative turn
      exact congrArg (_ :: ·) (ih inStep cooperative turn)
    | unknown word =>
      simp only [kind, reduceCtorEq, or_self, if_false] at cooperative turn
      exact congrArg (_ :: ·) (ih inStep cooperative turn)
    | run =>
      simp only [kind, true_or, if_true, List.isChain_cons] at cooperative turn
      obtain ⟨next, cooperative⟩ := cooperative
      have own := turn (slot, record) rfl
      refine congrArg (_ :: ·) (ih (inStep.started own) cooperative fun after member id runs => ?_)
      cases runs
      exact next after member trivial
    | finish =>
      simp only [kind, or_true, if_true, List.isChain_cons] at cooperative turn
      obtain ⟨-, cooperative⟩ := cooperative
      have own := turn (slot, record) rfl
      have start := inStep.lastStart own
      have same : (RunClock.shared last).duration record.id record.value =
          (RunClock.perTask starts).duration record.id record.value := by
        simp only [RunClock.duration, start]
        rfl
      rw [same]
      exact congrArg (_ :: ·) (ih (inStep.clear own) cooperative fun _ _ id runs =>
        absurd runs (Option.not_mem_none id))

theorem events_legacy {records : List (Nat × TraceRecord)} (cooperative : tags.Cooperative records) :
    tags.events .legacy records = tags.events .perTask records := by
  have start : InStep none 0 ∅ :=
    ⟨fun id runs => absurd runs (Option.not_mem_none id), by simp [RunClock.lastStart], fun _ => rfl⟩
  exact eventsFrom_eq_of_inStep start cooperative fun _ _ id runs => absurd runs (Option.not_mem_none id)

structure Event.SameButTime (first second : Event) : Prop where
  slot : first.slot = second.slot
  record : first.record = second.record
  tag : first.tag = second.tag
  untimed : first.tag ≠ .finish → first.duration = second.duration
  timed : first.tag = .finish → first.duration.isSome ∧ second.duration.isSome

theorem eventsFrom_sameButTime (clock other : RunClock) (records : List (Nat × TraceRecord)) :
    List.Forall₂ Event.SameButTime (tags.eventsFrom clock records) (tags.eventsFrom other records) := by
  induction records generalizing clock other with
  | nil => exact .nil
  | cons entry rest ih =>
    refine .cons ?_ (ih _ _)
    rw [step_event, step_event]
    refine ⟨rfl, rfl, rfl, fun untimed => ?_, fun timed => ?_⟩
    · rw [if_neg untimed, if_neg untimed]
    · rw [if_pos timed, if_pos timed]
      exact ⟨rfl, rfl⟩

theorem TagSet.Cooperative.take {records : List (Nat × TraceRecord)} (cooperative : tags.Cooperative records)
    (k : Nat) : tags.Cooperative (records.take k) := by
  rw [Cooperative, turns, ← List.take_append_drop k records, List.filter_append] at cooperative
  exact cooperative.left_of_append

/-- Records that a capture shows of the trace, in the order in which their slots are read. -/
def Recorded (snapshot : Snapshot) (symbols : SchedulerSymbols) (records : List (Nat × TraceRecord)) :
    Prop :=
  ∃ size raw k, snapshot.length symbols.trace = .ok size ∧ snapshot.scalar symbols.traceNext = .ok raw ∧
    Ring.ReadFrom snapshot symbols.trace ((Ring.readOrder size raw).take k) records

theorem on_inspect_legacy {config : Config} {snapshot : Snapshot}
    (cooperative : ∀ tags records, (readTags config.symbols.scheduler).on snapshot = .ok tags →
      Recorded snapshot config.symbols.scheduler records → tags.Cooperative records) :
    (inspect { config with runTiming := .legacy }).on snapshot =
      (inspect { config with runTiming := .perTask }).on snapshot := by
  simp only [inspect, Inspection.on_bind]
  cases read : (readTags config.symbols.scheduler).on snapshot with
  | error failure => rfl
  | ok tags =>
    refine Ring.on_renderRing_congr fun size raw k entries sized indexed recorded => ?_
    have turns := cooperative tags entries read ⟨size, raw, k, sized, indexed, recorded⟩
    rw [listing_renderRecord, listing_renderRecord]
    exact congrArg _ (events_legacy turns)

/-- Of a ring that can be read whole it is enough that its records take turns. -/
theorem TagSet.Cooperative.of_recorded {snapshot : Snapshot} {symbols : SchedulerSymbols} {size : Nat}
    {raw : Int64} {records others : List (Nat × TraceRecord)} (cooperative : tags.Cooperative records)
    (sized : snapshot.length symbols.trace = .ok size) (indexed : snapshot.scalar symbols.traceNext = .ok raw)
    (read : Ring.ReadFrom snapshot symbols.trace (Ring.readOrder size raw) records)
    (recorded : Recorded snapshot symbols others) : tags.Cooperative others := by
  obtain ⟨_, _, k, sized', indexed', early⟩ := recorded
  cases sized.symm.trans sized'
  cases indexed.symm.trans indexed'
  rw [(read.take k).unique early fun _ _ => rfl]
  exact cooperative.take k

open CommandLine in
/-- On the traces of tasks that take turns both ways of timing make the same events, and the command shows
the same lines of a capture whose records do so, or those of them that can be read. On any trace at all they
make the same events but for the run times that ends show. -/
theorem timings_agree (config : Config) (snapshot : Snapshot) :
    (∀ (tags : TagSet) (records : List (Nat × TraceRecord)),
      (tags.Cooperative records → tags.events .legacy records = tags.events .perTask records) ∧
        List.Forall₂ Event.SameButTime (tags.events .legacy records) (tags.events .perTask records)) ∧
    ((∀ tags records, (readTags config.symbols.scheduler).on snapshot = .ok tags →
        Recorded snapshot config.symbols.scheduler records → tags.Cooperative records) →
      let legacy : Config := { config with runTiming := .legacy }
      let perTask : Config := { config with runTiming := .perTask }
      (Command.taskTrace legacy).inspection.on snapshot = (Command.taskTrace perTask).inspection.on snapshot ∧
        (runCommand (.standard legacy) snapshot "task-trace").lines =
          (runCommand (.standard perTask) snapshot "task-trace").lines) := by
  refine ⟨fun tags records => ⟨events_legacy, eventsFrom_sameButTime _ _ records⟩, fun cooperative => ?_⟩
  have same := on_inspect_legacy cooperative
  refine ⟨same, ?_⟩
  rw [lines_runCommand, lines_runCommand]
  exact congrArg resultLines same

/-- A ring that has gone round: read from slot 1 on, it begins with the end of a run that is lost, and ends
with a run that is not over. -/
def turnsCapture : Snapshot :=
  let symbols : SchedulerSymbols := {}
  let record (id tag time : Int64) : Fields := .ofNumbers [("num", id), ("ttype", tag), ("val", time)]
  (Snapshot.empty.withScalar symbols.tagPost 0)
    |>.withScalar symbols.tagRun 1
    |>.withScalar symbols.tagEnd 2
    |>.withScalar symbols.traceNext 1
    |>.withArray symbols.trace #[record 4 1 70, record 7 2 5, record 3 1 0, record 4 0 10, record 3 1 20,
        record 9 77 30, record 3 2 50, record 3 2 60]

theorem timings_agree_turns :
    let tags : TagSet := ⟨0, 1, 2⟩
    let records : List (Nat × TraceRecord) := [(1, ⟨7, 2, 5⟩), (2, ⟨3, 1, 0⟩), (3, ⟨4, 0, 10⟩),
      (4, ⟨3, 1, 20⟩), (5, ⟨9, 77, 30⟩), (6, ⟨3, 2, 50⟩), (7, ⟨3, 2, 60⟩), (0, ⟨4, 1, 70⟩)]
    tags.Cooperative records ∧ tags.events .legacy records = tags.events .perTask records ∧
      (Command.taskTrace { runTiming := .legacy }).inspection.on turnsCapture =
        (Command.taskTrace { runTiming := .perTask }).inspection.on turnsCapture := by
  intro tags records
  have cooperative : tags.Cooperative records := by decide +kernel
  have read : Ring.ReadFrom turnsCapture "SchedulerBasicP__task_trace" (Ring.readOrder 8 1) records :=
    ⟨by decide +kernel, by decide +kernel⟩
  obtain ⟨agree, shown⟩ := timings_agree {} turnsCapture
  refine ⟨cooperative, (agree tags records).1 cooperative, (shown fun tags' others taken recorded => ?_).1⟩
  obtain rfl : tags = tags' := Except.ok.inj (.trans (by decide +kernel) taken)
  exact cooperative.of_recorded rfl rfl read recorded

end SchedProbe.TaskTrace
