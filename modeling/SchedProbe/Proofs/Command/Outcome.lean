import SchedProbe.Command
import SchedProbe.Proofs.ReadyQueue.Captured
import SchedProbe.Proofs.ReadyQueue.Walk
import SchedProbe.Proofs.Ring.Listing
import SchedProbe.Proofs.TimerTable.Rows

/-! What the standard commands make of a capture. A command that does not show all it has to show has met a
read that fails or a damaged queue, and what it can show nevertheless is told by where that happened. -/

set_option autoImplicit false

namespace SchedProbe

open Inspection

variable (config : Config) (snapshot : Snapshot)

/-- The results that a command of a name can have. A ring is shown up to the slot that cannot be read, and a
queue up to the fault in it. A read that fails before anything can be shown leaves nothing to show. -/
inductive Outcome : String → Except Failure (List String) → Prop where
  | whole (name : String) (lines : List String) : Outcome name (.ok lines)
  | unread (name : String) (source : AccessError) : Outcome name (.error (.access source))
  | taskTrace {tags : TaskTrace.TagSet} {size : Nat} {entries : List (Nat × TraceRecord)}
      {source : AccessError} :
      (TaskTrace.readTags config.symbols.scheduler).on snapshot = .ok tags →
      Ring.CutShort snapshot config.symbols.scheduler.traceNext config.symbols.scheduler.trace size entries
        source →
      Outcome "task-trace" (.error (.incomplete "task-trace"
        ((tags.events config.runTiming entries).map (·.line config.tasks)) size source))
  | timerTrace {tags : TimerTrace.TagSet} {size : Nat} {entries : List (Nat × TraceRecord)}
      {source : AccessError} :
      (TimerTrace.readTags config.symbols.timers).on snapshot = .ok tags →
      Ring.CutShort snapshot config.symbols.timers.traceNext config.symbols.timers.trace size entries source →
      Outcome "timer-trace" (.error (.incomplete "timer-trace"
        (entries.map fun entry => tags.line config.timers entry.2) size source))
  | taskQueue {numTasks : Nat} {sentinel head tail : ReadyQueue.TaskId}
      {links : Array ReadyQueue.TaskId} {fault : ReadyQueue.Fault} {visited : List ReadyQueue.TaskId} :
      ReadyQueue.Held snapshot config.symbols.scheduler numTasks sentinel head tail links →
      ReadyQueue.Finds links sentinel head numTasks visited (some fault) →
      Outcome "task-queue" (.error (.corruptedQueue ⟨head, tail, fault, visited⟩))

theorem TaskTrace.listing_renderRecord (tags : TagSet) (names : Names) (clock : RunClock)
    (entries : List (Nat × TraceRecord)) :
    Ring.listing (renderRecord tags names) clock entries =
      (tags.eventsFrom clock entries).map (·.line names) := by
  induction entries generalizing clock with
  | nil => rfl
  | cons entry rest ih => exact congrArg (_ :: ·) (ih _)

variable {snapshot}

theorem outcome_of_unread {name : String} {inspection : Inspection (List String)}
    (unread : inspection.Unread snapshot) : Outcome config snapshot name (inspection.on snapshot) := by
  obtain ⟨source, failed⟩ := unread
  rw [failed]
  exact .unread name source

/-- Of what is read first it matters only whether it can be read. -/
theorem outcome_bind {α : Type} {name : String} {first : Inspection α} {rest : α → Inspection (List String)}
    (read : (∃ value, first.on snapshot = .ok value) ∨ first.Unread snapshot)
    (next : ∀ value, first.on snapshot = .ok value →
      Outcome config snapshot name ((rest value).on snapshot)) :
    Outcome config snapshot name ((first >>= rest).on snapshot) := by
  obtain ⟨value, read⟩ | ⟨source, unread⟩ := read
  · simp only [on_bind, read]
    exact next value read
  · simp only [on_bind, unread]
    exact .unread name source

theorem outcome_renderRing {σ : Type} {name : String} {next array : Symbol}
    {render : σ → Nat → TraceRecord → String × σ} {start : σ}
    (short : ∀ {size entries source}, Ring.CutShort snapshot next array size entries source →
      Outcome config snapshot name
        (.error (.incomplete name (Ring.listing render start entries) size source))) :
    Outcome config snapshot name ((Ring.renderRing next array name render start).on snapshot) := by
  obtain ⟨lines, done⟩ | unread | ⟨size, entries, source, cut, failed⟩ :=
    Ring.on_renderRing_cases next array name render start snapshot
  · rw [done]
    exact .whole name lines
  · exact outcome_of_unread config unread
  · rw [failed]
    exact short cut

variable (snapshot)

theorem TaskTrace.readTags_or_unread (symbols : SchedulerSymbols) :
    (∃ tags, (readTags symbols).on snapshot = .ok tags) ∨ (readTags symbols).Unread snapshot := by
  refine or_unread_bind (scalar_or_unread _) fun post readPost => ?_
  refine or_unread_bind (scalar_or_unread _) fun run readRun => ?_
  refine or_unread_bind (scalar_or_unread _) fun finish readFinish => ?_
  refine .inl ⟨⟨post, run, finish⟩, ?_⟩
  simp only [readTags, on_bind, readPost, readRun, readFinish]
  rfl

theorem TimerTrace.readTags_or_unread (symbols : TimerSymbols) :
    (∃ tags, (readTags symbols).on snapshot = .ok tags) ∨ (readTags symbols).Unread snapshot := by
  refine or_unread_bind (scalar_or_unread _) fun startTicks readTicks => ?_
  refine or_unread_bind (scalar_or_unread _) fun startMicros readMicros => ?_
  refine or_unread_bind (scalar_or_unread _) fun stopped readStopped => ?_
  refine or_unread_bind (scalar_or_unread _) fun fired readFired => ?_
  refine or_unread_bind (scalar_or_unread _) fun finish readFinish => ?_
  refine or_unread_bind (scalar_or_unread _) fun delta readDelta => ?_
  refine .inl ⟨⟨startTicks, startMicros, stopped, fired, finish, delta⟩, ?_⟩
  simp only [readTags, on_bind, readTicks, readMicros, readStopped, readFired, readFinish, readDelta]
  rfl

theorem TaskTrace.outcome_inspect :
    Outcome config snapshot "task-trace" ((inspect config).on snapshot) := by
  refine outcome_bind config (readTags_or_unread snapshot _) fun tags read => ?_
  refine outcome_renderRing config fun cut => ?_
  rw [listing_renderRecord]
  exact .taskTrace read cut

theorem TimerTrace.outcome_inspect :
    Outcome config snapshot "timer-trace" ((inspect config).on snapshot) := by
  refine outcome_bind config (readTags_or_unread snapshot _) fun tags read => ?_
  refine outcome_renderRing config fun cut => ?_
  rw [Ring.listing_stateless]
  exact .timerTrace read cut

theorem ReadyQueue.outcome_inspect :
    Outcome config snapshot "task-queue" ((inspect config).on snapshot) := by
  obtain ⟨numTasks, sentinel, head, tail, links, held⟩ | unread := held_or_unread snapshot config
  · obtain ⟨visited, fault, finds⟩ := exists_finds links sentinel head numTasks
    rw [on_inspect held, walk_of_finds finds]
    cases fault with
    | none => exact .whole _ _
    | some fault => exact .taskQueue held finds
  · exact outcome_of_unread config unread

theorem TimerTable.outcome_inspect :
    Outcome config snapshot "timer-dump" ((inspect config).on snapshot) := by
  refine outcome_bind config (scalarId_or_unread _) fun count _ => ?_
  refine outcome_bind config (length_or_unread _) fun size _ => ?_
  by_cases short : size < count.toNat
  · simp only [if_pos short, on_bind, on_throw]
    exact .unread _ _
  · simp only [if_neg short]
    refine outcome_bind config (.inl ⟨(), rfl⟩) fun _ _ => ?_
    refine outcome_bind config (elements_or_unread _ _ _) fun timers _ => ?_
    rw [on_dump]
    exact .whole _ _

theorem standard_outcome {command : Command} (member : command ∈ Command.standard config) :
    Outcome config snapshot command.name (command.inspection.on snapshot) := by
  simp only [Command.standard, List.mem_cons, List.not_mem_nil, or_false] at member
  obtain rfl | rfl | rfl | rfl := member
  · exact TaskTrace.outcome_inspect config snapshot
  · exact ReadyQueue.outcome_inspect config snapshot
  · exact TimerTrace.outcome_inspect config snapshot
  · exact TimerTable.outcome_inspect config snapshot

end SchedProbe
