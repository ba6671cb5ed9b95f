import SchedProbe.Command
import SchedProbe.Proofs.Ring.Listing
import SchedProbe.Proofs.Target.Plan

/-! The reads of the standard commands. Each command has a fixed plan: its scalars, the length of its array,
and one read for each element, where only what came back for the length, the next-write index or the count
bears on which elements those are. -/

set_option autoImplicit false

namespace SchedProbe

/-- The length that came back at a position of a run, zero if none did. -/
def lengthAt (exchanges : List Exchange) (position : Nat) : Nat :=
  match exchanges[position]? with
  | some ⟨.length _, .ok size⟩ => size
  | _ => 0

def numberAt (exchanges : List Exchange) (position : Nat) : Int64 :=
  match exchanges[position]? with
  | some ⟨.scalar _, .ok value⟩ => value
  | _ => 0

def Ring.slotReads (array : Symbol) (capacity : Nat) (raw : Int64) : List Read :=
  (order capacity raw).map (.element array TraceRecord.ofElement)

def TaskTrace.reads (symbols : SchedulerSymbols) : Plan := fun exchanges =>
  [.scalar symbols.tagPost, .scalar symbols.tagRun, .scalar symbols.tagEnd,
    .length 0 symbols.trace, .scalar symbols.traceNext] ++
  Ring.slotReads symbols.trace (lengthAt exchanges 3) (numberAt exchanges 4)

def TimerTrace.reads (symbols : TimerSymbols) : Plan := fun exchanges =>
  [.scalar symbols.tagStartTicks, .scalar symbols.tagStartMicros, .scalar symbols.tagStopped,
    .scalar symbols.tagFired, .scalar symbols.tagEnd, .scalar symbols.tagDelta,
    .length 0 symbols.trace, .scalar symbols.traceNext] ++
  Ring.slotReads symbols.trace (lengthAt exchanges 6) (numberAt exchanges 7)

def ReadyQueue.reads (symbols : SchedulerSymbols) : Plan := fun exchanges =>
  [.scalarAs .size symbols.numTasks, .scalarAs .u16 symbols.noTask, .scalarAs .u16 symbols.queueHead,
    .scalarAs .u16 symbols.queueTail, .length 0 symbols.queueNext] ++
  (List.range (lengthAt exchanges 4)).map (.element symbols.queueNext (·.getId "value"))

/-- The count comes back first, and an array shorter than it is of no use. -/
def TimerTable.reads (symbols : TimerSymbols) : Plan := fun exchanges =>
  let count := (numberAt exchanges 0).toInt.toNat
  [.scalarAs .u16 symbols.numTimers, .length count symbols.descriptors] ++
  (List.range count).map (.element symbols.descriptors Descriptor.ofElement)

def Command.plans (config : Config) : List (Command × Plan) :=
  [(taskTrace config, TaskTrace.reads config.symbols.scheduler),
    (taskQueue config, ReadyQueue.reads config.symbols.scheduler),
    (timerTrace config, TimerTrace.reads config.symbols.timers),
    (timerDump config, TimerTable.reads config.symbols.timers)]

variable {σ : Type} {target : Target σ}

open Inspection

theorem Ring.keepsTo_renderSlots {τ : Type} {array : Symbol} {command : String} {total : Nat}
    {render : τ → Nat → TraceRecord → String × τ} (slots : List UInt64) (state : τ)
    (lines : Array String) :
    KeepsTo target (renderSlots array command total render slots state lines) fun _ =>
      (slots.map UInt64.toNat).map (.element array TraceRecord.ofElement) := by
  induction slots generalizing state lines with
  | nil => exact keepsTo_pure _
  | cons slot rest ih =>
    rw [renderSlots_cons]
    exact keepsTo_element_bind fun _ record _ => ih _ _

section Arrays

variable (small : ∀ symbol state (size : Nat), (target (.length symbol) state).1 = .ok size → size < 2 ^ 58)

include small

theorem Ring.keepsTo_renderRing {τ : Type} {next array : Symbol} {command : String}
    {render : τ → Nat → TraceRecord → String × τ} {start : τ} :
    KeepsTo target (renderRing next array command render start) fun exchanges =>
      .length 0 array :: .scalar next :: slotReads array (lengthAt exchanges 0) (numberAt exchanges 1) := by
  refine keepsTo_length_bind 0 (fun state (size : Nat) replied _ => ?_) fun _ below =>
    absurd below (Nat.not_lt_zero _)
  refine keepsTo_scalar_bind fun raw => ?_
  have bound : size ≤ 2 ^ 63 := by
    have := small array state size replied
    omega
  -- The slots are fixed from here on, by what came back for the length and the index.
  have listed : KeepsTo target (renderSlots array command size render
      (Cursor.ofRaw (UInt64.ofNat size) raw).slots.toList start #[]) fun _ => slotReads array size raw := by
    rw [slotReads, ← toNat_slots_ofRaw bound]
    exact keepsTo_renderSlots _ _ _
  dsimp only
  split
  · exact keepsTo_log_bind (keepsTo_log_bind listed)
  · exact keepsTo_log_bind listed

theorem TaskTrace.keepsTo_inspect (config : Config) :
    KeepsTo target (inspect config) (reads config.symbols.scheduler) := by
  simp only [inspect, readTags, bind_assoc, pure_bind]
  exact keepsTo_scalar_bind fun _ => keepsTo_scalar_bind fun _ => keepsTo_scalar_bind fun _ =>
    Ring.keepsTo_renderRing small

theorem TimerTrace.keepsTo_inspect (config : Config) :
    KeepsTo target (inspect config) (reads config.symbols.timers) := by
  simp only [inspect, readTags, bind_assoc, pure_bind]
  exact keepsTo_scalar_bind fun _ => keepsTo_scalar_bind fun _ => keepsTo_scalar_bind fun _ =>
    keepsTo_scalar_bind fun _ => keepsTo_scalar_bind fun _ => keepsTo_scalar_bind fun _ =>
      Ring.keepsTo_renderRing small

end Arrays

theorem ReadyQueue.keepsTo_report (head tail : TaskId) (links : Array TaskId) (sentinel : TaskId)
    (maxSteps : Nat) : KeepsTo target (report head tail links sentinel maxSteps) fun _ => [] := by
  unfold report
  cases walk head tail links sentinel maxSteps with
  | error queue => exact keepsTo_log_bind (keepsTo_throw _)
  | ok walked =>
    dsimp only
    split
    · exact keepsTo_pure _
    · exact keepsTo_log_bind (keepsTo_pure _)

theorem ReadyQueue.keepsTo_inspect (config : Config) :
    KeepsTo target (inspect config) (reads config.symbols.scheduler) := by
  refine keepsTo_scalarAs_bind fun _ _ => keepsTo_scalarId_bind fun _ _ => keepsTo_scalarId_bind fun _ _ =>
    keepsTo_scalarId_bind fun _ _ => keepsTo_length_bind 0 (fun _ size _ _ => ?_)
      fun _ below => absurd below (Nat.not_lt_zero _)
  exact keepsTo_elements_bind (fun links => keepsTo_log_bind (keepsTo_report _ _ _ _ _)) size

theorem TimerTable.keepsTo_dump (names : Names) (timers : List Descriptor) :
    KeepsTo target (dump names timers) fun _ => [] := by
  unfold dump
  split
  · exact keepsTo_log_bind (keepsTo_pure _)
  · exact keepsTo_pure _

theorem TimerTable.keepsTo_inspect (config : Config) :
    KeepsTo target (inspect config) (reads config.symbols.timers) := by
  refine keepsTo_scalarId_bind fun count holds => ?_
  -- The count fits the word it is narrowed to, so as many timers are read as it says.
  have same : (UInt16.ofNat count.toInt.toNat).toNat = count.toInt.toNat := by
    refine UInt16.toNat_ofNat_of_lt' ?_
    have := holds.2
    simp only [IntKind.greatest] at this
    rw [UInt16.size]
    omega
  rw [same]
  change KeepsTo target _ fun _ => .length count.toInt.toNat config.symbols.timers.descriptors ::
    (List.range count.toInt.toNat).map (.element config.symbols.timers.descriptors Descriptor.ofElement)
  refine keepsTo_length_bind _ (fun _ size _ enough => ?_) fun size short _ => ?_
  · dsimp only
    rw [if_neg (Nat.not_lt.2 enough)]
    exact keepsTo_log_bind (keepsTo_elements_bind (fun _ => keepsTo_dump _ _) _)
  · dsimp only
    rw [if_pos short]
    rfl

/-- A command reads by its plan, whatever the target does in between: its queries begin the plan, all but
the last were answered with something it could use, and they go on to the end of the plan unless the last
one was not. -/
theorem standard_reads (config : Config) (target : Target σ) (state : σ)
    (small : ∀ symbol state (size : Nat), (target (.length symbol) state).1 = .ok size → size < 2 ^ 58) :
    (Command.plans config).map Prod.fst = Command.standard config ∧
    ∀ command plan, (command, plan) ∈ Command.plans config →
      let exchanges := command.inspection.run.exchanges target state
      command.inspection.run.queries target state <+: (plan exchanges).map Read.query ∧
      Follows (plan exchanges) exchanges := by
  refine ⟨rfl, fun command plan member => ?_⟩
  have keeps : KeepsTo target command.inspection plan := by
    simp only [Command.plans, List.mem_cons, List.not_mem_nil, or_false, Prod.mk.injEq] at member
    obtain ⟨rfl, rfl⟩ | ⟨rfl, rfl⟩ | ⟨rfl, rfl⟩ | ⟨rfl, rfl⟩ := member
    · exact keepsTo_log_bind (TaskTrace.keepsTo_inspect small config)
    · exact keepsTo_log_bind (ReadyQueue.keepsTo_inspect config)
    · exact keepsTo_log_bind (TimerTrace.keepsTo_inspect small config)
    · exact keepsTo_log_bind (TimerTable.keepsTo_inspect config)
  rw [← Probe.map_query_exchanges]
  exact ⟨(keeps state).isPrefix, keeps state⟩

def fading : Target Nat := fun query asked =>
  (if asked < 7 then
    match query with
    | .scalar _ => .ok 2
    | .length _ => .ok 4
    | .element symbol index =>
      .ok ⟨symbol, index, Fields.ofNumbers [("num", 1), ("ttype", 2), ("val", 300)]⟩
  else .error (.unavailable "link lost"), asked + 1)

-- The third slot read, which is the first behind the wrap, is not answered, and no other is tried.
theorem standard_reads_fading :
    (∀ symbol asked (size : Nat), (fading (.length symbol) asked).1 = .ok size → size < 2 ^ 58) ∧
    let symbols : SchedulerSymbols := {}
    let command := Command.taskTrace {}
    let exchanges := command.inspection.run.exchanges fading 0
    command.inspection.run.queries fading 0 =
        [.scalar symbols.tagPost, .scalar symbols.tagRun, .scalar symbols.tagEnd, .length symbols.trace,
          .scalar symbols.traceNext, .element symbols.trace 2, .element symbols.trace 3,
          .element symbols.trace 0] ∧
      Follows (TaskTrace.reads symbols exchanges) exchanges := by
  have small : ∀ symbol asked (size : Nat),
      (fading (.length symbol) asked).1 = .ok size → size < 2 ^ 58 := by
    intro symbol asked size replied
    unfold fading at replied
    split at replied
    · cases replied
      omega
    · cases replied
  have member : (Command.taskTrace {}, TaskTrace.reads {}) ∈ Command.plans {} := List.mem_cons_self
  exact ⟨small, by decide +kernel, ((standard_reads {} fading 0 small).2 _ _ member).2⟩

end SchedProbe
