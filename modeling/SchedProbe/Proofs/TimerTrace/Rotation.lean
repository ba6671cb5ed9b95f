import SchedProbe.Command
import SchedProbe.Proofs.Ring.Rotation
import SchedProbe.Proofs.Snapshot.Updates

/-! The timer trace of a target caught while it moved its next-write index. Each record is shown for itself,
so a wrong index only moves the line that comes first. -/

set_option autoImplicit false

namespace SchedProbe.TimerTrace

open Inspection

def tagSymbols (symbols : TimerSymbols) : List Symbol :=
  [symbols.tagStartTicks, symbols.tagStartMicros, symbols.tagStopped, symbols.tagFired, symbols.tagEnd,
    symbols.tagDelta]

theorem readTags_withScalar {symbols : TimerSymbols} {symbol : Symbol} (apart : symbol ∉ tagSymbols symbols)
    (snapshot : Snapshot) (value : Int64) :
    (readTags symbols).on (snapshot.withScalar symbol value) = (readTags symbols).on snapshot := by
  simp only [tagSymbols, List.mem_cons, List.not_mem_nil, or_false, not_or] at apart
  obtain ⟨startTicks, startMicros, stopped, fired, finish, delta⟩ := apart
  simp only [readTags, on_bind, on_scalar, on_pure, Snapshot.scalar_withScalar_of_ne startTicks,
    Snapshot.scalar_withScalar_of_ne startMicros, Snapshot.scalar_withScalar_of_ne stopped,
    Snapshot.scalar_withScalar_of_ne fired, Snapshot.scalar_withScalar_of_ne finish,
    Snapshot.scalar_withScalar_of_ne delta]

theorem readTags_of_inspect {config : Config} {snapshot : Snapshot} {lines : List String}
    (shown : (inspect config).on snapshot = .ok lines) :
    ∃ tags, (readTags config.symbols.timers).on snapshot = .ok tags := by
  rw [inspect, on_bind] at shown
  cases read : (readTags config.symbols.timers).on snapshot with
  | error failure =>
    rw [read] at shown
    cases shown
  | ok tags => exact ⟨tags, rfl⟩

section Listing

variable {config : Config} {snapshot : Snapshot} {tags : TagSet}
  (read : (readTags config.symbols.timers).on snapshot = .ok tags)

include read

theorem on_inspect : (inspect config).on snapshot =
    (Ring.renderRing config.symbols.timers.traceNext config.symbols.timers.trace "timer-trace"
      (fun _ _ record => (tags.line config.timers record, ())) ()).on snapshot := by
  rw [inspect, on_bind, read]
  rfl

variable {size : Nat} (sized : snapshot.length config.symbols.timers.trace = .ok size)
  (small : size ≤ 2 ^ 63) {entries : List (Nat × TraceRecord)}
  (held : Ring.ReadFrom snapshot config.symbols.timers.trace (List.range size) entries)

include sized small held

theorem on_inspect_of_readFrom {raw : Int64}
    (indexed : snapshot.scalar config.symbols.timers.traceNext = .ok raw) :
    (inspect config).on snapshot =
      .ok ((entries.map fun entry => tags.line config.timers entry.2).rotate (Ring.oldest size raw)) := by
  rw [on_inspect read]
  exact Ring.on_renderRing_stateless sized indexed small held

theorem on_inspect_withScalar (apart : config.symbols.timers.traceNext ∉ tagSymbols config.symbols.timers)
    (raw : Int64) :
    (inspect config).on (snapshot.withScalar config.symbols.timers.traceNext raw) =
      .ok ((entries.map fun entry => tags.line config.timers entry.2).rotate (Ring.oldest size raw)) := by
  refine on_inspect_of_readFrom ?_ (Snapshot.length_withScalar sized) small (held.withScalar sized _ _)
    Snapshot.scalar_withScalar_self
  rw [readTags_withScalar apart, read]

end Listing

/-- The number read for the next-write index decides which line of the timer trace comes first, and nothing
else. A trace that is shown with one number is shown with every other: the slots have a line each, made of
the record in the slot alone, and the lines come in the order of the slots from the index on, or from slot
zero if the number is no slot. -/
theorem timerTrace_rotates (config : Config) (snapshot : Snapshot) (lines : List String)
    (apart : config.symbols.timers.traceNext ∉ tagSymbols config.symbols.timers)
    (small : ∀ size, snapshot.length config.symbols.timers.trace = .ok size → size < 2 ^ 58)
    (shown : (Command.timerTrace config).inspection.run.result Snapshot.target snapshot = .ok lines) :
    ∃ tags captured, (readTags config.symbols.timers).on snapshot = .ok tags ∧
      snapshot.scalar config.symbols.timers.traceNext = .ok captured ∧
    ∃ slotLines : List String,
      snapshot.length config.symbols.timers.trace = .ok slotLines.length ∧
      (∀ slot line, slotLines[slot]? = some line →
        ∃ record, Ring.recordAt snapshot config.symbols.timers.trace slot = .ok record ∧
          line = tags.line config.timers record) ∧
      let shownFrom (raw : Int64) : List String :=
        let first := Ring.oldest slotLines.length raw
        slotLines.drop first ++ slotLines.take first
      lines = shownFrom captured ∧
      ∀ raw, (Command.timerTrace config).inspection.run.result Snapshot.target
            (snapshot.withScalar config.symbols.timers.traceNext raw) = .ok (shownFrom raw) ∧
          shownFrom raw ~r lines := by
  -- The command is the inspection behind an entry in the log.
  change (inspect config).on snapshot = .ok lines at shown
  obtain ⟨tags, read⟩ := readTags_of_inspect shown
  have listed := shown
  rw [on_inspect read] at listed
  obtain ⟨size, captured, sized, indexed⟩ := Ring.read_of_renderRing listed
  have bound : size ≤ 2 ^ 63 := by
    have := small size sized
    omega
  obtain ⟨entries, held⟩ := Ring.exists_readFrom_range listed sized indexed bound
  let slotLines := entries.map fun entry => tags.line config.timers entry.2
  have length : slotLines.length = size := by
    rw [List.length_map, held.length, List.length_range]
  have cut (raw : Int64) : slotLines.rotate (Ring.oldest size raw) =
      slotLines.drop (Ring.oldest size raw) ++ slotLines.take (Ring.oldest size raw) :=
    List.rotate_eq_drop_append_take (length ▸ Ring.oldest_le size raw)
  have whole : lines = slotLines.rotate (Ring.oldest size captured) :=
    Except.ok.inj (shown.symm.trans (on_inspect_of_readFrom read sized bound held indexed))
  refine ⟨tags, captured, read, indexed, slotLines, length ▸ sized, fun slot line found => ?_, ?_⟩
  · rw [List.getElem?_map, Option.map_eq_some_iff] at found
    obtain ⟨entry, found, rfl⟩ := found
    exact ⟨entry.2, held.recordAt found, rfl⟩
  · simp only [length, ← cut, whole]
    refine ⟨trivial, fun raw => ⟨on_inspect_withScalar read sized bound held apart raw, ?_⟩⟩
    exact (List.IsRotated.forall slotLines _).trans (List.IsRotated.forall slotLines _).symm

def briefSymbols : TimerSymbols where
  tagStartTicks := "a"
  tagStartMicros := "b"
  tagStopped := "c"
  tagFired := "d"
  tagEnd := "e"
  tagDelta := "f"
  traceNext := "n"
  trace := "t"

def threeEntries : Snapshot :=
  (Snapshot.empty.withScalar "a" 0)
    |>.withScalar "b" 1
    |>.withScalar "c" 2
    |>.withScalar "d" 3
    |>.withScalar "e" 4
    |>.withScalar "f" 5
    |>.withScalar "n" 1
    |>.withArray "t"
      #[Fields.ofNumbers [("num", 4), ("ttype", 3), ("val", 4096)],
        Fields.ofNumbers [("num", 4), ("ttype", 4), ("val", 17)],
        Fields.ofNumbers [("num", 7), ("ttype", 9), ("val", 255)]]

def firedLine : String := "   4                    fired        1000  t4"
def endLine : String := "   4                    end            11  t4"
def oddLine : String := "   7  oops        ff  tag 9  t7"

theorem timerTrace_rotates_torn :
    let config : Config := { symbols := { timers := briefSymbols } }
    let result := (Command.timerTrace config).inspection.run.result Snapshot.target
    "n" ∉ tagSymbols briefSymbols ∧
      (∀ size, threeEntries.length "t" = .ok size → size < 2 ^ 58) ∧
      result threeEntries = .ok [endLine, oddLine, firedLine] ∧
      result (threeEntries.withScalar "n" 2) = .ok [oddLine, firedLine, endLine] ∧
      result (threeEntries.withScalar "n" (-1)) = .ok [firedLine, endLine, oddLine] := by
  intro config result
  have apart : "n" ∉ tagSymbols briefSymbols := by decide
  have three : threeEntries.length "t" = .ok 3 := by decide +kernel
  have one : threeEntries.scalar "n" = .ok 1 := by decide +kernel
  have small : ∀ size, threeEntries.length "t" = .ok size → size < 2 ^ 58 := by
    intro size sized
    cases three.symm.trans sized
    decide
  have shown : result threeEntries = .ok [endLine, oddLine, firedLine] := by decide +kernel
  obtain ⟨_, _, -, indexed, slotLines, sized, -, whole, moved⟩ :=
    timerTrace_rotates config threeEntries [endLine, oddLine, firedLine] apart small shown
  cases one.symm.trans indexed
  obtain ⟨first, second, third, rfl⟩ := List.length_eq_three.1 (Except.ok.inj (three.symm.trans sized)).symm
  cases whole
  exact ⟨apart, small, shown, (moved 2).1, (moved (-1)).1⟩

end SchedProbe.TimerTrace
