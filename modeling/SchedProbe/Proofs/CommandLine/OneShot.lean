import SchedProbe.Json.RoundTrip
import SchedProbe.Proofs.Command.Outcome
import SchedProbe.Proofs.CommandLine.Arguments
import SchedProbe.Proofs.CommandLine.Output

/-! A run of one command, from the words of the command line to the exit code. It shows all that the command
has to show, or a part of it and a mark, or nothing, and only in the first case is it a success. -/

set_option autoImplicit false

namespace SchedProbe.CommandLine

variable {arguments : Arguments} {files : Files}

theorem run_of_config_error (input : List UInt8) {error : InputError}
    (failed : configFor files arguments.options = .error error) :
    run arguments files input =
      ⟨[], [startNote, ⟨.error, "configuration: " ++ error.message⟩], false⟩ := by
  simp only [run, load, failed]
  rfl

theorem run_of_snapshot_error (input : List UInt8) {config : Config} {error : InputError}
    (configured : configFor files arguments.options = .ok config)
    (failed : loadSnapshot files arguments.snapshot = .error error) :
    run arguments files input =
      ⟨[], [startNote, ⟨.error, "snapshot " ++ arguments.snapshot ++ ": " ++ error.message⟩], false⟩ := by
  simp only [run, load, configured, failed]
  rfl

theorem run_of_invoke (input : List UInt8) {config : Config} {snapshot : Snapshot} {name : String}
    (configured : configFor files arguments.options = .ok config)
    (captured : loadSnapshot files arguments.snapshot = .ok snapshot)
    (invokes : arguments.action = .invoke name) :
    run arguments files input =
      { notes := startNote :: loadedNotes arguments ⟨config, snapshot⟩ } ++
        runCommand (.standard config) snapshot name := by
  simp only [run, load, configured, captured, invokes]
  rfl

theorem loadSnapshot_of_text {path text : String} (found : files.text path = .ok text) :
    loadSnapshot files path = Snapshot.ofText files.noSnapshot text := by
  rw [loadSnapshot, found]

theorem resultLines_of_not_partial {failure : Failure}
    (whole : ∀ command decoded total source, failure ≠ .incomplete command decoded total source)
    (sound : ∀ report, failure ≠ .corruptedQueue report) : resultLines (.error failure) = [] := by
  cases failure with
  | incomplete command decoded total source => exact absurd rfl (whole command decoded total source)
  | corruptedQueue report => exact absurd rfl (sound report)
  | access source => rfl
  | input source => rfl
  | unknownCommand name => rfl

/-- A run of one command. Without a configuration, or else without a capture, it shows nothing and fails for
that reason. With both it is a success exactly if the command shows all its lines. A ring that is cut short is
shown up to the slot at fault and a damaged queue up to the fault, each with one mark behind it, and any other
failure shows nothing. -/
theorem run_invoke (words : List String) (files : Files) (input : List UInt8) {arguments : Arguments}
    {name : String} (accepted : Arguments.ofWords? words = some arguments)
    (invokes : arguments.action = .invoke name) :
    let output := run arguments files input
    (∀ error, configFor files arguments.options = .error error →
      output = ⟨[], [startNote, ⟨.error, "configuration: " ++ error.message⟩], false⟩ ∧
        output.exitCode = 1) ∧
    (∀ config error, configFor files arguments.options = .ok config →
      loadSnapshot files arguments.snapshot = .error error →
      output = ⟨[], [startNote, ⟨.error, "snapshot " ++ arguments.snapshot ++ ": " ++ error.message⟩],
          false⟩ ∧
        output.exitCode = 1) ∧
    ∀ config snapshot, configFor files arguments.options = .ok config →
      loadSnapshot files arguments.snapshot = .ok snapshot →
      let result := ((Registry.standard config).invoke name).on snapshot
      Outcome config snapshot name result ∧
        (output.exitCode = 0 ↔ ∃ lines, result = .ok lines) ∧
        (∀ lines, result = .ok lines → output.lines = lines) ∧
        (∀ command decoded total source,
          result = .error (.incomplete command decoded total source) →
          output.lines = decoded ++
            ["*** incomplete: " ++ (Failure.incomplete command decoded total source).message]) ∧
        (∀ report, result = .error (.corruptedQueue report) →
          output.lines = [ReadyQueue.header report.head report.tail, ReadyQueue.chainLine report.visited,
            "*** incomplete: " ++ report.message]) ∧
        ∀ failure, (∀ command decoded total source, failure ≠ .incomplete command decoded total source) →
          (∀ report, failure ≠ .corruptedQueue report) → result = .error failure → output.lines = [] := by
  intro output
  refine ⟨fun error failed => ?_, fun config error configured failed => ?_,
    fun config snapshot configured captured => ?_⟩
  · have same : output = _ := run_of_config_error input failed
    rw [same]
    exact ⟨rfl, rfl⟩
  · have same : output = _ := run_of_snapshot_error input configured failed
    rw [same]
    exact ⟨rfl, rfl⟩
  · intro result
    obtain ⟨command, member, rfl⟩ := invokes_standard config accepted invokes
    have outcome : Outcome config snapshot command.name result := by
      have standard := standard_outcome config snapshot member
      rwa [← invoke_standard member] at standard
    have same : output = _ := run_of_invoke input configured captured invokes
    have lines : output.lines = resultLines result := by
      rw [same, Output.lines_append, lines_runCommand]
      rfl
    have status : output.succeeded = true ↔ ∃ lines, result = .ok lines := by
      rw [same, Output.succeeded_append, Bool.true_and]
      exact succeeded_runCommand _ _ _
    rw [Output.exitCode_eq_zero_iff, lines]
    refine ⟨outcome, status, fun shown whole => ?_, fun _ decoded total source cut => ?_,
      fun report damaged => ?_, fun failure whole sound failed => ?_⟩
    · rw [whole]
      rfl
    · rw [cut]
      rfl
    · rw [damaged]
      rfl
    · rw [failed, resultLines_of_not_partial whole sound]

/-- A trace whose second record has no more than an id. -/
def tornTrace : Snapshot :=
  let symbols : SchedulerSymbols := {}
  (Snapshot.empty.withScalar symbols.tagPost 0)
    |>.withScalar symbols.tagRun 1
    |>.withScalar symbols.tagEnd 2
    |>.withScalar symbols.traceNext 0
    |>.withArray symbols.trace #[.ofNumbers [("num", 1), ("ttype", 1), ("val", 16)], .ofNumbers [("num", 1)]]

def tornFiles : Files :=
  .ofTexts fun path =>
    if path = "capture" then some tornTrace.toText
    else if path = "names" then some "\x7b\"tasks\":\x7b\"overrides\":\x7b\"1\":\"send\"\x7d\x7d\x7d"
    else none

theorem run_invoke_torn :
    let words := ["-s", "capture", "--config=names", "--task-name", "2=blink", "task-trace"]
    ∃ arguments, Arguments.ofWords? words = some arguments ∧ arguments.action = .invoke "task-trace" ∧
      (run arguments tornFiles []).exitCode ≠ 0 ∧
      (run arguments tornFiles []).lines = ["  0   00000010  RUN    send/1",
        "*** incomplete: task-trace incomplete after 1 of 2 records: " ++
          "field 'ttype' missing from SchedulerBasicP__task_trace[1]"] := by
  intro words
  let arguments : Arguments :=
    ⟨"capture", { snapshot := some "capture", config := some "names", taskNames := ["2=blink"] },
      .invoke "task-trace"⟩
  have accepted : Arguments.ofWords? words = some arguments := by decide +kernel
  have configured : configFor tornFiles arguments.options =
      .ok { tasks := .ofList [(1, "send"), (2, "blink")] } := by decide +kernel
  have captured : loadSnapshot tornFiles arguments.snapshot = .ok tornTrace := by
    have read : Snapshot.ofValue? tornTrace.toValue = some tornTrace := by decide +kernel
    have found : tornFiles.text arguments.snapshot = .ok tornTrace.toText := Files.text_ofTexts (if_pos rfl)
    rw [loadSnapshot_of_text found, Snapshot.ofText, Snapshot.toText, Json.Value.ofText?_text, Option.bind_some,
      read]
  obtain ⟨-, -, loaded⟩ := run_invoke words tornFiles [] accepted rfl
  obtain ⟨-, status, -, cut, -⟩ := loaded _ _ configured captured
  have torn : ((Registry.standard { tasks := .ofList [(1, "send"), (2, "blink")] }).invoke
      "task-trace").on tornTrace = .error (.incomplete "task-trace" ["  0   00000010  RUN    send/1"] 2
        (.missingField "SchedulerBasicP__task_trace" 1 "ttype")) := by decide +kernel
  refine ⟨arguments, accepted, rfl, fun well => ?_, (cut _ _ _ _ torn).trans (by decide +kernel)⟩
  obtain ⟨lines, whole⟩ := status.1 well
  cases torn.symm.trans whole

end SchedProbe.CommandLine
