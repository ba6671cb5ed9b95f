import SchedProbe.Proofs.CommandLine.Output
import SchedProbe.Proofs.Config.Merge

/-! The configuration of a run: that of the file, or the default one, under the names and the timing that the command
line gives. -/

set_option autoImplicit false

namespace SchedProbe.CommandLine

open NameOverride

variable {files : Files} {options : Options}

/-- The configuration that the options begin with: the file's, if one is named, else the default one. -/
def Options.BeginsWith (options : Options) (files : Files) (config : Config) : Prop :=
  match options.config with
  | some path => loadConfig files path = .ok config
  | none => config = {}

theorem configFor_eq_merge {config : Config} (begins : options.BeginsWith files config) :
    configFor files options =
      config.merge options.taskNames options.timerNames options.perTaskTiming := by
  unfold Options.BeginsWith at begins
  unfold configFor
  cases given : options.config with
  | some path =>
    rw [given] at begins
    dsimp only at begins ⊢
    rw [begins]
    rfl
  | none =>
    rw [given] at begins
    rw [begins]
    rfl

/-- The configuration of a run whose file, if it names one, can be loaded. It exists exactly if every name override
parses, and then shows each id under the last override of the id in its own list, else as the file does, with the
file's symbols, and with its timing but for the flag. Otherwise the error gives the first malformed override back,
the overrides for tasks counting as the first. -/
theorem configFor_merged (files : Files) (options : Options) (file : Config)
    (begins : options.BeginsWith files file) :
    let overrides := options.taskNames ++ options.timerNames
    ((∃ config, configFor files options = .ok config) ↔ ∀ text ∈ overrides, Parses text) ∧
    (∀ config, configFor files options = .ok config →
      file.Merged options.taskNames options.timerNames options.perTaskTiming config) ∧
    ∀ error, configFor files options = .error error ↔
      ∃ text, FirstMalformed overrides text ∧ error = .badOverride text := by
  intro overrides
  rw [configFor_eq_merge begins]
  obtain ⟨⟨merged, made, shows⟩, parsed⟩ | ⟨text, first, failed⟩ :=
    file.merge_ok_or_malformed options.taskNames options.timerNames options.perTaskTiming
  · rw [made]
    refine ⟨iff_of_true ⟨merged, rfl⟩ parsed, ?_, fun error => iff_of_false (fun other => ?_) ?_⟩
    · rintro config ⟨rfl⟩
      exact shows
    · cases other
    · rintro ⟨text, first, -⟩
      exact first.not_forall parsed
  · rw [failed]
    refine ⟨iff_of_false ?_ first.not_forall, fun config other => ?_, fun error => ?_⟩
    · rintro ⟨config, ⟨⟩⟩
    · cases other
    · rw [Except.error.injEq]
      constructor
      · rintro rfl
        exact ⟨text, first, rfl⟩
      · rintro ⟨other, first', rfl⟩
        rw [first.unique first']

def layeredFiles : Files :=
  .ofTexts fun _ => some ("\x7b\"tasks\":\x7b\"overrides\":\x7b\"3\":\"old\",\"5\":\"sense\"\x7d\x7d," ++
    "\"timers\":\x7b\"overrides\":\x7b\"3\":\"tick\"\x7d\x7d\x7d")

-- Three spellings of two ids over the file's labels; then a list in which the first malformed text is one for tasks.
theorem configFor_merged_layers :
    let file : Config := { tasks := .ofList [(3, "old"), (5, "sense")], timers := .ofList [(3, "tick")] }
    let options : Options :=
      { config := some "names", taskNames := ["3=send", "04=radio", "+003 = blink"], perTaskTiming := true }
    let malformed : Options := { options with taskNames := ["3=send", "5"], timerNames := ["="] }
    options.BeginsWith layeredFiles file ∧
      (∃ config, configFor layeredFiles options = .ok config ∧
        file.Merged options.taskNames options.timerNames options.perTaskTiming config ∧
        [3, 4, 5, 6].map config.tasks.resolve = ["blink/3", "radio/4", "sense/5", "t6"] ∧
        [3, 4].map config.timers.resolve = ["tick/3", "t4"] ∧ config.runTiming = .perTask) ∧
      malformed.BeginsWith layeredFiles file ∧
      configFor layeredFiles malformed = .error (.badOverride "5") := by
  intro file options malformed
  have begins : options.BeginsWith layeredFiles file := by
    change loadConfig layeredFiles "names" = .ok file
    decide +kernel
  have begins' : malformed.BeginsWith layeredFiles file := begins
  obtain ⟨-, merges, -⟩ := configFor_merged layeredFiles options file begins
  obtain ⟨-, -, fails⟩ := configFor_merged layeredFiles malformed file begins'
  have made : configFor layeredFiles options = .ok { file with
      tasks := .ofList [(3, "blink"), (4, "radio"), (5, "sense")], runTiming := .perTask } := by decide +kernel
  refine ⟨begins, ⟨_, made, merges _ made, by decide +kernel, by decide +kernel, rfl⟩, begins', ?_⟩
  exact (fails _).2 ⟨"5", ⟨by decide, ["3=send"], ["="], rfl, by decide⟩, rfl⟩

end SchedProbe.CommandLine
