import SchedProbe.CommandLine.Run
import SchedProbe.Proofs.Target.Capture

/-! What output shows: that of a command's result, and that of one part of a run after another. -/

set_option autoImplicit false

namespace SchedProbe.CommandLine

section Sequence

variable (first second third : Output)

@[simp] theorem Output.lines_append : (first ++ second).lines = first.lines ++ second.lines :=
  rfl

@[simp] theorem Output.notes_append : (first ++ second).notes = first.notes ++ second.notes :=
  rfl

@[simp] theorem Output.succeeded_append :
    (first ++ second).succeeded = (first.succeeded && second.succeeded) :=
  rfl

theorem Output.append_empty : first ++ ({} : Output) = first := by
  change Output.mk (first.lines ++ []) (first.notes ++ []) (first.succeeded && true) = first
  rw [List.append_nil, List.append_nil, Bool.and_true]

theorem Output.empty_append : ({} : Output) ++ first = first :=
  rfl

theorem Output.append_assoc : first ++ second ++ third = first ++ (second ++ third) := by
  change Output.mk _ _ _ = Output.mk _ _ _
  simp only [lines_append, notes_append, succeeded_append, List.append_assoc, Bool.and_assoc]

def Output.concat (outputs : List Output) : Output :=
  outputs.foldr (· ++ ·) {}

theorem Output.concat_cons (outputs : List Output) :
    Output.concat (first :: outputs) = first ++ Output.concat outputs :=
  rfl

theorem Output.lines_concat (outputs : List Output) : (Output.concat outputs).lines = outputs.flatMap (·.lines) := by
  induction outputs with
  | nil => rfl
  | cons output rest ih => exact congrArg (output.lines ++ ·) ih

theorem Output.succeeded_concat (outputs : List Output) :
    (Output.concat outputs).succeeded = outputs.all (·.succeeded) := by
  induction outputs with
  | nil => rfl
  | cons output rest ih => exact congrArg (output.succeeded && ·) ih

theorem Output.exitCode_eq_zero_iff : first.exitCode = 0 ↔ first.succeeded = true := by
  unfold Output.exitCode
  cases first.succeeded <;> decide

end Sequence

def Files.ofTexts (text : String → Option String) : Files where
  text path := ((text path).map .ok).getD (.error "No such file or directory (os error 2)")
  noConfig _ := "expected value at line 1 column 1"
  noSnapshot _ := "expected value at line 1 column 1"

theorem Files.text_ofTexts {text : String → Option String} {path content : String}
    (found : text path = some content) : (Files.ofTexts text).text path = .ok content := by
  simp only [ofTexts, found, Option.map_some, Option.getD_some]

def resultLines : Except Failure (List String) → List String
  | .ok lines => lines
  | .error failure => failureLines failure

theorem lines_ofResult (notes : List Note) (result : Except Failure (List String)) :
    (Output.ofResult notes result).lines = resultLines result := by
  cases result <;> rfl

theorem succeeded_ofResult (notes : List Note) (result : Except Failure (List String)) :
    (Output.ofResult notes result).succeeded = true ↔ ∃ lines, result = .ok lines := by
  cases result with
  | ok lines => exact iff_of_true rfl ⟨lines, rfl⟩
  | error failure => exact iff_of_false Bool.false_ne_true nofun

theorem lines_runCommand (registry : Registry) (snapshot : Snapshot) (name : String) :
    (runCommand registry snapshot name).lines = resultLines ((registry.invoke name).on snapshot) :=
  lines_ofResult _ _

theorem succeeded_runCommand (registry : Registry) (snapshot : Snapshot) (name : String) :
    (runCommand registry snapshot name).succeeded = true ↔
      ∃ lines, (registry.invoke name).on snapshot = .ok lines :=
  succeeded_ofResult _ _

/-- The standard registry carries out each standard command under its name. -/
theorem invoke_standard {config : Config} {command : Command} (member : command ∈ Command.standard config) :
    (Registry.standard config).invoke command.name = command.inspection := by
  simp only [Command.standard, List.mem_cons, List.not_mem_nil, or_false] at member
  obtain rfl | rfl | rfl | rfl := member <;> rfl

end SchedProbe.CommandLine
