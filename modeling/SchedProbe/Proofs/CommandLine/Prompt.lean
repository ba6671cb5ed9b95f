import SchedProbe.Proofs.CommandLine.Output
import SchedProbe.Proofs.Text.Blanks
import SchedProbe.Proofs.Text.Lines

/-! The prompt. A session shows what its lines show, each on its own, up to the line it ends at. -/

set_option autoImplicit false

namespace SchedProbe.CommandLine

def leaves (line : String) : Bool :=
  Text.trim line == "quit" || Text.trim line == "exit"

/-- Whether a session goes on behind a line: the line is text and does not ask to leave. -/
def goesOn (bytes : List UInt8) : Bool :=
  (lineText? bytes).any fun line => !leaves line

def answered (lines : List (List UInt8)) : List String :=
  (lines.takeWhile goesOn).filterMap lineText?

/-- The line that a session ends at before the input does. -/
def lineOfEnd? (lines : List (List UInt8)) : Option (List UInt8) :=
  (lines.dropWhile goesOn).head?

/-- Whether a session breaks off, at a line that is no text. -/
def breaks (lines : List (List UInt8)) : Bool :=
  (lineOfEnd? lines).any fun bytes => (lineText? bytes).isNone

def lineOutput (registry : Registry) (snapshot : Snapshot) (line : String) : Output :=
  if Text.trim line = "" then {}
  else if Text.trim line = "list" ∨ Text.trim line = "help" then { lines := listing registry }
  else runCommand registry snapshot (Text.trim line)

def brokenOutput : Output :=
  { notes := [⟨.error, "writing output: stream did not contain valid UTF-8"⟩], succeeded := false }

section Lines

variable {bytes : List UInt8} {line : String}

theorem goesOn_of_text (text : lineText? bytes = some line) : goesOn bytes = !leaves line := by
  rw [goesOn, text, Option.any_some]

theorem goesOn_of_noText (noText : lineText? bytes = none) : goesOn bytes = false := by
  rw [goesOn, noText, Option.any_none]

variable (rest : List (List UInt8))

theorem answered_cons (text : lineText? bytes = some line) (next : goesOn bytes = true) :
    answered (bytes :: rest) = line :: answered rest := by
  rw [answered, List.takeWhile_cons_of_pos next, List.filterMap_cons_some text, answered]

theorem lineOfEnd?_cons (next : goesOn bytes = true) : lineOfEnd? (bytes :: rest) = lineOfEnd? rest := by
  rw [lineOfEnd?, List.dropWhile_cons_of_pos next, lineOfEnd?]

theorem answered_end (stop : goesOn bytes = false) : answered (bytes :: rest) = [] := by
  rw [answered, List.takeWhile_cons_of_neg (Bool.not_eq_true _ ▸ stop), List.filterMap_nil]

theorem lineOfEnd?_end (stop : goesOn bytes = false) : lineOfEnd? (bytes :: rest) = some bytes := by
  rw [lineOfEnd?, List.dropWhile_cons_of_neg (Bool.not_eq_true _ ▸ stop), List.head?_cons]

/-- Lines behind the one that a session ends at have no part in it. -/
theorem lines_behind_end {lines : List (List UInt8)} (ended : lineOfEnd? lines ≠ none)
    (more : List (List UInt8)) :
    answered (lines ++ more) = answered lines ∧ lineOfEnd? (lines ++ more) = lineOfEnd? lines := by
  induction lines with
  | nil => exact absurd rfl ended
  | cons bytes rest ih =>
    rw [List.cons_append]
    cases next : goesOn bytes with
    | true =>
      rw [lineOfEnd?_cons rest next] at ended
      obtain ⟨same, sameEnd⟩ := ih ended
      rw [lineOfEnd?_cons _ next, lineOfEnd?_cons _ next]
      refine ⟨?_, sameEnd⟩
      simp only [answered, List.takeWhile_cons_of_pos next, List.filterMap_cons] at same ⊢
      rw [same]
    | false =>
      rw [answered_end _ next, answered_end _ next, lineOfEnd?_end _ next, lineOfEnd?_end _ next]
      exact ⟨rfl, rfl⟩

end Lines

variable (registry : Registry) (snapshot : Snapshot)

theorem respond_of_stays {bytes : List UInt8} {line : String} (text : lineText? bytes = some line)
    (stays : leaves line = false) :
    respond registry snapshot bytes = .proceed (lineOutput registry snapshot line) := by
  simp only [leaves, Bool.or_eq_false_iff, beq_eq_false_iff_ne] at stays
  obtain ⟨quit, exit⟩ := stays
  simp only [respond, text, Request.ofLine, lineOutput, quit, exit, or_self, if_false]
  by_cases blank : Text.trim line = ""
  · rw [if_pos blank, if_pos blank]
  · rw [if_neg blank, if_neg blank]
    by_cases listed : Text.trim line = "list" ∨ Text.trim line = "help"
    · rw [if_pos listed, if_pos listed]
    · rw [if_neg listed, if_neg listed]

theorem respond_of_leaves {bytes : List UInt8} {line : String} (text : lineText? bytes = some line)
    (left : leaves line = true) : respond registry snapshot bytes = .stop {} := by
  simp only [leaves, Bool.or_eq_true, beq_iff_eq] at left
  have filled : Text.trim line ≠ "" := by
    rintro blank
    rw [blank] at left
    revert left
    decide
  simp only [respond, text, Request.ofLine, filled, left, if_true, if_false]

def answerLines : List (List UInt8) → Output
  | [] => {}
  | line :: rest =>
    match respond registry snapshot line with
    | .proceed output => output ++ answerLines rest
    | .stop output => output

-- By induction on the lines: each answers by itself, and the first behind which nothing goes on ends it.
theorem answerLines_eq (lines : List (List UInt8)) :
    answerLines registry snapshot lines =
      Output.concat ((answered lines).map (lineOutput registry snapshot)) ++
        if breaks lines then brokenOutput else {} := by
  induction lines with
  | nil => rfl
  | cons bytes rest ih =>
    rw [answerLines]
    cases text : lineText? bytes with
    | none =>
      have stop := goesOn_of_noText text
      simp only [respond, text, answered_end rest stop, breaks, lineOfEnd?_end rest stop]
      simp [Output.concat, Output.empty_append, brokenOutput, text]
    | some line =>
      cases left : leaves line with
      | true =>
        have stop : goesOn bytes = false := by rw [goesOn_of_text text, left, Bool.not_true]
        rw [respond_of_leaves registry snapshot text left, answered_end rest stop, breaks,
          lineOfEnd?_end rest stop]
        simp [Output.concat, Output.append_empty, text]
      | false =>
        have next : goesOn bytes = true := by rw [goesOn_of_text text, left, Bool.not_false]
        rw [respond_of_stays registry snapshot text left, answered_cons rest text next, breaks,
          lineOfEnd?_cons rest next, List.map_cons, Output.concat_cons, Output.append_assoc]
        exact congrArg (lineOutput registry snapshot line ++ ·) ih

theorem output_next (line : List UInt8) :
    (respond registry snapshot line).next.2 = answerLines registry snapshot [line] := by
  rw [answerLines]
  cases respond registry snapshot line with
  | proceed output => exact output.append_empty.symm
  | stop output => rfl

theorem session_left (bytes : List UInt8) : Prompt.left.session registry snapshot bytes = {} := by
  induction bytes with
  | nil => rfl
  | cons byte rest ih => exact ih

theorem finish_asking {reversed : List UInt8} (whole : 0x0a ∉ reversed.reverse) :
    (Prompt.asking reversed).finish registry snapshot =
      answerLines registry snapshot (Text.cutLines reversed.reverse) := by
  cases reversed with
  | nil => rfl
  | cons byte reversed =>
    rw [Text.cutLines_last whole (List.reverse_ne_nil_iff.2 (List.cons_ne_nil _ _)), ← output_next]
    rfl

-- By induction on the bytes; the open line is what they have left of a line, so there is no newline in it.
theorem session_asking {reversed : List UInt8} (whole : 0x0a ∉ reversed.reverse) (bytes : List UInt8) :
    (Prompt.asking reversed).session registry snapshot bytes =
      answerLines registry snapshot (Text.cutLines (reversed.reverse ++ bytes)) := by
  induction bytes generalizing reversed with
  | nil =>
    rw [List.append_nil, ← finish_asking registry snapshot whole]
    rfl
  | cons byte rest ih =>
    rw [Prompt.session, Prompt.take]
    by_cases newline : byte = 0x0a
    · rw [if_pos newline, newline, Text.cutLines_line whole, answerLines]
      cases respond registry snapshot reversed.reverse with
      | proceed output => exact congrArg (output ++ ·) (ih List.not_mem_nil)
      | stop output => exact (congrArg (output ++ ·) (session_left ..)).trans output.append_empty
    · have longer : 0x0a ∉ (byte :: reversed).reverse := by
        rw [List.reverse_cons, List.mem_append, List.mem_singleton]
        exact not_or_intro whole (Ne.symm newline)
      rw [if_neg newline]
      refine (Output.empty_append _).trans ((ih longer).trans ?_)
      rw [List.reverse_cons, List.append_assoc, List.singleton_append]

theorem promptSession_eq (input : List UInt8) :
    promptSession registry snapshot input =
      { lines := banner registry } ++
        Output.concat ((answered (Text.cutLines input)).map (lineOutput registry snapshot)) ++
        if breaks (Text.cutLines input) then brokenOutput else {} := by
  rw [promptSession, session_asking registry snapshot List.not_mem_nil, List.reverse_nil, List.nil_append,
    answerLines_eq, Output.append_assoc]

/-- A run at the prompt is its opening, which is what it shows without input, and then the steps that the bytes
of the input make it take. -/
theorem run_prompt {arguments : Arguments} {files : Files} {loaded : Loaded} (prompt : arguments.action = .prompt)
    (ready : load files arguments = .ok loaded) (input : List UInt8) :
    run arguments files input = run arguments files [] ++
      (Prompt.asking []).session (.standard loaded.config) loaded.snapshot input := by
  simp only [run, ready, perform, prompt, promptSession, Output.append_assoc]
  rfl

theorem lines_promptSession (input : List UInt8) :
    (promptSession registry snapshot input).lines =
      banner registry ++ (answered (Text.cutLines input)).flatMap fun line =>
        (lineOutput registry snapshot line).lines := by
  have nothing : (if breaks (Text.cutLines input) then brokenOutput else {}).lines = [] := by
    split <;> rfl
  rw [promptSession_eq, Output.lines_append, Output.lines_append, nothing, List.append_nil,
    Output.lines_concat, List.flatMap_map]

theorem succeeded_lineOutput (line : String) : (lineOutput registry snapshot line).succeeded = true ↔
    (Text.trim line ∉ ["", "list", "help"] →
      (runCommand registry snapshot (Text.trim line)).succeeded = true) := by
  unfold lineOutput
  by_cases blank : Text.trim line = ""
  · simp [blank]
  · by_cases listed : Text.trim line = "list" ∨ Text.trim line = "help"
    · simp [blank, listed]
    · simp [blank, listed]

theorem exitCode_promptSession (input : List UInt8) :
    (promptSession registry snapshot input).exitCode = 0 ↔
      breaks (Text.cutLines input) = false ∧
        ∀ line ∈ answered (Text.cutLines input), Text.trim line ∉ ["", "list", "help"] →
          (runCommand registry snapshot (Text.trim line)).succeeded = true := by
  have status : (if breaks (Text.cutLines input) then brokenOutput else {}).succeeded =
      !breaks (Text.cutLines input) := by
    cases breaks (Text.cutLines input) <;> rfl
  rw [Output.exitCode_eq_zero_iff, promptSession_eq, Output.succeeded_append, Output.succeeded_append,
    Output.succeeded_concat, status]
  simp only [Bool.true_and, List.all_map, Bool.and_eq_true, Bool.not_eq_true', List.all_eq_true,
    Function.comp_apply, succeeded_lineOutput, and_comm]

theorem promptSession_append {input : List UInt8} (ended : lineOfEnd? (Text.cutLines input) ≠ none)
    (rest : List UInt8) :
    promptSession registry snapshot (input ++ 0x0a :: rest) = promptSession registry snapshot input := by
  obtain ⟨more, same⟩ := Text.exists_cutLines_append input rest
  obtain ⟨sameLines, sameEnd⟩ := lines_behind_end ended more
  rw [promptSession_eq, promptSession_eq, same, sameLines, breaks, sameEnd, breaks]

/-- A session at the prompt shows the banner and what each line it answers shows on its own, in the order of
the lines. It goes well if no line breaks it off and every command it is asked for goes well, and what comes
behind the line it ends at has no part in it. A run that is asked for a prompt shows that session. The word that
a line asks with is the line without the blanks at its ends. -/
theorem promptSession_lineByLine (input : List UInt8) :
    let lines := Text.cutLines input
    let session := promptSession registry snapshot input
    session = { lines := banner registry } ++
        Output.concat ((answered lines).map (lineOutput registry snapshot)) ++
        (if breaks lines then brokenOutput else {}) ∧
      session.lines = banner registry ++
        (answered lines).flatMap (fun line => (lineOutput registry snapshot line).lines) ∧
      (session.exitCode = 0 ↔ breaks lines = false ∧
        ∀ line ∈ answered lines, Text.trim line ∉ ["", "list", "help"] →
          (runCommand registry snapshot (Text.trim line)).succeeded = true) ∧
      (lineOfEnd? lines ≠ none → ∀ rest,
        promptSession registry snapshot (input ++ 0x0a :: rest) = session) ∧
      (∀ arguments files config, arguments.action = .prompt →
        load files arguments = .ok ⟨config, snapshot⟩ → registry = .standard config →
          (run arguments files input).lines = session.lines ∧
            (run arguments files input).exitCode = session.exitCode) ∧
      ∀ line inner : String, Text.trim line = inner ↔ Text.Trimmed line.toList inner.toList := by
  refine ⟨promptSession_eq .., lines_promptSession .., exitCode_promptSession ..,
    promptSession_append registry snapshot, ?_, Text.trim_eq_iff⟩
  rintro arguments files config prompt loaded rfl
  simp only [run, loaded, perform, prompt]
  exact ⟨rfl, rfl⟩

def blankCapture : Files :=
  .ofTexts fun path => if path = "capture" then some "\x7b\x7d" else none

-- The session ends at the last line of the first input, which has blanks of other scripts around its word, so the
-- line behind it, which is no text, is not read.
theorem promptSession_lineByLine_left :
    let last := "\u3000exit\u00a0"
    let input := ("list\n\t bogus \r\n\n" ++ last).toUTF8.data.toList
    let arguments : Arguments := ⟨"capture", { snapshot := some "capture" }, .prompt⟩
    answered (Text.cutLines input) = ["list", "\t bogus \r", ""] ∧
      lineOfEnd? (Text.cutLines input) = some last.toUTF8.data.toList ∧
      Text.Trimmed last.toList "exit".toList ∧
      (run arguments blankCapture (input ++ 0x0a :: [0xff])).lines =
        banner (.standard {}) ++ listing (.standard {}) ∧
      (run arguments blankCapture (input ++ 0x0a :: [0xff])).exitCode ≠ 0 := by
  intro last input arguments
  have lines : answered (Text.cutLines input) = ["list", "\t bogus \r", ""] := by decide +kernel
  have ended : lineOfEnd? (Text.cutLines input) = some last.toUTF8.data.toList := by decide +kernel
  obtain ⟨-, -, -, -, whole, trims⟩ :=
    promptSession_lineByLine (.standard {}) .empty (input ++ 0x0a :: [0xff])
  obtain ⟨-, shown, status, behind, -, -⟩ := promptSession_lineByLine (.standard {}) .empty input
  obtain ⟨sameLines, sameStatus⟩ := whole arguments blankCapture {} rfl rfl rfl
  rw [sameLines, sameStatus, behind (by rw [ended]; nofun), shown, lines]
  refine ⟨rfl, ended, (trims last "exit").1 (by decide +kernel), by decide +kernel, fun well => ?_⟩
  have failed := (status.1 well).2 "\t bogus \r" (by rw [lines]; decide) (by decide +kernel)
  revert failed
  decide +kernel

end SchedProbe.CommandLine
