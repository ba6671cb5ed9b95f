import SchedProbe.CommandLine.Arguments
import SchedProbe.Command

/-! Command lines that are accepted. The action of one is chosen by a word of it, and the commands that can be
chosen are the standard ones. -/

set_option autoImplicit false

namespace SchedProbe.CommandLine

def Stage.action? : Stage → Option Action
  | .chosen action | .closed action => some action
  | .options | .value _ => none

theorem readLong_action {options : Options} {word : List Char} {next : Reading}
    (read : readLong options word = some next) : next.stage.action? = none := by
  simp only [readLong] at read
  split at read
  · split at read
    · obtain ⟨given, -, rfl⟩ := Option.map_eq_some_iff.1 read
      rfl
    · obtain ⟨key, -, rfl⟩ := Option.map_eq_some_iff.1 read
      rfl
  · simp only [Option.bind_eq_bind, Option.bind_eq_some_iff, Option.pure_def] at read
    obtain ⟨key, -, given, -, ⟨rfl⟩⟩ := read
    rfl

theorem readShort_action {options : Options} {letter : Char} {attached : List Char} {next : Reading}
    (read : readShort options letter attached = some next) : next.stage.action? = none := by
  simp only [readShort, Option.bind_eq_bind, Option.bind_eq_some_iff, Option.pure_def] at read
  obtain ⟨key, -, read⟩ := read
  split at read
  · cases read
    rfl
  · obtain ⟨given, -, ⟨rfl⟩⟩ := Option.bind_eq_some_iff.1 read
    rfl

theorem step_action {reading next : Reading} {word : String} {action : Action}
    (stepped : reading.step word = some next) (chosen : next.stage.action? = some action) :
    reading.stage.action? = some action ∨ Action.ofWord? word = some action := by
  obtain ⟨options, stage⟩ := reading
  simp only [Reading.step] at stepped
  split at stepped
  · rw [readLong_action stepped] at chosen
    cases chosen
  · rw [readShort_action stepped] at chosen
    cases chosen
  · obtain ⟨other, named, rfl⟩ := Option.map_eq_some_iff.1 stepped
    cases chosen
    exact .inr named
  · cases stepped
  · obtain ⟨given, -, rfl⟩ := Option.map_eq_some_iff.1 stepped
    cases chosen
  · cases stepped
    exact .inl chosen
  · cases stepped
  · cases stepped

-- By induction on the words: an action at the end was there at the start or is that of a word.
theorem foldlM_action {reading last : Reading} {words : List String} {action : Action}
    (read : words.foldlM Reading.step reading = some last) (chosen : last.stage.action? = some action) :
    reading.stage.action? = some action ∨ ∃ word ∈ words, Action.ofWord? word = some action := by
  induction words generalizing reading with
  | nil =>
    cases read
    exact .inl chosen
  | cons word rest ih =>
    rw [List.foldlM_cons, Option.bind_eq_bind, Option.bind_eq_some_iff] at read
    obtain ⟨next, stepped, read⟩ := read
    obtain earlier | ⟨other, member, named⟩ := ih read
    · obtain before | named := step_action stepped earlier
      · exact .inl before
      · exact .inr ⟨word, List.mem_cons_self, named⟩
    · exact .inr ⟨other, List.mem_cons_of_mem _ member, named⟩

theorem finish?_action {reading : Reading} {arguments : Arguments}
    (finished : reading.finish? = some arguments) : reading.stage.action? = some arguments.action := by
  simp only [Reading.finish?, Option.bind_eq_bind, Option.bind_eq_some_iff, Option.pure_def] at finished
  obtain ⟨snapshot, -, finished⟩ := finished
  obtain ⟨options, stage⟩ := reading
  cases stage <;> cases finished <;> rfl

theorem exists_word_of_ofWords? {words : List String} {arguments : Arguments}
    (accepted : Arguments.ofWords? words = some arguments) :
    ∃ word ∈ words, Action.ofWord? word = some arguments.action := by
  obtain ⟨last, read, finished⟩ := Option.bind_eq_some_iff.1 accepted
  obtain start | named := foldlM_action read (finish?_action finished)
  · cases start
  · exact named

theorem ofWord?_invoke {word name : String} (named : Action.ofWord? word = some (.invoke name)) :
    name ∈ ["task-trace", "task-queue", "timer-trace", "timer-dump"] := by
  unfold Action.ofWord? at named
  split at named
  next known =>
    cases named
    exact known
  next =>
    split at named
    · cases named
    · split at named <;> cases named

/-- A command line can only invoke a standard command. -/
theorem invokes_standard {words : List String} {arguments : Arguments} {name : String} (config : Config)
    (accepted : Arguments.ofWords? words = some arguments) (invokes : arguments.action = .invoke name) :
    ∃ command ∈ Command.standard config, command.name = name := by
  obtain ⟨word, -, named⟩ := exists_word_of_ofWords? accepted
  rw [invokes] at named
  have known : name ∈ (Command.standard config).map (·.name) := ofWord?_invoke named
  exact List.mem_map.1 known

end SchedProbe.CommandLine
