import SchedProbe.Log

/-! The words of a command line. Options come first, each with its value in the same word or in the next
one; then comes the one subcommand. Words that do not fit this order are a usage error. -/

set_option autoImplicit false

namespace SchedProbe.CommandLine

inductive Action where
  | invoke (command : String)
  | list
  | prompt
  deriving DecidableEq, Repr

def Action.ofWord? (word : String) : Option Action :=
  if word ∈ ["task-trace", "task-queue", "timer-trace", "timer-dump"] then some (invoke word)
  else if word = "list" then some list
  else if word = "repl" then some prompt
  else none

/-- The options that take a value. -/
inductive Key where
  | snapshot | config | taskName | timerName | logLevel
  deriving DecidableEq, Repr

def Key.ofName? (name : String) : Option Key :=
  if name = "snapshot" then some snapshot
  else if name = "config" then some config
  else if name = "task-name" then some taskName
  else if name = "timer-name" then some timerName
  else if name = "log-level" then some logLevel
  else none

def Key.ofLetter? (letter : Char) : Option Key :=
  if letter = 's' then some snapshot
  else if letter = 'c' then some config
  else if letter = 'l' then some logLevel
  else none

structure Options where
  snapshot : Option String := none
  config : Option String := none
  taskNames : List String := []
  timerNames : List String := []
  perTaskTiming : Bool := false
  logLevel : Option String := none
  deriving DecidableEq, Repr

def setOnce (value : String) : Option String → Option (Option String)
  | none => some (some value)
  | some _ => none

/-- Give an option its value. Only names may be given several times, and a path must not be empty. -/
def Options.set (options : Options) (value : String) : Key → Option Options
  | .snapshot =>
    if value = "" then none
    else (setOnce value options.snapshot).map fun given => { options with snapshot := given }
  | .config =>
    if value = "" then none
    else (setOnce value options.config).map fun given => { options with config := given }
  | .taskName => some { options with taskNames := options.taskNames ++ [value] }
  | .timerName => some { options with timerNames := options.timerNames ++ [value] }
  | .logLevel => (setOnce value options.logLevel).map fun given => { options with logLevel := given }

def Options.setPerTaskTiming (options : Options) : Option Options :=
  if options.perTaskTiming then none else some { options with perTaskTiming := true }

/-- What is expected next: options, the value of one, nothing more but the end mark `--`, or nothing. -/
inductive Stage where
  | options
  | value (key : Key)
  | chosen (action : Action)
  | closed (action : Action)
  deriving DecidableEq, Repr

structure Reading where
  options : Options := {}
  stage : Stage := .options
  deriving DecidableEq, Repr

/-- An option's value that follows its letter in the same word, with or without an equals sign. -/
def attachedValue : List Char → String
  | '=' :: value => String.ofList value
  | value => String.ofList value

/-- Read a word that begins with two hyphens, given without them. -/
def readLong (options : Options) (word : List Char) : Option Reading :=
  let name := String.ofList (word.takeWhile (· != '='))
  match word.dropWhile (· != '=') with
  | [] =>
    if name = "per-task-timing" then
      options.setPerTaskTiming.map fun options => { options }
    else (Key.ofName? name).map fun key => { options, stage := .value key }
  | _ :: value => do
    let key ← Key.ofName? name
    let options ← options.set (String.ofList value) key
    return { options }

def readShort (options : Options) (letter : Char) (attached : List Char) : Option Reading := do
  let key ← Key.ofLetter? letter
  if attached.isEmpty then return { options, stage := .value key }
  else
    let options ← options.set (attachedValue attached) key
    return { options }

def Reading.step (reading : Reading) (word : String) : Option Reading :=
  match reading.stage, word.toList with
  | .options, '-' :: '-' :: name => readLong reading.options name
  | .options, '-' :: letter :: attached => readShort reading.options letter attached
  | .options, _ =>
    (Action.ofWord? word).map fun action => { reading with stage := .chosen action }
  -- A hyphen alone is a value; a longer word that begins with one would be an option.
  | .value _, '-' :: _ :: _ => none
  | .value key, _ => (reading.options.set word key).map fun options => { options }
  | .chosen action, ['-', '-'] => some { reading with stage := .closed action }
  | .chosen _, _ | .closed _, _ => none

structure Arguments where
  snapshot : String
  options : Options
  action : Action
  deriving DecidableEq, Repr

/-- The command line when there are no more words: a capture and a subcommand must be given. -/
def Reading.finish? (reading : Reading) : Option Arguments := do
  let snapshot ← reading.options.snapshot
  match reading.stage with
  | .chosen action | .closed action => return ⟨snapshot, reading.options, action⟩
  | .options | .value _ => none

def Arguments.ofWords? (words : List String) : Option Arguments :=
  (words.foldlM Reading.step {}).bind Reading.finish?

/-- The level of a name; any other name asks for warnings. -/
def levelOfName (name : String) : Level :=
  if name = "trace" then .trace
  else if name = "debug" then .debug
  else if name = "info" then .info
  else if name = "error" then .error
  else .warn

def Arguments.level (arguments : Arguments) : Level :=
  (arguments.options.logLevel.map levelOfName).getD .warn

end SchedProbe.CommandLine
