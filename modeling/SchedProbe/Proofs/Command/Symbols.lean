import SchedProbe.Command
import SchedProbe.Proofs.Target.Renaming

/-! Symbols are opaque to the standard commands: what a command makes of a capture hangs on what stands under
the symbols of its own roles, and on neither their names nor anything else in the capture. -/

set_option autoImplicit false

namespace SchedProbe

/-- What a symbol stands for in a symbol table. -/
abbrev Role := SymbolTable → Symbol

/-- The roles whose symbols a command reads: those of its scalars, and that of its array. -/
structure Roles where
  scalars : List Role
  array : Role

def Roles.all (roles : Roles) : List Role :=
  roles.scalars ++ [roles.array]

def TaskTrace.roles : Roles where
  scalars := [(·.scheduler.tagPost), (·.scheduler.tagRun), (·.scheduler.tagEnd), (·.scheduler.traceNext)]
  array := (·.scheduler.trace)

def ReadyQueue.roles : Roles where
  scalars := [(·.scheduler.numTasks), (·.scheduler.noTask), (·.scheduler.queueHead), (·.scheduler.queueTail)]
  array := (·.scheduler.queueNext)

def TimerTrace.roles : Roles where
  scalars := [(·.timers.tagStartTicks), (·.timers.tagStartMicros), (·.timers.tagStopped), (·.timers.tagFired),
    (·.timers.tagEnd), (·.timers.tagDelta), (·.timers.traceNext)]
  array := (·.timers.trace)

def TimerTable.roles : Roles where
  scalars := [(·.timers.numTimers)]
  array := (·.timers.descriptors)

def Command.roles : List ((Config → Command) × Roles) :=
  [(taskTrace, TaskTrace.roles), (taskQueue, ReadyQueue.roles), (timerTrace, TimerTrace.roles),
    (timerDump, TimerTable.roles)]

/-- Two captures, each with its symbol table, in which every role reads the same. -/
structure Roles.SameAnswers (roles : Roles) (first : Snapshot) (own : SymbolTable) (second : Snapshot)
    (other : SymbolTable) : Prop where
  scalars : ∀ role ∈ roles.scalars, SameScalar first (role own) second (role other)
  array : SameArray first (roles.array own) second (roles.array other)

def Roles.Paired (roles : Roles) (own other : SymbolTable) (s t : Symbol) : Prop :=
  ∃ role ∈ roles.all, s = role own ∧ t = role other

/-! ## Commands on two captures -/

namespace Roles

variable {roles : Roles} {first second : Snapshot} {own other : SymbolTable}

theorem paired_scalar (role : Role) (member : role ∈ roles.scalars) :
    roles.Paired own other (role own) (role other) :=
  ⟨role, List.mem_append_left _ member, rfl, rfl⟩

theorem paired_array : roles.Paired own other (roles.array own) (roles.array other) :=
  ⟨roles.array, List.mem_append_right _ (List.mem_singleton_self _), rfl, rfl⟩

namespace SameAnswers

open Inspection

variable (answers : roles.SameAnswers first own second other)

include answers

theorem agree_scalar (role : Role) (member : role ∈ roles.scalars) :
    Agree (roles.Paired own other) first second (scalar (role own)) (scalar (role other)) :=
  Inspection.agree_scalar (paired_scalar role member) (answers.scalars role member)

theorem agree_scalarAs (role : Role) (member : role ∈ roles.scalars) (kind : IntKind) :
    Agree (roles.Paired own other) first second (scalarAs kind (role own)) (scalarAs kind (role other)) :=
  Inspection.agree_scalarAs (paired_scalar role member) (answers.scalars role member) kind

theorem agree_scalarId (role : Role) (member : role ∈ roles.scalars) :
    Agree (roles.Paired own other) first second (scalarId (role own)) (scalarId (role other)) :=
  Inspection.agree_scalarId (paired_scalar role member) (answers.scalars role member)

theorem agree_length : Agree (roles.Paired own other) first second (length (roles.array own))
    (length (roles.array other)) :=
  Inspection.agree_length paired_array answers.array

theorem agree_elements {α : Type} (take : Element → Except AccessError α)
    (blind : ∀ s t, roles.Paired own other s t → ∀ index fields,
      SameRead (roles.Paired own other) (take ⟨s, index, fields⟩) (take ⟨t, index, fields⟩)) (count : Nat) :
    Agree (roles.Paired own other) first second (elements (roles.array own) take count 0 #[])
      (elements (roles.array other) take count 0 #[]) :=
  Inspection.agree_elements paired_array answers.array (blind _ _ paired_array) count 0 #[]

theorem agree_renderRing {σ : Type} {command : String} {render : σ → Nat → TraceRecord → String × σ}
    (next : Role) (member : next ∈ roles.scalars) (start : σ) :
    Agree (roles.Paired own other) first second
      (Ring.renderRing (next own) (roles.array own) command render start)
      (Ring.renderRing (next other) (roles.array other) command render start) :=
  Ring.agree_renderRing paired_array answers.array (paired_scalar next member)
    (answers.scalars next member) start

end SameAnswers

end Roles

section Commands

variable {first second : Snapshot} {own other : SymbolTable} (config : Config)

open Inspection

theorem TaskTrace.agree_inspect (answers : roles.SameAnswers first own second other) :
    Agree (roles.Paired own other) first second (inspect { config with symbols := own })
      (inspect { config with symbols := other }) := by
  have tags : Agree (roles.Paired own other) first second (readTags own.scheduler)
      (readTags other.scheduler) :=
    agree_bind (answers.agree_scalar (·.scheduler.tagPost) (by simp [roles])) fun _ =>
      agree_bind (answers.agree_scalar (·.scheduler.tagRun) (by simp [roles])) fun _ =>
        agree_bind (answers.agree_scalar (·.scheduler.tagEnd) (by simp [roles])) fun _ => agree_pure _
  exact agree_bind tags fun _ => answers.agree_renderRing (·.scheduler.traceNext) (by simp [roles]) _

theorem TimerTrace.agree_inspect (answers : roles.SameAnswers first own second other) :
    Agree (roles.Paired own other) first second (inspect { config with symbols := own })
      (inspect { config with symbols := other }) := by
  have tags : Agree (roles.Paired own other) first second (readTags own.timers) (readTags other.timers) :=
    agree_bind (answers.agree_scalar (·.timers.tagStartTicks) (by simp [roles])) fun _ =>
      agree_bind (answers.agree_scalar (·.timers.tagStartMicros) (by simp [roles])) fun _ =>
        agree_bind (answers.agree_scalar (·.timers.tagStopped) (by simp [roles])) fun _ =>
          agree_bind (answers.agree_scalar (·.timers.tagFired) (by simp [roles])) fun _ =>
            agree_bind (answers.agree_scalar (·.timers.tagEnd) (by simp [roles])) fun _ =>
              agree_bind (answers.agree_scalar (·.timers.tagDelta) (by simp [roles])) fun _ => agree_pure _
  exact agree_bind tags fun _ => answers.agree_renderRing (·.timers.traceNext) (by simp [roles]) _

theorem ReadyQueue.agree_inspect (answers : roles.SameAnswers first own second other) :
    Agree (roles.Paired own other) first second (inspect { config with symbols := own })
      (inspect { config with symbols := other }) := by
  have links := answers.agree_elements (·.getId "value") fun s t paired index fields =>
    Element.getId_renamed paired index fields "value"
  exact agree_bind (answers.agree_scalarAs (·.scheduler.numTasks) (by simp [roles]) .size) fun _ =>
    agree_bind (answers.agree_scalarId (·.scheduler.noTask) (by simp [roles])) fun _ =>
      agree_bind (answers.agree_scalarId (·.scheduler.queueHead) (by simp [roles])) fun _ =>
        agree_bind (answers.agree_scalarId (·.scheduler.queueTail) (by simp [roles])) fun _ =>
          agree_bind answers.agree_length fun length =>
            agree_bind (links length) fun _ => agree_bind (agree_log _ _) fun _ => agree_report _ _ _ _ _

theorem TimerTable.agree_dump (same : Symbol → Symbol → Prop) (names : Names) (timers : List Descriptor) :
    Agree same first second (dump names timers) (dump names timers) := by
  unfold dump
  split
  · exact agree_bind (agree_log _ _) fun _ => agree_pure _
  · exact agree_pure _

theorem TimerTable.agree_inspect (answers : roles.SameAnswers first own second other) :
    Agree (roles.Paired own other) first second (inspect { config with symbols := own })
      (inspect { config with symbols := other }) := by
  have numTimers : (·.timers.numTimers) ∈ roles.scalars := by simp [roles]
  have timers := answers.agree_elements Descriptor.ofElement fun s t paired index fields =>
    Descriptor.ofElement_renamed paired index fields
  refine agree_bind (answers.agree_scalarId (·.timers.numTimers) numTimers) fun count =>
    agree_bind answers.agree_length fun length => ?_
  split
  · exact .error (.access (.countExceedsArray (Roles.paired_scalar _ numTimers) Roles.paired_array _ _))
  · exact agree_bind (agree_log _ _) fun _ => agree_bind (timers count.toNat) fun _ => agree_dump _ _ _

end Commands

theorem Command.agree_inspection {command : Config → Command} {roles : Roles}
    (member : (command, roles) ∈ Command.roles) (config : Config) {first second : Snapshot}
    {own other : SymbolTable} (answers : roles.SameAnswers first own second other) :
    Inspection.Agree (roles.Paired own other) first second (command { config with symbols := own }).inspection
      (command { config with symbols := other }).inspection := by
  simp only [Command.roles, List.mem_cons, List.not_mem_nil, or_false, Prod.mk.injEq] at member
  obtain ⟨rfl, rfl⟩ | ⟨rfl, rfl⟩ | ⟨rfl, rfl⟩ | ⟨rfl, rfl⟩ := member
  · exact Inspection.agree_bind (Inspection.agree_log _ _) fun _ => TaskTrace.agree_inspect config answers
  · exact Inspection.agree_bind (Inspection.agree_log _ _) fun _ => ReadyQueue.agree_inspect config answers
  · exact Inspection.agree_bind (Inspection.agree_log _ _) fun _ => TimerTrace.agree_inspect config answers
  · exact Inspection.agree_bind (Inspection.agree_log _ _) fun _ => TimerTable.agree_inspect config answers

/-! ## Renaming the symbols of a capture -/

def SchedulerSymbols.map (f : Symbol → Symbol) (symbols : SchedulerSymbols) : SchedulerSymbols where
  tagPost := f symbols.tagPost
  tagRun := f symbols.tagRun
  tagEnd := f symbols.tagEnd
  numTasks := f symbols.numTasks
  noTask := f symbols.noTask
  traceNext := f symbols.traceNext
  trace := f symbols.trace
  queueHead := f symbols.queueHead
  queueTail := f symbols.queueTail
  queueNext := f symbols.queueNext

def TimerSymbols.map (f : Symbol → Symbol) (symbols : TimerSymbols) : TimerSymbols where
  tagStartTicks := f symbols.tagStartTicks
  tagStartMicros := f symbols.tagStartMicros
  tagStopped := f symbols.tagStopped
  tagFired := f symbols.tagFired
  tagEnd := f symbols.tagEnd
  tagDelta := f symbols.tagDelta
  traceNext := f symbols.traceNext
  trace := f symbols.trace
  numTimers := f symbols.numTimers
  descriptors := f symbols.descriptors

def SymbolTable.map (f : Symbol → Symbol) (symbols : SymbolTable) : SymbolTable where
  scheduler := symbols.scheduler.map f
  timers := symbols.timers.map f

/-- A capture with what stood under each symbol now under its new name. -/
def Snapshot.rename (f : Symbol → Symbol) (snapshot : Snapshot) : Snapshot where
  scalars := .ofList (snapshot.scalars.toList.map fun entry => (f entry.1, entry.2))
  arrays := .ofList (snapshot.arrays.toList.map fun entry => (f entry.1, entry.2))

section Rename

variable {f : Symbol → Symbol} (injective : Function.Injective f)

include injective

theorem getElem?_renamed {α : Type} (map : Std.ExtTreeMap Symbol α) (symbol : Symbol) :
    (Std.ExtTreeMap.ofList (map.toList.map fun entry => (f entry.1, entry.2)))[f symbol]? = map[symbol]? := by
  have distinct : (map.toList.map fun entry => (f entry.1, entry.2)).Pairwise
      fun entry other => ¬ compare entry.1 other.1 = .eq := by
    refine Std.ExtTreeMap.distinct_keys_toList.map _ fun entry other apart same => apart ?_
    rw [injective (Std.LawfulEqCmp.eq_of_compare same)]
    exact Std.ReflCmp.compare_self
  cases held : map[symbol]? with
  | some value =>
    refine Std.ExtTreeMap.getElem?_ofList_of_mem Std.ReflCmp.compare_self distinct ?_
    exact List.mem_map.2 ⟨_, Std.ExtTreeMap.mem_toList_iff_getElem?_eq_some.2 held, rfl⟩
  | none =>
    refine Std.ExtTreeMap.getElem?_ofList_of_contains_eq_false ?_
    rw [List.contains_eq_mem, decide_eq_false_iff_not, List.map_map]
    intro found
    obtain ⟨⟨other, value⟩, entry, same⟩ := List.mem_map.1 found
    obtain rfl := injective same
    rw [Std.ExtTreeMap.mem_toList_iff_getElem?_eq_some.1 entry] at held
    cases held

end Rename

theorem SameScalar.mem_iff {first second : Snapshot} {s t : Symbol} (held : SameScalar first s second t) :
    s ∈ first.scalars ↔ t ∈ second.scalars := by
  rw [Std.ExtTreeMap.mem_iff_isSome_getElem?, Std.ExtTreeMap.mem_iff_isSome_getElem?, held]

theorem Command.symbol_map (f : Symbol → Symbol) (table : SymbolTable) :
    ∀ entry ∈ Command.roles, ∀ role ∈ entry.2.all, role (table.map f) = f (role table) := by
  simp only [Command.roles, Roles.all, TaskTrace.roles, ReadyQueue.roles, TimerTrace.roles, TimerTable.roles,
    List.cons_append, List.nil_append, List.forall_mem_cons, List.not_mem_nil, IsEmpty.forall_iff,
    implies_true, and_self, SymbolTable.map, SchedulerSymbols.map, TimerSymbols.map]

theorem Roles.sameAnswers_rename {command : Config → Command} {roles : Roles}
    (member : (command, roles) ∈ Command.roles) {f : Symbol → Symbol} (injective : Function.Injective f)
    (snapshot : Snapshot) (table : SymbolTable) :
    roles.SameAnswers snapshot table (snapshot.rename f) (table.map f) := by
  have moved := Command.symbol_map f table _ member
  have scalar : ∀ role ∈ roles.all,
      SameScalar snapshot (role table) (snapshot.rename f) (role (table.map f)) := by
    intro role used
    rw [moved role used]
    exact (getElem?_renamed injective snapshot.scalars (role table)).symm
  have array : roles.array ∈ roles.all := List.mem_append_right _ (List.mem_singleton_self _)
  refine ⟨fun role used => scalar role (List.mem_append_left _ used), ?_, fun _ => (scalar _ array).mem_iff⟩
  rw [moved _ array]
  exact (getElem?_renamed injective snapshot.arrays (roles.array table)).symm

theorem Roles.sameAnswers_of_entries {roles : Roles} {first second : Snapshot} {table : SymbolTable}
    (entries : ∀ role ∈ roles.all, first.scalars[role table]? = second.scalars[role table]? ∧
      first.arrays[role table]? = second.arrays[role table]?) :
    roles.SameAnswers first table second table := by
  obtain ⟨scalar, array⟩ := entries _ (List.mem_append_right _ (List.mem_singleton_self _))
  exact ⟨fun role used => (entries role (List.mem_append_left _ used)).1, array,
    fun _ => SameScalar.mem_iff scalar⟩

/-- A command sees what stands under the symbols of its roles and nothing else: where these read the same, it
comes to the same lines, or to errors that differ in the names of these symbols only. So renaming all symbols
changes nothing else, and what stands under other symbols changes nothing at all. -/
theorem symbols_opaque :
    (∀ config, Command.roles.map (fun entry => entry.1 config) = Command.standard config) ∧
    ∀ (command : Config → Command) (roles : Roles), (command, roles) ∈ Command.roles →
      let result := fun config => (command config).inspection.run.result Snapshot.target
      (∀ (config : Config) (own other : SymbolTable) (first second : Snapshot),
        roles.SameAnswers first own second other →
          SameOutcome (Failure.Renamed (roles.Paired own other))
            (result { config with symbols := own } first) (result { config with symbols := other } second)) ∧
      (∀ f : Symbol → Symbol, Function.Injective f → ∀ (config : Config) (snapshot : Snapshot),
        SameOutcome (Failure.Renamed fun s t => t = f s) (result config snapshot)
          (result { config with symbols := config.symbols.map f } (snapshot.rename f))) ∧
      ∀ (config : Config) (first second : Snapshot),
        (∀ role ∈ roles.all,
          first.scalars[role config.symbols]? = second.scalars[role config.symbols]? ∧
            first.arrays[role config.symbols]? = second.arrays[role config.symbols]?) →
          result config first = result config second := by
  refine ⟨fun config => rfl, fun command roles member => ⟨?_, ?_, ?_⟩⟩
  · intro config own other first second answers
    exact Command.agree_inspection member config answers
  · intro f injective config snapshot
    have agree := Command.agree_inspection member config
      (Roles.sameAnswers_rename member injective snapshot config.symbols)
    refine agree.mono fun renamed => renamed.mono ?_
    rintro s t ⟨role, used, rfl, rfl⟩
    exact Command.symbol_map f config.symbols _ member role used
  · intro config first second entries
    have agree := Command.agree_inspection member config (Roles.sameAnswers_of_entries entries)
    -- In one table a role has one symbol, so errors that differ in symbols only do not differ.
    refine (agree.mono fun renamed => (renamed.mono ?_).eq).eq
    rintro s t ⟨role, used, rfl, rfl⟩
    rfl

-- In one table both roles of the command have one symbol, which stands for a scalar and for an array.
theorem symbols_opaque_shared :
    let shared : SymbolTable := { timers := { numTimers := "x", descriptors := "x" } }
    let apart : SymbolTable := { timers := { numTimers := "count", descriptors := "y" } }
    let first := (Snapshot.empty.withScalar "x" 2).withArray "x" #[∅]
    let second := (Snapshot.empty.withScalar "count" 2).withArray "y" #[∅]
    let result := fun symbols =>
      (Command.timerDump { symbols := symbols }).inspection.run.result Snapshot.target
    let rename := fun symbol => "new " ++ symbol
    TimerTable.roles.SameAnswers first shared second apart ∧ Function.Injective rename ∧
      SameOutcome (Failure.Renamed (TimerTable.roles.Paired shared apart)) (result shared first)
        (result apart second) ∧
      SameOutcome (Failure.Renamed fun s t => t = rename s) (result shared first)
        (result (shared.map rename) (first.rename rename)) ∧
      result shared first = result shared (first.withScalar "y" 3) ∧
      result shared first = .error (.access (.countExceedsArray "x" 2 "x" 1)) ∧
      result apart second = .error (.access (.countExceedsArray "count" 2 "y" 1)) := by
  intro shared apart first second result rename
  have answers : TimerTable.roles.SameAnswers first shared second apart := by
    refine ⟨fun role used => ?_, ?_, ?_⟩
    · obtain rfl := List.mem_singleton.1 used
      change first.scalars["x"]? = second.scalars["count"]?
      decide +kernel
    · decide +kernel
    · decide +kernel
  have injective : Function.Injective rename := fun s t same => String.append_right_inj "new " |>.1 same
  have member : (Command.timerDump, TimerTable.roles) ∈ Command.roles := by simp [Command.roles]
  obtain ⟨pairs, renamed, others⟩ := symbols_opaque.2 _ _ member
  exact ⟨answers, injective, pairs {} shared apart first second answers,
    renamed rename injective { symbols := shared } first,
    others { symbols := shared } first _ (by decide +kernel), by decide +kernel, by decide +kernel⟩

end SchedProbe
