import Mathlib.Data.Finset.Card
import Mathlib.Data.List.Induction
import SchedProbe.Command
import SchedProbe.Snapshot.Basic

/-! Registrations. Whatever has been registered, and in whatever order, a registry holds of each name the command that
was registered last, in the order of these last registrations, and looks up and invokes no other. -/

set_option autoImplicit false

namespace SchedProbe.Registry

variable {history : List Command} {command added : Command} {k : Nat}

/-! ## Last registrations -/

/-- The registration at a position of a history is the last one of its name. -/
structure Latest (history : List Command) (k : Nat) (command : Command) : Prop where
  registered : history[k]? = some command
  last : ∀ j other, k < j → history[j]? = some other → other.name ≠ command.name

theorem Latest.mem (latest : Latest history k command) : command ∈ history :=
  List.mem_of_getElem? latest.registered

theorem registered_concat_iff : (history ++ [added])[k]? = some command ↔
    history[k]? = some command ∨ (k = history.length ∧ command = added) := by
  obtain earlier | rfl | later := Nat.lt_trichotomy k history.length
  · simp [List.getElem?_append_left earlier, Nat.ne_of_lt earlier]
  · simp [eq_comm]
  · have outside : (history ++ [added])[k]? = none :=
      List.getElem?_eq_none (by rw [List.length_append, List.length_singleton]; exact later)
    simp [outside, List.getElem?_eq_none (Nat.le_of_lt later), Nat.ne_of_gt later]

/-- One more registration is the last of its name and leaves those of other names the last ones. -/
theorem latest_concat_iff : Latest (history ++ [added]) k command ↔
    (Latest history k command ∧ command.name ≠ added.name) ∨ (k = history.length ∧ command = added) := by
  have position : ∀ {j other}, history[j]? = some other → j < history.length :=
    fun found => (List.getElem?_eq_some_iff.1 found).1
  have here : (history ++ [added])[history.length]? = some added := List.getElem?_concat_length
  constructor
  · rintro ⟨registered, last⟩
    obtain old | new := registered_concat_iff.1 registered
    · refine .inl ⟨⟨old, fun j other after found => ?_⟩, (last _ added (position old) here).symm⟩
      exact last j other after (registered_concat_iff.2 (.inl found))
    · exact .inr new
  · rintro (⟨⟨registered, last⟩, other⟩ | ⟨rfl, rfl⟩)
    · refine ⟨registered_concat_iff.2 (.inl registered), fun j another after found => ?_⟩
      obtain old | ⟨-, rfl⟩ := registered_concat_iff.1 found
      · exact last j another after old
      · exact other.symm
    · refine ⟨here, fun j another after found => ?_⟩
      obtain old | ⟨rfl, -⟩ := registered_concat_iff.1 found
      · exact absurd (position old) (Nat.lt_asymm after)
      · exact absurd after (Nat.lt_irrefl _)

theorem exists_latest (registered : command ∈ history) :
    ∃ k other, Latest history k other ∧ other.name = command.name := by
  induction history using List.reverseRecOn with
  | nil => exact absurd registered List.not_mem_nil
  | append_singleton history added ih =>
    by_cases same : added.name = command.name
    · exact ⟨history.length, added, latest_concat_iff.2 (.inr ⟨rfl, rfl⟩), same⟩
    · obtain earlier | here := List.mem_append.1 registered
      · obtain ⟨k, other, latest, named⟩ := ih earlier
        exact ⟨k, other, latest_concat_iff.2 (.inl ⟨latest, fun again => same (again.symm.trans named)⟩), named⟩
      · rw [List.mem_singleton.1 here] at same
        exact absurd rfl same

/-! ## What a registry holds -/

/-- The last registrations of a history with their positions, in order. -/
structure Lists (history : List Command) (entries : List (Nat × Command)) : Prop where
  ordered : (entries.map Prod.fst).Pairwise (· < ·)
  latest : ∀ k command, (k, command) ∈ entries ↔ Latest history k command

theorem Lists.concat {entries : List (Nat × Command)} (lists : Lists history entries) (added : Command) :
    Lists (history ++ [added])
      (entries.filter (fun entry => entry.2.name != added.name) ++ [(history.length, added)]) where
  ordered := by
    have earlier : ∀ entry ∈ entries, entry.1 < history.length := fun entry member =>
      (List.getElem?_eq_some_iff.1 ((lists.latest entry.1 entry.2).1 member).registered).1
    rw [List.map_append, List.pairwise_append]
    refine ⟨lists.ordered.sublist (List.filter_sublist.map Prod.fst), List.pairwise_singleton _ _, ?_⟩
    intro position member final here
    obtain ⟨entry, kept, rfl⟩ := List.mem_map.1 member
    rw [List.mem_singleton.1 here]
    exact earlier entry (List.mem_of_mem_filter kept)
  latest k command := by
    rw [List.mem_append, List.mem_filter, List.mem_singleton, Prod.mk.injEq, lists.latest, bne_iff_ne,
      latest_concat_iff]

-- By induction on the history from its end: registering takes the name out of the list and appends the command.
theorem exists_lists (history : List Command) :
    ∃ entries, Lists history entries ∧ entries.map Prod.snd = (history.foldl register empty).commands := by
  induction history using List.reverseRecOn with
  | nil => exact ⟨[], ⟨List.Pairwise.nil, fun k command => ⟨fun member => absurd member List.not_mem_nil,
      fun latest => absurd latest.mem List.not_mem_nil⟩⟩, rfl⟩
  | append_singleton history added ih =>
    obtain ⟨entries, lists, held⟩ := ih
    refine ⟨_, lists.concat added, ?_⟩
    rw [List.foldl_append, List.foldl_cons, List.foldl_nil, register, ← held, List.filter_map, List.map_append]
    rfl

theorem Lists.names_nodup {entries : List (Nat × Command)} (lists : Lists history entries) :
    ((entries.map Prod.snd).map (·.name)).Nodup := by
  rw [List.map_map, List.nodup_iff_pairwise_ne, List.pairwise_map]
  refine (List.pairwise_map.1 lists.ordered).imp_of_mem fun {first second} member member' before same => ?_
  have latest := (lists.latest first.1 first.2).1 member
  exact latest.last _ _ before ((lists.latest second.1 second.2).1 member').registered same.symm

section Lookup

variable {registry : Registry} {name : String}

theorem named_of_find? (found : registry.find? name = some command) :
    command.name = name ∧ command ∈ registry.commands := by
  unfold find? at found
  have named := List.find?_some found
  exact ⟨eq_of_beq named, List.mem_of_find?_eq_some found⟩

theorem find?_eq_none_iff : registry.find? name = none ↔ name ∉ registry.commands.map (·.name) := by
  unfold find?
  rw [List.find?_eq_none, List.mem_map]
  constructor
  · rintro absent ⟨command, member, rfl⟩
    exact absent command member (beq_self_eq_true command.name)
  · exact fun absent command member named => absent ⟨command, member, eq_of_beq named⟩

-- A lookup takes the first command of the name; it is the one of the name, as no name is held twice.
theorem find?_eq_some_iff (unique : (registry.commands.map (·.name)).Nodup) :
    registry.find? name = some command ↔ command.name = name ∧ command ∈ registry.commands := by
  refine ⟨named_of_find?, ?_⟩
  rintro ⟨rfl, member⟩
  cases found : registry.find? command.name with
  | none => exact absurd (List.mem_map_of_mem member) (find?_eq_none_iff.1 found)
  | some other =>
    obtain ⟨named, held⟩ := named_of_find? found
    rw [List.inj_on_of_nodup_map unique held member named]

end Lookup

/-! ## Registries after registrations -/

/-- What has been registered in a registry as it is first handed out: nothing, or the standard commands. -/
inductive Starts : List Command → Registry → Prop where
  | empty : Starts [] .empty
  | standard (config : Config) : Starts (Command.standard config) (.standard config)

theorem Starts.eq_foldl {before : List Command} {start : Registry} (starts : Starts before start) :
    start = before.foldl register Registry.empty := by
  cases starts <;> rfl

/-- A registry lists the last registrations of a history in order, each name once; it has as many commands as the
history has names, looks up the command that was registered last under a name, and carries out no other. -/
structure Keeps (registry : Registry) (history : List Command) : Prop where
  listed : ∃ entries, Lists history entries ∧ entries.map Prod.snd = registry.commands
  names_nodup : (registry.commands.map (·.name)).Nodup
  mem_names : ∀ name, name ∈ registry.commands.map (·.name) ↔ name ∈ history.map (·.name)
  size : registry.size = (history.map (·.name)).toFinset.card
  isEmpty : registry.isEmpty = true ↔ registry.size = 0
  found : ∀ name command, registry.find? name = some command ↔
    command.name = name ∧ ∃ k, Latest history k command
  unknown : ∀ name, registry.find? name = none ↔ name ∉ history.map (·.name)
  invoked : ∀ name command, registry.find? name = some command → registry.invoke name = command.inspection
  refused : ∀ name, registry.find? name = none → registry.invoke name = throw (.unknownCommand name)

theorem keeps_of_lists {registry : Registry} {entries : List (Nat × Command)} (lists : Lists history entries)
    (held : entries.map Prod.snd = registry.commands) : registry.Keeps history := by
  have unique : (registry.commands.map (·.name)).Nodup := held ▸ lists.names_nodup
  have mem_commands : ∀ command, command ∈ registry.commands ↔ ∃ k, Latest history k command := by
    intro command
    rw [← held, List.mem_map]
    constructor
    · rintro ⟨⟨k, _⟩, member, rfl⟩
      exact ⟨k, (lists.latest k _).1 member⟩
    · exact fun ⟨k, latest⟩ => ⟨(k, command), (lists.latest k command).2 latest, rfl⟩
  have mem_names : ∀ name, name ∈ registry.commands.map (·.name) ↔ name ∈ history.map (·.name) := by
    intro name
    rw [List.mem_map, List.mem_map]
    constructor
    · rintro ⟨command, member, named⟩
      obtain ⟨k, latest⟩ := (mem_commands command).1 member
      exact ⟨command, latest.mem, named⟩
    · rintro ⟨command, registered, named⟩
      obtain ⟨k, other, latest, same⟩ := exists_latest registered
      exact ⟨other, (mem_commands other).2 ⟨k, latest⟩, same.trans named⟩
  refine ⟨⟨entries, lists, held⟩, unique, mem_names, ?_, ?_, fun name command => ?_, fun name => ?_,
    fun name command found => ?_, fun name unknown => ?_⟩
  · have names : (history.map (·.name)).toFinset = (registry.commands.map (·.name)).toFinset := by
      ext name
      rw [List.mem_toFinset, List.mem_toFinset, mem_names]
    rw [names, List.toFinset_card_of_nodup unique, List.length_map, size]
  · rw [isEmpty, size, List.isEmpty_iff, List.length_eq_zero_iff]
  · rw [find?_eq_some_iff unique, mem_commands]
  · rw [find?_eq_none_iff, mem_names]
  · rw [invoke, found]
  · rw [invoke, unknown]

/-- After any registrations in an empty or a standard registry, the registry keeps of each name the command that was
registered last, in the order of the last registrations. On any target, a name is reported as unknown exactly if
nothing was registered under it, unless a command of that name reports so itself. -/
theorem keeps_registrations {before : List Command} {start : Registry} (starts : Starts before start)
    (calls : List Command) :
    let registry := calls.foldl register start
    registry.Keeps (before ++ calls) ∧
      ∀ {σ : Type} (target : Target σ) (state : σ) (name : String),
        (∀ command ∈ before ++ calls, command.name = name →
          command.inspection.run.result target state ≠ .error (.unknownCommand name)) →
        ((registry.invoke name).run.result target state = .error (.unknownCommand name) ↔
          registry.find? name = none) := by
  intro registry
  have folded : registry = (before ++ calls).foldl register empty := by
    rw [List.foldl_append, ← starts.eq_foldl]
  obtain ⟨entries, lists, held⟩ := exists_lists (before ++ calls)
  rw [← folded] at held
  have keeps := keeps_of_lists lists held
  refine ⟨keeps, fun target state name honest => ?_⟩
  cases found : registry.find? name with
  | none =>
    rw [keeps.refused name found]
    exact iff_of_true rfl rfl
  | some command =>
    obtain ⟨named, k, latest⟩ := (keeps.found name command).1 found
    rw [keeps.invoked name command found]
    exact iff_of_false (honest command latest.mem named) (Option.some_ne_none command)

-- Two commands of a host, one of them registered twice, and one that takes the place of a standard command.
theorem keeps_registrations_replaced :
    let fixed : String → String → Command := fun name line => ⟨name, "Show a fixed line", pure [line]⟩
    let calls := [fixed "echo" "one", fixed "task-queue" "none", fixed "echo" "two", fixed "hint" "three"]
    let registry := calls.foldl register (.standard {})
    let history := Command.standard {} ++ calls
    Starts (Command.standard {}) (.standard {}) ∧ registry.Keeps history ∧
      registry.commands.map (·.name) = ["task-trace", "timer-trace", "timer-dump", "task-queue", "echo", "hint"] ∧
      registry.size = 6 ∧ Latest history 6 (fixed "echo" "two") ∧
      registry.find? "echo" = some (fixed "echo" "two") ∧ registry.invoke "echo" = pure ["two"] ∧
      registry.find? "blink" = none ∧ registry.invoke "blink" = throw (.unknownCommand "blink") ∧
      (registry.invoke "blink").run.result Snapshot.target .empty = .error (.unknownCommand "blink") := by
  intro fixed calls registry history
  obtain ⟨keeps, refuses⟩ := keeps_registrations (.standard {}) calls
  have latest : Latest history 6 (fixed "echo" "two") := by
    refine ⟨rfl, fun j other after found => ?_⟩
    obtain ⟨within, -⟩ := List.getElem?_eq_some_iff.1 found
    obtain rfl : j = 7 := by
      have length : history.length = 8 := rfl
      omega
    cases found
    exact (by decide : "hint" ≠ "echo")
  have echo := (keeps.found "echo" (fixed "echo" "two")).2 ⟨rfl, 6, latest⟩
  have blink : registry.find? "blink" = none := (keeps.unknown "blink").2 (by decide)
  have strange : ∀ command ∈ history, command.name = "blink" →
      command.inspection.run.result Snapshot.target .empty ≠ .error (.unknownCommand "blink") := by
    intro command member named
    exact absurd (named ▸ List.mem_map_of_mem member) ((keeps.unknown "blink").1 blink)
  exact ⟨.standard {}, keeps, by decide, by decide, latest, echo, keeps.invoked _ _ echo, blink,
    keeps.refused _ blink, (refuses Snapshot.target .empty "blink" strange).2 blink⟩

end SchedProbe.Registry
