import SchedProbe.Config.Merge
import SchedProbe.Proofs.Config.Override

/-! Name overrides over a configuration. Of the overrides of an id the last one counts, then comes the configuration's
own label, then the bare number, for tasks and timers each on their own. The first malformed text is the error, and
the texts for tasks come before those for timers. -/

set_option autoImplicit false

namespace SchedProbe

namespace NameOverride

def FirstMalformed (texts : List String) (text : String) : Prop :=
  ¬ Parses text ∧ ∃ before after, texts = before ++ text :: after ∧ ∀ other ∈ before, Parses other

/-- The last of some texts that overrides the name of an id gives it this label. -/
def LastLabel (texts : List String) (id : UInt16) (label : String) : Prop :=
  ∃ before text after, texts = before ++ text :: after ∧ ofText text = .ok (id, label) ∧
    ∀ other ∈ after, ∀ another, ofText other ≠ .ok (id, another)

def Unlabelled (texts : List String) (id : UInt16) : Prop :=
  ∀ text ∈ texts, ∀ label, ofText text ≠ .ok (id, label)

end NameOverride

open NameOverride

variable {texts : List String}

inductive Names.Shows (names : Names) (texts : List String) (id : UInt16) : String → Prop where
  | overridden {label : String} : LastLabel texts id label →
      Shows names texts id (label ++ "/" ++ Text.decimal id.toNat)
  | labelled {label : String} : Unlabelled texts id → names.labels[id]? = some label →
      Shows names texts id (label ++ "/" ++ Text.decimal id.toNat)
  | bare : Unlabelled texts id → names.labels[id]? = none → Shows names texts id ("t" ++ Text.decimal id.toNat)

namespace NameOverride

theorem firstMalformed_iff {text : String} :
    FirstMalformed texts text ↔ texts.find? (fun text => !decide (Parses text)) = some text := by
  rw [List.find?_eq_some_iff_append]
  simp [FirstMalformed]

theorem FirstMalformed.unique {text text' : String} (first : FirstMalformed texts text)
    (first' : FirstMalformed texts text') : text = text' :=
  Option.some.inj ((firstMalformed_iff.1 first).symm.trans (firstMalformed_iff.1 first'))

theorem FirstMalformed.not_forall {text : String} (first : FirstMalformed texts text) :
    ¬ ∀ other ∈ texts, Parses other := by
  obtain ⟨malformed, before, after, rfl, -⟩ := first
  exact fun parsed => malformed (parsed text (List.mem_append_right before List.mem_cons_self))

theorem FirstMalformed.cons {first text : String} (parsed : Parses first) (malformed : FirstMalformed texts text) :
    FirstMalformed (first :: texts) text := by
  obtain ⟨malformed, before, after, rfl, others⟩ := malformed
  exact ⟨malformed, first :: before, after, rfl, List.forall_mem_cons.2 ⟨parsed, others⟩⟩

end NameOverride

namespace Names

variable {names merged : Names}

theorem override_cons {text : String} {entry : UInt16 × String} (read : ofText text = .ok entry) :
    names.override (text :: texts) = (names.insert entry.1 entry.2).override texts := by
  rw [override, read]
  rfl

theorem override_ok_or_malformed (names : Names) (texts : List String) :
    ((∃ merged, names.override texts = .ok merged) ∧ ∀ text ∈ texts, Parses text) ∨
      ∃ text, FirstMalformed texts text ∧ names.override texts = .error (.badOverride text) := by
  induction texts generalizing names with
  | nil => exact .inl ⟨⟨names, rfl⟩, List.forall_mem_nil _⟩
  | cons text texts ih =>
    by_cases parsed : Parses text
    · obtain ⟨entry, read⟩ := parsed
      rw [override_cons read]
      obtain ⟨merged, rest⟩ | ⟨other, first, failed⟩ := ih (names.insert entry.1 entry.2)
      · exact .inl ⟨merged, List.forall_mem_cons.2 ⟨⟨entry, read⟩, rest⟩⟩
      · exact .inr ⟨other, first.cons ⟨entry, read⟩, failed⟩
    · refine .inr ⟨text, ⟨parsed, [], texts, rfl, List.forall_mem_nil _⟩, ?_⟩
      rw [override, ofText_of_not_parses parsed]
      rfl

-- By induction on the texts from the first on: each one sets one label, which a later one of the same id sets anew.
theorem labels_override (overridden : names.override texts = .ok merged) (id : UInt16) :
    (∃ label, LastLabel texts id label ∧ merged.labels[id]? = some label) ∨
      (Unlabelled texts id ∧ merged.labels[id]? = names.labels[id]?) := by
  induction texts generalizing names with
  | nil =>
    cases overridden
    exact .inr ⟨List.forall_mem_nil _, rfl⟩
  | cons text texts ih =>
    obtain ⟨entry, read⟩ | malformed := Decidable.em (Parses text)
    · rw [override_cons read] at overridden
      obtain ⟨label, ⟨before, last, after, rfl, given, rest⟩, held⟩ | ⟨none, held⟩ := ih overridden
      · exact .inl ⟨label, ⟨text :: before, last, after, rfl, given, rest⟩, held⟩
      · rw [labels_insert] at held
        by_cases same : entry.1 = id
        · rw [if_pos same] at held
          exact .inl ⟨entry.2, ⟨[], text, texts, rfl, same ▸ read, none⟩, held⟩
        · rw [if_neg same] at held
          refine .inr ⟨List.forall_mem_cons.2 ⟨fun label given => same ?_, none⟩, held⟩
          rw [given] at read
          cases read
          rfl
    · rw [override, ofText_of_not_parses malformed] at overridden
      cases overridden

theorem shows_override (overridden : names.override texts = .ok merged) (id : UInt16) :
    names.Shows texts id (merged.resolve id) := by
  unfold resolve
  obtain ⟨label, last, held⟩ | ⟨none, held⟩ := labels_override overridden id
  · rw [held]
    exact .overridden last
  · rw [held]
    cases kept : names.labels[id]? with
    | some label => exact .labelled none kept
    | none => exact .bare none kept

end Names

namespace Config

structure Merged (config : Config) (taskNames timerNames : List String) (perTaskTiming : Bool) (merged : Config) :
    Prop where
  tasks : ∀ id, config.tasks.Shows taskNames id (merged.tasks.resolve id)
  timers : ∀ id, config.timers.Shows timerNames id (merged.timers.resolve id)
  runTiming : merged.runTiming = if perTaskTiming then .perTask else config.runTiming
  symbols : merged.symbols = config.symbols

theorem merge_ok_or_malformed (config : Config) (taskNames timerNames : List String) (perTaskTiming : Bool) :
    ((∃ merged, config.merge taskNames timerNames perTaskTiming = .ok merged ∧
        config.Merged taskNames timerNames perTaskTiming merged) ∧
      ∀ text ∈ taskNames ++ timerNames, Parses text) ∨
    ∃ text, FirstMalformed (taskNames ++ timerNames) text ∧
      config.merge taskNames timerNames perTaskTiming = .error (.badOverride text) := by
  unfold merge
  obtain ⟨⟨tasks, overridden⟩, parsed⟩ | ⟨text, ⟨malformed, before, after, rfl, parsed⟩, failed⟩ :=
    config.tasks.override_ok_or_malformed taskNames
  · obtain ⟨⟨timers, overridden'⟩, parsed'⟩ | ⟨text, ⟨malformed, before, after, rfl, parsed'⟩, failed⟩ :=
      config.timers.override_ok_or_malformed timerNames
    · rw [overridden, overridden']
      exact .inl ⟨⟨_, rfl, Names.shows_override overridden, Names.shows_override overridden', rfl, rfl⟩,
        List.forall_mem_append.2 ⟨parsed, parsed'⟩⟩
    · rw [overridden, failed]
      exact .inr ⟨text, ⟨malformed, taskNames ++ before, after, (List.append_assoc ..).symm,
        List.forall_mem_append.2 ⟨parsed, parsed'⟩⟩, rfl⟩
  · rw [failed]
    exact .inr ⟨text, ⟨malformed, before, after ++ timerNames, List.append_assoc .., parsed⟩, rfl⟩

end Config

end SchedProbe
