import SchedProbe.Command
import SchedProbe.Proofs.ReadyQueue.Captured
import SchedProbe.Proofs.Ring.Listing
import SchedProbe.Proofs.Target.Capture
import SchedProbe.Proofs.TimerTable.Rows

/-! Captures that hold the same numbers in other forms. A field may be a number, a flag or bytes in either
order; commands take from it the number it denotes, or the reason it denotes none, and nothing else. -/

set_option autoImplicit false

namespace SchedProbe

/-- Records with fields of the same names, which denote the same numbers or fail to for the same reasons. -/
def Fields.Alike (first second : Fields) : Prop :=
  ∀ name : String, Option.Rel (fun field other => field.decode name = other.decode name)
    first[name]? second[name]?

structure AlikeArrays (first second : Array Fields) : Prop where
  size : first.size = second.size
  records : ∀ index : Nat, Option.Rel Fields.Alike first[index]? second[index]?

structure Snapshot.Alike (first second : Snapshot) : Prop where
  scalars : first.scalars = second.scalars
  arrays : ∀ symbol : Symbol, Option.Rel AlikeArrays first.arrays[symbol]? second.arrays[symbol]?

theorem Fields.Alike.refl (fields : Fields) : fields.Alike fields := by
  intro name
  cases fields[name]? with
  | none => exact .none
  | some field => exact .some rfl

theorem Fields.Alike.insert {first second : Fields} (alike : first.Alike second) {name : String}
    {field other : Field} (same : field.decode name = other.decode name) :
    Fields.Alike (first.insert name field) (second.insert name other) := by
  intro key
  rw [Std.ExtTreeMap.getElem?_insert, Std.ExtTreeMap.getElem?_insert]
  split
  · rename_i here
    obtain rfl := Std.LawfulEqCmp.eq_of_compare here
    exact .some same
  · exact alike key

theorem AlikeArrays.singleton {fields others : Fields} (alike : fields.Alike others) :
    AlikeArrays #[fields] #[others] where
  size := rfl
  records
    | 0 => .some alike
    | _ + 1 => .none

theorem AlikeArrays.refl (elements : Array Fields) : AlikeArrays elements elements where
  size := rfl
  records index := by
    cases elements[index]? with
    | none => exact .none
    | some fields => exact .some (.refl fields)

theorem Snapshot.Alike.refl (snapshot : Snapshot) : Snapshot.Alike snapshot snapshot where
  scalars := rfl
  arrays symbol := by
    cases snapshot.arrays[symbol]? with
    | none => exact .none
    | some elements => exact .some (.refl elements)

theorem Snapshot.Alike.withArray {first second : Snapshot} (alike : first.Alike second) {symbol : Symbol}
    {elements others : Array Fields} (same : AlikeArrays elements others) :
    (first.withArray symbol elements).Alike (second.withArray symbol others) where
  scalars := alike.scalars
  arrays key := by
    simp only [Snapshot.withArray, Std.ExtTreeMap.getElem?_insert]
    split
    · exact .some same
    · exact alike.arrays key

section Elements

variable {symbol : Symbol} {index : Nat} {fields others : Fields} (alike : fields.Alike others)

include alike

theorem Element.get_of_alike (name : String) :
    (Element.mk symbol index fields).get name = (Element.mk symbol index others).get name := by
  have same := alike name
  unfold Element.get
  dsimp only
  generalize fields[name]? = field at same ⊢
  generalize others[name]? = other at same ⊢
  cases same with
  | some decoded => exact decoded
  | none => rfl

theorem Element.getAs_of_alike (kind : IntKind) (name : String) :
    (Element.mk symbol index fields).getAs kind name = (Element.mk symbol index others).getAs kind name := by
  simp only [Element.getAs, Element.get_of_alike alike]

theorem Element.getId_of_alike (name : String) :
    (Element.mk symbol index fields).getId name = (Element.mk symbol index others).getId name := by
  rw [Element.getId, Element.getId, Element.getAs_of_alike alike]

theorem TraceRecord.ofElement_of_alike :
    ofElement ⟨symbol, index, fields⟩ = ofElement ⟨symbol, index, others⟩ := by
  simp only [ofElement, Element.getId_of_alike alike, Element.getTicks, Element.getAs_of_alike alike,
    Element.get_of_alike alike]

theorem TimerTable.Descriptor.ofElement_of_alike :
    ofElement ⟨symbol, index, fields⟩ = ofElement ⟨symbol, index, others⟩ := by
  simp only [ofElement, Element.getTicks, Element.getFlag, Element.getAs_of_alike alike,
    Element.get_of_alike alike]

end Elements

section Captures

variable {first second : Snapshot} (alike : first.Alike second)

include alike

theorem Snapshot.scalar_of_alike (symbol : Symbol) : first.scalar symbol = second.scalar symbol := by
  rw [scalar, scalar, alike.scalars]

/-- Alike captures have alike arrays under a symbol, or none for the same reason. -/
theorem Snapshot.array_of_alike (symbol : Symbol) :
    (∃ elements others, first.array symbol = .ok elements ∧ second.array symbol = .ok others ∧
      AlikeArrays elements others) ∨
    ∃ source, first.array symbol = .error source ∧ second.array symbol = .error source := by
  have same := alike.arrays symbol
  unfold array
  rw [alike.scalars]
  generalize first.arrays[symbol]? = held at same ⊢
  generalize second.arrays[symbol]? = held' at same ⊢
  cases same with
  | some arrays => exact .inl ⟨_, _, rfl, rfl, arrays⟩
  | none =>
    -- Without an array the reason depends on whether there is a scalar, which both captures agree on.
    refine .inr ?_
    by_cases scalar : symbol ∈ second.scalars
    · exact ⟨_, if_pos scalar, if_pos scalar⟩
    · exact ⟨_, if_neg scalar, if_neg scalar⟩

theorem Snapshot.length_of_alike (symbol : Symbol) : first.length symbol = second.length symbol := by
  unfold length
  obtain ⟨elements, others, held, held', arrays⟩ | ⟨source, unheld, unheld'⟩ := array_of_alike alike symbol
  · rw [held, held']
    exact congrArg Except.ok arrays.size
  · rw [unheld, unheld']

/-- What is taken from an element is the same if it is the same for alike records. -/
theorem Snapshot.element_of_alike {α : Type} (symbol : Symbol) (index : Nat)
    {take : Element → Except AccessError α}
    (blind : ∀ fields others : Fields, fields.Alike others →
      take ⟨symbol, index, fields⟩ = take ⟨symbol, index, others⟩) :
    (first.element symbol index).bind take = (second.element symbol index).bind take := by
  unfold element
  obtain ⟨elements, others, held, held', arrays⟩ | ⟨source, unheld, unheld'⟩ := array_of_alike alike symbol
  · rw [held, held']
    have same := arrays.records index
    simp only [bind, Except.bind, arrays.size]
    generalize elements[index]? = record at same ⊢
    generalize others[index]? = record' at same ⊢
    cases same with
    | some records => exact blind _ _ records
    | none => rfl
  · rw [unheld, unheld']

theorem Inspection.elements_of_alike {α : Type} (symbol : Symbol) (take : Element → Except AccessError α)
    (blind : ∀ index, ∀ fields others : Fields, fields.Alike others →
      take ⟨symbol, index, fields⟩ = take ⟨symbol, index, others⟩)
    (count index : Nat) (sofar : Array α) :
    (elements symbol take count index sofar).on first =
      (elements symbol take count index sofar).on second := by
  induction count generalizing index sofar with
  | zero => rfl
  | succ count ih =>
    simp only [elements, on_bind, on_element, Snapshot.element_of_alike alike symbol index (blind index), ih]

theorem Ring.renderSlots_of_alike {σ : Type} {array : Symbol} {command : String} {total : Nat}
    {render : σ → Nat → TraceRecord → String × σ} (slots : List UInt64) (state : σ) (lines : Array String) :
    (renderSlots array command total render slots state lines).on first =
      (renderSlots array command total render slots state lines).on second := by
  induction slots generalizing state lines with
  | nil => rfl
  | cons slot rest ih =>
    have record : recordAt first array slot.toNat = recordAt second array slot.toNat :=
      Snapshot.element_of_alike alike array slot.toNat fun _ _ records =>
        TraceRecord.ofElement_of_alike records
    rw [on_renderSlots_cons, on_renderSlots_cons, record]
    -- The state and the lines handed on are made of the record alone.
    cases recordAt second array slot.toNat with
    | ok record => exact ih _ _
    | error source => rfl

theorem Ring.renderRing_of_alike {σ : Type} {next array : Symbol} {command : String}
    {render : σ → Nat → TraceRecord → String × σ} {start : σ} :
    (renderRing next array command render start).on first =
      (renderRing next array command render start).on second := by
  simp only [on_renderRing, Snapshot.length_of_alike alike, Snapshot.scalar_of_alike alike,
    renderSlots_of_alike alike]

theorem TaskTrace.inspect_of_alike (config : Config) :
    (inspect config).on first = (inspect config).on second := by
  simp only [inspect, readTags, Inspection.on_bind, Inspection.on_scalar, Inspection.on_pure,
    Snapshot.scalar_of_alike alike, Ring.renderRing_of_alike alike]

theorem TimerTrace.inspect_of_alike (config : Config) :
    (inspect config).on first = (inspect config).on second := by
  simp only [inspect, readTags, Inspection.on_bind, Inspection.on_scalar, Inspection.on_pure,
    Snapshot.scalar_of_alike alike, Ring.renderRing_of_alike alike]

theorem ReadyQueue.inspect_of_alike (config : Config) :
    (inspect config).on first = (inspect config).on second := by
  have links := Inspection.elements_of_alike alike config.symbols.scheduler.queueNext (·.getId "value")
    fun _ _ _ records => Element.getId_of_alike records "value"
  simp only [inspect, Inspection.on_bind, Inspection.on_scalarAs, Inspection.on_scalarId,
    Inspection.on_length, Inspection.on_log, Snapshot.scalarAs, Snapshot.scalar_of_alike alike,
    Snapshot.length_of_alike alike, links, on_report]

theorem TimerTable.inspect_of_alike (config : Config) :
    (inspect config).on first = (inspect config).on second := by
  have timers := Inspection.elements_of_alike alike config.symbols.timers.descriptors Descriptor.ofElement
    fun _ _ _ records => Descriptor.ofElement_of_alike records
  simp only [inspect, Inspection.on_bind, Inspection.on_scalarId, Inspection.on_length, Inspection.on_log,
    Inspection.on_ite, Inspection.on_throw, on_dump, Snapshot.scalarAs,
    Snapshot.scalar_of_alike alike, Snapshot.length_of_alike alike, timers]

end Captures

/-- Commands take no notice of the forms in which a capture holds its numbers: captures that are alike have
the same outcome, be it lines or an error. -/
theorem standard_result_of_alike (config : Config) {first second : Snapshot} (alike : first.Alike second)
    {command : Command} (standard : command ∈ Command.standard config) :
    command.inspection.run.result Snapshot.target first =
      command.inspection.run.result Snapshot.target second := by
  change command.inspection.on first = command.inspection.on second
  simp only [Command.standard, List.mem_cons, List.not_mem_nil, or_false] at standard
  obtain rfl | rfl | rfl | rfl := standard
  · exact TaskTrace.inspect_of_alike alike config
  · exact ReadyQueue.inspect_of_alike alike config
  · exact TimerTrace.inspect_of_alike alike config
  · exact TimerTable.inspect_of_alike alike config

def plainTimer : Fields :=
  .ofNumbers [("t0", 258), ("dt", 1000), ("fired_max_us", 77), ("isoneshot", 0), ("isrunning", 1)]

def mixedTimer : Fields :=
  (Fields.ofNumbers [("t0", 258)])
    |>.insert "dt" (.raw [0xe8, 3, 0, 0] false .little)
    |>.insert "fired_max_us" (.raw [0, 77] true .big)
    |>.insert "isoneshot" (.raw [0] true .little)
    |>.insert "isrunning" (.bool true)

def oneTimer (timer : Fields) : Snapshot :=
  (Snapshot.empty.withScalar "count" 1).withArray "timers" #[timer]

theorem standard_result_of_alike_mixed :
    let config : Config := { symbols := { timers := { numTimers := "count", descriptors := "timers" } } }
    let result := (Command.timerDump config).inspection.run.result Snapshot.target
    (oneTimer plainTimer).Alike (oneTimer mixedTimer) ∧
      result (oneTimer plainTimer) = result (oneTimer mixedTimer) ∧
      result (oneTimer mixedTimer) =
        .ok [TimerTable.heading, "   0    oR       102       3e8        4d  t0"] := by
  intro config result
  have timers : plainTimer.Alike mixedTimer := by
    refine .insert (.insert (.insert (.insert (.refl (.ofNumbers [("t0", 258)])) ?_) ?_) ?_) ?_
    all_goals decide +kernel
  have alike : (oneTimer plainTimer).Alike (oneTimer mixedTimer) :=
    (Snapshot.Alike.refl _).withArray (.singleton timers)
  have standard : Command.timerDump config ∈ Command.standard config := by simp [Command.standard]
  exact ⟨alike, standard_result_of_alike config alike standard, by decide +kernel⟩

end SchedProbe
