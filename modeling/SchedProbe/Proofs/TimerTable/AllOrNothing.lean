import Mathlib.Control.Monad.Basic
import SchedProbe.Command
import SchedProbe.Proofs.Target.Capture
import SchedProbe.Proofs.TimerTable.Rows

/-! The timer table of a capture is shown whole or not at all. What stands in the way of it is one fault, the first
in the order in which the table is read: its count, its array, then its elements field by field. -/

set_option autoImplicit false

namespace SchedProbe

namespace Element

variable {element : Element} {name : String}

def Reads (element : Element) (name : String) (value : Int64) : Prop :=
  ∃ field, element.fields[name]? = some field ∧ field.decode name = .ok value

inductive Unread (element : Element) (name : String) : AccessError → Prop where
  | missing (absent : element.fields[name]? = none) :
      Unread element name (.missingField element.symbol element.index name)
  | undecoded {field : Field} {source : AccessError} (held : element.fields[name]? = some field)
      (failed : field.decode name = .error source) : Unread element name source

theorem get_of_reads {value : Int64} (read : element.Reads name value) : element.get name = .ok value := by
  obtain ⟨field, held, decoded⟩ := read
  rw [get, held]
  exact decoded

theorem get_of_unread {source : AccessError} (unread : element.Unread name source) :
    element.get name = .error source := by
  rw [get]
  cases unread with
  | missing absent => rw [absent]
  | undecoded held failed =>
    rw [held]
    exact failed

theorem reads_or_unread (element : Element) (name : String) :
    (∃ value, element.Reads name value) ∨ ∃ source, element.Unread name source := by
  cases held : element.fields[name]? with
  | none => exact .inr ⟨_, .missing held⟩
  | some field =>
    cases decoded : field.decode name with
    | error source => exact .inr ⟨source, .undecoded held decoded⟩
    | ok value => exact .inl ⟨value, field, held, decoded⟩

end Element

namespace TimerTable

/-! ## One element -/

/-- The fields of a descriptor in the order in which they are read, with the kind of integer that a number must
be of. A flag may be any number. -/
def columns : List (String × Option IntKind) :=
  [("t0", some .u32), ("dt", some .u32), ("fired_max_us", some .u32), ("isoneshot", none), ("isrunning", none)]

section Fields

variable {element : Element} {name : String} {column : String × Option IntKind} {source : AccessError}

def Sound (element : Element) (column : String × Option IntKind) : Prop :=
  ∃ value, element.Reads column.1 value ∧ ∀ kind ∈ column.2, kind.Holds value.toInt

inductive FieldFault (element : Element) : String × Option IntKind → AccessError → Prop where
  | unread {name : String} {kind : Option IntKind} {source : AccessError} (unread : element.Unread name source) :
      FieldFault element (name, kind) source
  | unfit {name : String} {kind : IntKind} {value : Int64}
      (read : element.Reads name value) (beyond : ¬ kind.Holds value.toInt) :
      FieldFault element (name, some kind)
        (.valueOutOfRange (elementName element.symbol element.index ++ "." ++ name) value kind)

/-- The first field at fault: those before it are sound. -/
inductive RowFault (element : Element) : List (String × Option IntKind) → AccessError → Prop where
  | here {column : String × Option IntKind} {rest : List (String × Option IntKind)} {source : AccessError}
      (fault : FieldFault element column source) : RowFault element (column :: rest) source
  | behind {column : String × Option IntKind} {rest : List (String × Option IntKind)} {source : AccessError}
      (sound : Sound element column) (fault : RowFault element rest source) :
      RowFault element (column :: rest) source

theorem sound_or_fieldFault (element : Element) (column : String × Option IntKind) :
    Sound element column ∨ ∃ source, FieldFault element column source := by
  obtain ⟨name, kind⟩ := column
  obtain ⟨value, read⟩ | ⟨source, unread⟩ := element.reads_or_unread name
  · cases kind with
    | none => exact .inl ⟨value, read, fun _ member => absurd member (Option.not_mem_none _)⟩
    | some kind =>
      by_cases holds : kind.Holds value.toInt
      · refine .inl ⟨value, read, ?_⟩
        rintro _ ⟨rfl⟩
        exact holds
      · exact .inr ⟨_, .unfit read holds⟩
  · exact .inr ⟨source, .unread unread⟩

theorem sound_or_rowFault (element : Element) (columns : List (String × Option IntKind)) :
    (∀ column ∈ columns, Sound element column) ∨ ∃ source, RowFault element columns source := by
  induction columns with
  | nil => exact .inl fun _ member => absurd member List.not_mem_nil
  | cons column rest ih =>
    obtain sound | ⟨source, fault⟩ := sound_or_fieldFault element column
    · obtain all | ⟨source, fault⟩ := ih
      · exact .inl (List.forall_mem_cons.2 ⟨sound, all⟩)
      · exact .inr ⟨source, .behind sound fault⟩
    · exact .inr ⟨source, .here fault⟩

theorem getTicks_of_reads {value : Int64} {word : UInt32} (read : element.Reads name value)
    (same : value.toInt = word.toNat) : element.getTicks name = .ok word := by
  have below := word.toNat_lt
  have holds : IntKind.u32.Holds value.toInt := by
    rw [same]
    exact ⟨Int.natCast_nonneg _, by change (word.toNat : Int) ≤ 4294967295; omega⟩
  rw [Element.getTicks, Element.getAs, Element.get_of_reads read]
  change (narrow _ _ value).map _ = _
  rw [narrow, if_pos holds, same]
  exact congrArg Except.ok (UInt32.ofNat_toNat)

theorem exists_word (sound : Sound element (name, some .u32)) :
    ∃ (value : Int64) (word : UInt32), element.Reads name value ∧ value.toInt = word.toNat := by
  obtain ⟨value, read, holds⟩ := sound
  obtain ⟨least, greatest⟩ := holds _ rfl
  refine ⟨value, UInt32.ofNat value.toInt.toNat, read, ?_⟩
  change 0 ≤ value.toInt at least
  change value.toInt ≤ 4294967295 at greatest
  rw [UInt32.toNat_ofNat_of_lt' (by rw [UInt32.size]; omega), Int.toNat_of_nonneg least]

theorem getFlag_of_reads {value : Int64} {flag : Bool} (read : element.Reads name value)
    (set : flag = true ↔ value ≠ 0) : element.getFlag name = .ok flag := by
  rw [Element.getFlag, Element.get_of_reads read]
  refine congrArg Except.ok ?_
  rw [← Bool.decide_coe flag]
  exact decide_eq_decide.2 set.symm

theorem getTicks_of_fieldFault (fault : FieldFault element (name, some .u32) source) :
    element.getTicks name = .error source := by
  rw [Element.getTicks, Element.getAs]
  cases fault with
  | unread unread =>
    rw [Element.get_of_unread unread]
    rfl
  | unfit read beyond =>
    rw [Element.get_of_reads read]
    change (narrow _ _ _).map _ = _
    rw [narrow, if_neg beyond]
    rfl

theorem getFlag_of_fieldFault (fault : FieldFault element (name, none) source) :
    element.getFlag name = .error source := by
  cases fault with
  | unread unread =>
    rw [Element.getFlag, Element.get_of_unread unread]
    rfl

structure ReadsColumn {α : Type} (element : Element) (column : String × Option IntKind)
    (read : Except AccessError α) : Prop where
  fault : ∀ {source}, FieldFault element column source → read = .error source
  sound : Sound element column → ∃ value, read = .ok value

theorem readsColumn_getTicks (name : String) : ReadsColumn element (name, some .u32) (element.getTicks name) where
  fault := getTicks_of_fieldFault
  sound sound := by
    obtain ⟨value, word, read, same⟩ := exists_word sound
    exact ⟨word, getTicks_of_reads read same⟩

theorem readsColumn_getFlag (name : String) : ReadsColumn element (name, none) (element.getFlag name) where
  fault := getFlag_of_fieldFault
  sound sound := by
    obtain ⟨value, read, -⟩ := sound
    exact ⟨_, getFlag_of_reads read decide_eq_true_iff⟩

/-- Fields read one after the other fail by the first fault among them. -/
theorem bind_of_rowFault {α β : Type} {read : Except AccessError α} {next : α → Except AccessError β}
    {rest : List (String × Option IntKind)} (reads : ReadsColumn element column read)
    (behind : ∀ value, RowFault element rest source → next value = .error source)
    (fault : RowFault element (column :: rest) source) : (read >>= next) = .error source := by
  cases fault with
  | here fault =>
    rw [reads.fault fault]
    rfl
  | behind sound fault =>
    obtain ⟨value, read⟩ := reads.sound sound
    rw [read]
    exact behind value fault

end Fields

/-- The fields of an element denote the state of a timer; a flag is set when its number is not zero. -/
structure Descriptor.Shows (timer : Descriptor) (element : Element) : Prop where
  t0 : ∃ value, element.Reads "t0" value ∧ value.toInt = timer.t0.toNat
  dt : ∃ value, element.Reads "dt" value ∧ value.toInt = timer.dt.toNat
  firedMax : ∃ value, element.Reads "fired_max_us" value ∧ value.toInt = timer.firedMax.toNat
  oneshot : ∃ value, element.Reads "isoneshot" value ∧ (timer.oneshot = true ↔ value ≠ 0)
  running : ∃ value, element.Reads "isrunning" value ∧ (timer.running = true ↔ value ≠ 0)

section Elements

variable {element : Element} {timer : Descriptor} {source : AccessError}

theorem exists_shows (sound : ∀ column ∈ columns, Sound element column) :
    ∃ timer : Descriptor, timer.Shows element := by
  simp only [columns, List.forall_mem_cons] at sound
  obtain ⟨t0, dt, firedMax, ⟨oneshot, readOneshot, -⟩, ⟨running, readRunning, -⟩, -⟩ := sound
  obtain ⟨t0, t0Word, readT0, sameT0⟩ := exists_word t0
  obtain ⟨dt, dtWord, readDt, sameDt⟩ := exists_word dt
  obtain ⟨firedMax, firedMaxWord, readFiredMax, sameFiredMax⟩ := exists_word firedMax
  refine ⟨⟨t0Word, dtWord, firedMaxWord, decide (oneshot ≠ 0), decide (running ≠ 0)⟩, ⟨t0, readT0, sameT0⟩,
    ⟨dt, readDt, sameDt⟩, ⟨firedMax, readFiredMax, sameFiredMax⟩, ⟨oneshot, readOneshot, ?_⟩,
    ⟨running, readRunning, ?_⟩⟩
  · exact decide_eq_true_iff
  · exact decide_eq_true_iff

theorem ofElement_of_shows (shown : timer.Shows element) : Descriptor.ofElement element = .ok timer := by
  obtain ⟨⟨_, readT0, t0⟩, ⟨_, readDt, dt⟩, ⟨_, readFiredMax, firedMax⟩, ⟨_, readOneshot, oneshot⟩,
    ⟨_, readRunning, running⟩⟩ := shown
  rw [Descriptor.ofElement, getTicks_of_reads readT0 t0, getTicks_of_reads readDt dt,
    getTicks_of_reads readFiredMax firedMax, getFlag_of_reads readOneshot oneshot,
    getFlag_of_reads readRunning running]
  rfl

theorem ofElement_of_rowFault (fault : RowFault element columns source) :
    Descriptor.ofElement element = .error source := by
  unfold columns at fault
  refine bind_of_rowFault (readsColumn_getTicks "t0") (fun _ => ?_) fault
  refine bind_of_rowFault (readsColumn_getTicks "dt") fun _ => ?_
  refine bind_of_rowFault (readsColumn_getTicks "fired_max_us") fun _ => ?_
  refine bind_of_rowFault (readsColumn_getFlag "isoneshot") fun _ => ?_
  refine bind_of_rowFault (readsColumn_getFlag "isrunning") fun _ fault => ?_
  cases fault

end Elements

/-! ## The table -/

/-- The number of timers, as it is captured: none that has no id for its last timer. -/
def Counted (snapshot : Snapshot) (symbols : TimerSymbols) (count : Nat) : Prop :=
  ∃ value, snapshot.scalars[symbols.numTimers]? = some value ∧ value.toInt = count ∧ count ≤ 65535

def ShowAll (symbol : Symbol) (elements : Array Fields) (timers : List Descriptor) : Prop :=
  ∀ index (inside : index < timers.length), ∃ fields, elements[index]? = some fields ∧
    timers[index].Shows ⟨symbol, index, fields⟩

/-- A capture holds a table of timers: as many as it counts, at the beginning of an array. -/
structure Table (snapshot : Snapshot) (symbols : TimerSymbols) (timers : List Descriptor) : Prop where
  counted : Counted snapshot symbols timers.length
  held : ∃ elements, snapshot.arrays[symbols.descriptors]? = some elements ∧
    timers.length ≤ elements.size ∧ ShowAll symbols.descriptors elements timers

/-- What stands first in the way of a table of timers. -/
inductive FirstFault (snapshot : Snapshot) (symbols : TimerSymbols) : AccessError → Prop where
  | uncounted (absent : snapshot.scalars[symbols.numTimers]? = none) :
      FirstFault snapshot symbols (.unknownSymbol symbols.numTimers)
  | miscounted {value : Int64} (held : snapshot.scalars[symbols.numTimers]? = some value)
      (beyond : ¬ (0 ≤ value.toInt ∧ value.toInt ≤ 65535)) :
      FirstFault snapshot symbols (.valueOutOfRange symbols.numTimers value .u16)
  | unknown {count : Nat} (counted : Counted snapshot symbols count)
      (absent : snapshot.arrays[symbols.descriptors]? = none) (noScalar : symbols.descriptors ∉ snapshot.scalars) :
      FirstFault snapshot symbols (.unknownSymbol symbols.descriptors)
  | noArray {count : Nat} (counted : Counted snapshot symbols count)
      (absent : snapshot.arrays[symbols.descriptors]? = none) (scalar : symbols.descriptors ∈ snapshot.scalars) :
      FirstFault snapshot symbols (.notAnArray symbols.descriptors)
  | short {count : Nat} {elements : Array Fields} (counted : Counted snapshot symbols count)
      (held : snapshot.arrays[symbols.descriptors]? = some elements) (short : elements.size < count) :
      FirstFault snapshot symbols
        (.countExceedsArray symbols.numTimers count symbols.descriptors elements.size)
  | row {count : Nat} {elements : Array Fields} {timers : List Descriptor} {fields : Fields} {source : AccessError}
      (counted : Counted snapshot symbols count)
      (held : snapshot.arrays[symbols.descriptors]? = some elements) (enough : count ≤ elements.size)
      (before : ShowAll symbols.descriptors elements timers) (inside : timers.length < count)
      (next : elements[timers.length]? = some fields)
      (fault : RowFault ⟨symbols.descriptors, timers.length, fields⟩ columns source) :
      FirstFault snapshot symbols source

section Captured

open Inspection

variable {snapshot : Snapshot} {symbols : TimerSymbols} {symbol : Symbol} {elements : Array Fields}
  {timers : List Descriptor} {count : Nat}

theorem ShowAll.nil : ShowAll symbol elements [] :=
  fun index inside => absurd inside (Nat.not_lt_zero index)

theorem ShowAll.concat (before : ShowAll symbol elements timers) {fields : Fields} {timer : Descriptor}
    (next : elements[timers.length]? = some fields) (shown : timer.Shows ⟨symbol, timers.length, fields⟩) :
    ShowAll symbol elements (timers ++ [timer]) := by
  intro index inside
  rw [List.length_append, List.length_singleton] at inside
  obtain earlier | rfl : index < timers.length ∨ index = timers.length := by omega
  · obtain ⟨fields, held, shown⟩ := before index earlier
    exact ⟨fields, held, by rwa [List.getElem_append_left earlier]⟩
  · exact ⟨fields, next, by rwa [List.getElem_concat_length rfl]⟩

/-- By induction on the number of elements: all of them show timers, or the first that does not has a fault. -/
theorem showAll_or_rowFault (symbol : Symbol) (elements : Array Fields) (enough : count ≤ elements.size) :
    ∃ timers, ShowAll symbol elements timers ∧ (timers.length = count ∨
      timers.length < count ∧ ∃ fields source, elements[timers.length]? = some fields ∧
        RowFault ⟨symbol, timers.length, fields⟩ columns source) := by
  induction count with
  | zero => exact ⟨[], .nil, .inl rfl⟩
  | succ count ih =>
    obtain ⟨timers, before, rfl | ⟨inside, fault⟩⟩ := ih (Nat.le_of_succ_le enough)
    · have next : elements[timers.length]? = some elements[timers.length] := Array.getElem?_eq_getElem enough
      obtain sound | ⟨source, fault⟩ := sound_or_rowFault ⟨symbol, timers.length, elements[timers.length]⟩ columns
      · obtain ⟨timer, shown⟩ := exists_shows sound
        exact ⟨timers ++ [timer], before.concat next shown, .inl (by simp)⟩
      · exact ⟨timers, before, .inr ⟨Nat.lt_succ_self _, _, source, next, fault⟩⟩
    · exact ⟨timers, before, .inr ⟨Nat.lt_succ_of_lt inside, fault⟩⟩

theorem table_or_fault (snapshot : Snapshot) (symbols : TimerSymbols) :
    (∃ timers, Table snapshot symbols timers) ∨ ∃ source, FirstFault snapshot symbols source := by
  cases scalar : snapshot.scalars[symbols.numTimers]? with
  | none => exact .inr ⟨_, .uncounted scalar⟩
  | some value =>
    by_cases range : 0 ≤ value.toInt ∧ value.toInt ≤ 65535
    · have counted : Counted snapshot symbols value.toInt.toNat := ⟨value, scalar, by omega, by omega⟩
      cases array : snapshot.arrays[symbols.descriptors]? with
      | none =>
        by_cases known : symbols.descriptors ∈ snapshot.scalars
        · exact .inr ⟨_, .noArray counted array known⟩
        · exact .inr ⟨_, .unknown counted array known⟩
      | some elements =>
        by_cases enough : value.toInt.toNat ≤ elements.size
        · obtain ⟨timers, before, all | ⟨inside, fields, source, next, fault⟩⟩ :=
            showAll_or_rowFault symbols.descriptors elements enough
          · rw [← all] at counted enough
            exact .inl ⟨timers, counted, elements, array, enough, before⟩
          · exact .inr ⟨source, .row counted array enough before inside next fault⟩
        · exact .inr ⟨_, .short counted array (Nat.lt_of_not_le enough)⟩
    · exact .inr ⟨_, .miscounted scalar range⟩

/-! ## Reading the table -/

theorem on_scalarId_of_counted (counted : Counted snapshot symbols count) :
    (scalarId symbols.numTimers).on snapshot = .ok (UInt16.ofNat count) ∧ (UInt16.ofNat count).toNat = count := by
  obtain ⟨value, held, same, most⟩ := counted
  have holds : IntKind.u16.Holds value.toInt := by
    rw [same]
    exact ⟨Int.natCast_nonneg _, by change (count : Int) ≤ 65535; omega⟩
  refine ⟨?_, UInt16.toNat_ofNat_of_lt' (Nat.lt_succ_of_le most)⟩
  rw [on_scalarId, Snapshot.scalarAs, Snapshot.scalar, held]
  change ((narrow _ _ value).mapError _).map _ = _
  rw [narrow, if_pos holds, same]
  rfl

theorem on_length_of_held (held : snapshot.arrays[symbol]? = some elements) :
    (length symbol).on snapshot = .ok elements.size := by
  rw [on_length, Snapshot.length, Snapshot.array, held]
  rfl

theorem element_of_held (held : snapshot.arrays[symbol]? = some elements) {index : Nat} {fields : Fields}
    (next : elements[index]? = some fields) : snapshot.element symbol index = .ok ⟨symbol, index, fields⟩ := by
  rw [Snapshot.element, Snapshot.array, held]
  dsimp only [bind, Except.bind]
  rw [next]
  rfl

theorem ShowAll.gives (before : ShowAll symbol elements timers) (held : snapshot.arrays[symbol]? = some elements) :
    snapshot.Gives symbol Descriptor.ofElement timers.toArray := by
  intro index inside
  obtain ⟨fields, next, shown⟩ := before index inside
  rw [element_of_held held next]
  exact ofElement_of_shows shown

def afterCount (config : Config) (snapshot : Snapshot) (count : Nat) : Except Failure (List String) := do
  let symbols := config.symbols.timers
  let size ← (length symbols.descriptors).on snapshot
  if size < count then
    .error (.access (.countExceedsArray symbols.numTimers count symbols.descriptors size))
  else
    let timers ← (Inspection.elements symbols.descriptors Descriptor.ofElement count 0 #[]).on snapshot
    return lines config.timers timers.toList

theorem on_inspect (config : Config) (snapshot : Snapshot) : (inspect config).on snapshot =
    (scalarId config.symbols.timers.numTimers).on snapshot >>= fun count =>
      afterCount config snapshot count.toNat := by
  simp only [inspect, afterCount, on_bind]
  refine congrArg (_ >>= ·) (funext fun count => congrArg (_ >>= ·) (funext fun size => ?_))
  split
  next short => rfl
  next enough => simp only [on_bind, on_dump]; rfl

variable {config : Config}

theorem on_inspect_of_counted (counted : Counted snapshot config.symbols.timers count) :
    (inspect config).on snapshot = afterCount config snapshot count := by
  obtain ⟨read, same⟩ := on_scalarId_of_counted counted
  rw [on_inspect, read]
  exact congrArg (afterCount config snapshot) same

theorem afterCount_of_held (held : snapshot.arrays[config.symbols.timers.descriptors]? = some elements)
    (enough : count ≤ elements.size) : afterCount config snapshot count =
      (Inspection.elements config.symbols.timers.descriptors Descriptor.ofElement count 0 #[]).on snapshot >>=
        fun timers => .ok (lines config.timers timers.toList) := by
  rw [afterCount, on_length_of_held held]
  exact if_neg (Nat.not_lt.2 enough)

theorem on_inspect_of_table (table : Table snapshot config.symbols.timers timers) :
    (inspect config).on snapshot = .ok (lines config.timers timers) := by
  obtain ⟨counted, elements, held, enough, before⟩ := table
  have all := on_elements (before.gives held)
  rw [List.size_toArray] at all
  rw [on_inspect_of_counted counted, afterCount_of_held held enough, all]
  rfl

theorem on_inspect_of_fault {source : AccessError} (fault : FirstFault snapshot config.symbols.timers source) :
    (inspect config).on snapshot = .error (.access source) := by
  cases fault with
  | uncounted absent =>
    rw [on_inspect, on_scalarId, Snapshot.scalarAs, Snapshot.scalar, absent]
    rfl
  | @miscounted value held beyond =>
    have refused : narrow .u16 config.symbols.timers.numTimers value = .error _ := if_neg beyond
    rw [on_inspect, on_scalarId, Snapshot.scalarAs, Snapshot.scalar, held]
    change ((narrow _ _ value).mapError _).map _ >>= _ = _
    rw [refused]
    rfl
  | unknown counted absent noScalar =>
    rw [on_inspect_of_counted counted, afterCount, on_length, Snapshot.length, Snapshot.array, absent]
    dsimp only
    rw [if_neg noScalar]
    rfl
  | noArray counted absent scalar =>
    rw [on_inspect_of_counted counted, afterCount, on_length, Snapshot.length, Snapshot.array, absent]
    dsimp only
    rw [if_pos scalar]
    rfl
  | short counted held short =>
    rw [on_inspect_of_counted counted, afterCount, on_length_of_held held]
    exact if_pos short
  | @row count elements timers fields source counted held enough before inside next fault =>
    have gives := before.gives held
    have unread : (snapshot.element config.symbols.timers.descriptors timers.length).bind Descriptor.ofElement =
        .error source := by
      rw [element_of_held held next]
      exact ofElement_of_rowFault fault
    rw [on_inspect_of_counted counted, afterCount_of_held held enough,
      on_elements_of_unread inside (fun index earlier => ⟨_, gives index earlier⟩) unread]
    rfl

-- Either way the elements read are the same, all of them or those up to the one at fault.
theorem on_inspect_withArray {others : Array Fields} (counted : Counted snapshot config.symbols.timers count)
    (held : snapshot.arrays[config.symbols.timers.descriptors]? = some elements)
    (enough : count ≤ elements.size) (enough' : count ≤ others.size)
    (same : ∀ index < count, others[index]? = elements[index]?) :
    (inspect config).on (snapshot.withArray config.symbols.timers.descriptors others) =
      (inspect config).on snapshot := by
  have held' : (snapshot.withArray config.symbols.timers.descriptors others).arrays[
      config.symbols.timers.descriptors]? = some others := by
    rw [Snapshot.withArray, Std.ExtTreeMap.getElem?_insert_self]
  have counted' : Counted (snapshot.withArray config.symbols.timers.descriptors others) config.symbols.timers
    count := counted
  obtain ⟨timers, before, all⟩ := showAll_or_rowFault config.symbols.timers.descriptors elements enough
  have inside : timers.length ≤ count := by omega
  have before' : ShowAll config.symbols.timers.descriptors others timers := by
    intro index earlier
    obtain ⟨fields, next, shown⟩ := before index earlier
    exact ⟨fields, (same index (Nat.lt_of_lt_of_le earlier inside)).trans next, shown⟩
  obtain rfl | ⟨inside, fields, source, next, fault⟩ := all
  · rw [on_inspect_of_table ⟨counted, elements, held, enough, before⟩,
      on_inspect_of_table ⟨counted', others, held', enough', before'⟩]
  · rw [on_inspect_of_fault (.row counted held enough before inside next fault),
      on_inspect_of_fault (.row counted' held' enough' before' inside ((same _ inside).trans next) fault)]

end Captured

/-- The timer table of a capture is shown exactly if it is there: then its lines are the heading and the row of each
timer counted. Otherwise the command fails by what stands first in the way of the table, and has no lines. What the
array holds behind the timers counted makes no difference. -/
theorem timerDump_allOrNothing (config : Config) (snapshot : Snapshot) :
    let inspection := (Command.timerDump config).inspection
    let symbols := config.symbols.timers
    (∀ shown, inspection.run.result Snapshot.target snapshot = .ok shown ↔
        ∃ timers, Table snapshot symbols timers ∧ shown.length = timers.length + 1 ∧ shown[0]? = some heading ∧
          ∀ index (inside : index < timers.length),
            shown[index + 1]? = some (row config.timers (UInt16.ofNat index) timers[index])) ∧
      (∀ failure, inspection.run.result Snapshot.target snapshot = .error failure ↔
        ∃ source, FirstFault snapshot symbols source ∧ failure = .access source) ∧
      (∀ failure, inspection.run.result Snapshot.target snapshot = .error failure → failure.partialLines = []) ∧
      ∀ (count : Nat) (elements others : Array Fields), Counted snapshot symbols count →
        snapshot.arrays[symbols.descriptors]? = some elements → count ≤ elements.size → count ≤ others.size →
        (∀ index < count, others[index]? = elements[index]?) →
        inspection.run.result Snapshot.target (snapshot.withArray symbols.descriptors others) =
          inspection.run.result Snapshot.target snapshot := by
  intro inspection symbols
  have known : ∀ {timers}, Table snapshot symbols timers → timers.length ≤ 65536 := by
    rintro timers ⟨⟨_, -, -, most⟩, -⟩
    omega
  have table_ok : ∀ {timers}, Table snapshot symbols timers →
      inspection.run.result Snapshot.target snapshot = .ok (lines config.timers timers) := on_inspect_of_table
  have fault_error : ∀ {source}, FirstFault snapshot symbols source →
      inspection.run.result Snapshot.target snapshot = .error (.access source) := on_inspect_of_fault
  have fault_of_error : ∀ failure, inspection.run.result Snapshot.target snapshot = .error failure →
      ∃ source, FirstFault snapshot symbols source ∧ failure = .access source := by
    intro failure failed
    obtain ⟨timers, table⟩ | ⟨source, fault⟩ := table_or_fault snapshot symbols
    · cases (table_ok table).symm.trans failed
    · exact ⟨source, fault, (Except.error.inj ((fault_error fault).symm.trans failed)).symm⟩
  refine ⟨fun shown => ⟨fun succeeded => ?_, ?_⟩, fun failure => ⟨fault_of_error failure, ?_⟩,
    fun failure failed => ?_, fun count elements others counted held enough enough' same =>
      on_inspect_withArray counted held enough enough' same⟩
  · obtain ⟨timers, table⟩ | ⟨source, fault⟩ := table_or_fault snapshot symbols
    · have same := Except.ok.inj (succeeded.symm.trans (table_ok table))
      exact ⟨timers, table, (eq_lines_iff _ _ (known table)).1 same⟩
    · cases (fault_error fault).symm.trans succeeded
  · rintro ⟨timers, table, displayed⟩
    rw [(eq_lines_iff config.timers timers (known table)).2 displayed]
    exact table_ok table
  · rintro ⟨source, fault, rfl⟩
    exact fault_error fault
  · obtain ⟨source, -, rfl⟩ := fault_of_error failure failed
    rfl

def mixedFields : Fields :=
  (Fields.ofNumbers [("t0", 4096), ("fired_max_us", 17), ("isoneshot", -1)])
    |>.insert "dt" (.raw [2, 0] false .big)
    |>.insert "isrunning" (.bool false)

def brokenFields : Fields :=
  (Fields.ofNumbers [("t0", 0)]).insert "dt" (.raw [1, 2, 3] false .little)

def mixedTable (count : Int64) (elements : Array Fields) : Snapshot :=
  (Snapshot.empty.withScalar "n" count).withArray "d" elements

theorem timerDump_allOrNothing_mixed :
    let symbols : TimerSymbols := { numTimers := "n", descriptors := "d" }
    let result := (Command.timerDump { symbols := { timers := symbols } }).inspection.run.result Snapshot.target
    let both := #[mixedFields, brokenFields]
    let shown := [heading, "   0    Or      1000       200        11  t0"]
    result (mixedTable 1 both) = .ok shown ∧ (∃ timers, Table (mixedTable 1 both) symbols timers) ∧
      result ((mixedTable 1 both).withArray "d" #[mixedFields]) = .ok shown ∧
      result (mixedTable 2 both) = .error (.access (.badWidth "dt" 3)) ∧
      FirstFault (mixedTable 2 both) symbols (.badWidth "dt" 3) ∧
      (Failure.access (.badWidth "dt" 3)).partialLines = [] := by
  intro symbols result both shown
  have whole : result (mixedTable 1 both) = .ok shown := by decide +kernel
  have failed : result (mixedTable 2 both) = .error (.access (.badWidth "dt" 3)) := by decide +kernel
  have counted : Counted (mixedTable 1 both) symbols 1 := ⟨1, by decide +kernel, by decide, by decide⟩
  have held : (mixedTable 1 both).arrays["d"]? = some both := by decide +kernel
  have same : ∀ index < 1, #[mixedFields][index]? = both[index]? := by decide +kernel
  obtain ⟨shows, -, -, apart⟩ := timerDump_allOrNothing { symbols := { timers := symbols } } (mixedTable 1 both)
  obtain ⟨-, faults, bare, -⟩ := timerDump_allOrNothing { symbols := { timers := symbols } } (mixedTable 2 both)
  obtain ⟨timers, table, -⟩ := (shows shown).1 whole
  obtain ⟨_, fault, ⟨rfl⟩⟩ := (faults _).1 failed
  have shorter := apart 1 both #[mixedFields] counted held (by decide) (by decide) same
  exact ⟨whole, ⟨timers, table⟩, shorter.trans whole, failed, fault, bare _ failed⟩

end TimerTable

end SchedProbe
