import Mathlib.Control.Monad.Basic
import SchedProbe.Proofs.Snapshot.Updates
import SchedProbe.Snapshot.Edit

/-! What updates do to the answers of a capture. Each gives the answers to reads of what it names and leaves
the others, errors included, but for one: a symbol that was unknown and is made a scalar's is from then on no
array. So the answers behind any updates follow from the updates and the answers before them. -/

set_option autoImplicit false

namespace SchedProbe

/-- What a capture answers to its reads: to those of scalars, of the lengths of arrays, and of the numbers in
the fields of their elements. -/
structure Answers where
  scalar : Symbol → Except AccessError Int64
  length : Symbol → Except AccessError Nat
  field : Symbol → Nat → String → Except AccessError Int64

namespace Answers

def holds (answers : Answers) (symbol : Symbol) (index : Nat) : Bool :=
  match answers.length symbol with
  | .ok size => index < size
  | .error _ => false

/-- An answer about the array of a symbol that is now a scalar's: it need not be an array, but is known. -/
def known {α : Type} (symbol : Symbol) : Except AccessError α → Except AccessError α
  | .error (.unknownSymbol _) => .error (.notAnArray symbol)
  | answer => answer

def fieldOf (symbol : Symbol) (elements : Array Fields) (index : Nat) (name : String) :
    Except AccessError Int64 :=
  match elements[index]? with
  | some fields => Element.get ⟨symbol, index, fields⟩ name
  | none => .error (.indexOutOfRange symbol index elements.size)

/-- The number in a field where an element is one number, in the field `value`. -/
def valueOf (symbol : Symbol) (values : List Int64) (index : Nat) (name : String) :
    Except AccessError Int64 :=
  match values[index]? with
  | some value => if "value" = name then .ok value else .error (.missingField symbol index name)
  | none => .error (.indexOutOfRange symbol index values.length)

def withArray (answers : Answers) (symbol : Symbol) (size : Nat)
    (field : Nat → String → Except AccessError Int64) : Answers :=
  { answers with
    length := fun other => if symbol = other then .ok size else answers.length other
    field := fun other index name =>
      if symbol = other then field index name else answers.field other index name }

def after (answers : Answers) : Edit → Answers
  | .setScalar symbol value =>
    { scalar := fun other => if symbol = other then .ok value else answers.scalar other
      length := fun other =>
        if symbol = other then known symbol (answers.length other) else answers.length other
      field := fun other index name =>
        if symbol = other then known symbol (answers.field other index name)
        else answers.field other index name }
  | .setArray symbol elements => answers.withArray symbol elements.size (fieldOf symbol elements)
  | .setValues symbol values => answers.withArray symbol values.length (valueOf symbol values)
  | .setField symbol index name value =>
    { answers with
      field := fun other position key =>
        if (symbol = other ∧ index = position ∧ name = key) ∧ answers.holds symbol index then .ok value
        else answers.field other position key }

variable {answers : Answers} {symbol : Symbol} {elements : Array Fields} {index : Nat} {name : String}

theorem holds_iff :
    answers.holds symbol index = true ↔ ∃ size, answers.length symbol = .ok size ∧ index < size := by
  unfold holds
  cases answers.length symbol with
  | ok size => simp
  | error source => simp

theorem known_map {α β : Type} (f : α → β) (answer : Except AccessError α) :
    (known symbol answer).map f = known symbol (answer.map f) := by
  cases answer with
  | ok value => rfl
  | error source => cases source <;> rfl

theorem known_bind {α β : Type} {f : α → Except AccessError β} (answer : Except AccessError α)
    (kept : ∀ value, known symbol (f value) = f value) :
    (known symbol answer).bind f = known symbol (answer.bind f) := by
  cases answer with
  | ok value => exact (kept value).symm
  | error source => cases source <;> rfl

theorem known_decode (field : Field) : known symbol (field.decode name) = field.decode name := by
  have outcome := field.outcome_decode name
  generalize field.decode name = result at outcome ⊢
  cases outcome with
  | read value => rfl
  | width width => rfl
  | large value => rfl

/-- An array that is there may lack the number, but never because its symbol is unknown. -/
theorem known_fieldOf : known symbol (fieldOf symbol elements index name) = fieldOf symbol elements index name := by
  unfold fieldOf
  cases elements[index]? with
  | none => rfl
  | some fields =>
    dsimp only [Element.get]
    cases fields[name]? with
    | none => rfl
    | some field => exact known_decode field

theorem get_insert {fields : Fields} {key : String} {value : Int64} :
    Element.get ⟨symbol, index, fields.insert name (.int value)⟩ key =
      if name = key then .ok value else Element.get ⟨symbol, index, fields⟩ key := by
  simp only [Element.get, Std.ExtTreeMap.getElem?_insert, Std.LawfulEqCmp.compare_eq_iff_eq]
  by_cases same : name = key
  · rw [if_pos same, if_pos same]
    rfl
  · rw [if_neg same, if_neg same]

theorem fieldOf_ofNumbers (values : List Int64) :
    fieldOf symbol (values.map fun value => Fields.ofNumbers [("value", value)]).toArray index name =
      valueOf symbol values index name := by
  unfold fieldOf valueOf
  rw [List.getElem?_toArray, List.getElem?_map, List.size_toArray, List.length_map]
  cases values[index]? with
  | none => rfl
  | some value => exact get_insert

/-- A field that is set is the only one read differently. -/
theorem fieldOf_set {fields : Fields} (found : elements[index]? = some fields) (value : Int64) (position : Nat)
    (key : String) :
    fieldOf symbol (elements.setIfInBounds index (fields.insert name (.int value))) position key =
      if index = position ∧ name = key then .ok value else fieldOf symbol elements position key := by
  obtain ⟨inside, -⟩ := Array.getElem?_eq_some_iff.1 found
  unfold fieldOf
  rw [Array.size_setIfInBounds]
  by_cases here : index = position
  · subst here
    rw [Array.getElem?_setIfInBounds_self_of_lt inside, found]
    simp only [get_insert, true_and]
  · rw [Array.getElem?_setIfInBounds_ne here, if_neg fun same => here same.1]

end Answers

namespace Snapshot

variable {snapshot : Snapshot} {symbol other : Symbol} {elements : Array Fields} {index : Nat} {name : String}
  {value : Int64}

def field (snapshot : Snapshot) (symbol : Symbol) (index : Nat) (name : String) : Except AccessError Int64 :=
  (snapshot.element symbol index).bind (·.get name)

def answers (snapshot : Snapshot) : Answers :=
  ⟨snapshot.scalar, snapshot.length, snapshot.field⟩

theorem field_eq_bind : snapshot.field symbol index name =
    (snapshot.array symbol).bind fun elements => Answers.fieldOf symbol elements index name := by
  unfold field element
  cases snapshot.array symbol with
  | error source => rfl
  | ok elements =>
    dsimp only [bind, Except.bind, Answers.fieldOf]
    cases elements[index]? <;> rfl

theorem scalar_withScalar : (snapshot.withScalar symbol value).scalar other =
    if symbol = other then .ok value else snapshot.scalar other := by
  by_cases same : symbol = other
  · subst same
    rw [if_pos rfl, scalar_withScalar_self]
  · rw [if_neg same, scalar_withScalar_of_ne same]

/-- A scalar makes a difference to the array of its own symbol only, and only to the error if there is none. -/
theorem array_withScalar_eq_ite : (snapshot.withScalar symbol value).array other =
    if symbol = other then Answers.known symbol (snapshot.array other) else snapshot.array other := by
  unfold array
  dsimp only [withScalar]
  cases snapshot.arrays[other]? with
  | some elements => simp only [Answers.known, ite_self]
  | none =>
    simp only [Std.ExtTreeMap.mem_insert, Std.LawfulEqCmp.compare_eq_iff_eq]
    by_cases same : symbol = other
    · subst same
      by_cases held : symbol ∈ snapshot.scalars
      · simp [held, Answers.known]
      · simp [held, Answers.known]
    · simp only [same, false_or, if_false]

theorem array_withArray : (snapshot.withArray symbol elements).array other =
    if symbol = other then .ok elements else snapshot.array other := by
  simp only [array, withArray, Std.ExtTreeMap.getElem?_insert, Std.LawfulEqCmp.compare_eq_iff_eq]
  by_cases same : symbol = other
  · rw [if_pos same, if_pos same]
  · rw [if_neg same, if_neg same]
    rfl

theorem answers_withScalar :
    (snapshot.withScalar symbol value).answers = snapshot.answers.after (.setScalar symbol value) := by
  simp only [answers, Answers.after, Answers.mk.injEq]
  refine ⟨funext fun other => scalar_withScalar, funext fun other => ?_, ?_⟩
  · rw [length, array_withScalar_eq_ite, length]
    split
    · rw [Answers.known_map]
    · rfl
  · funext other index name
    rw [field_eq_bind, field_eq_bind, array_withScalar_eq_ite]
    split
    next same =>
      subst same
      exact Answers.known_bind _ fun elements => Answers.known_fieldOf
    next => rfl

theorem answers_withArray : (snapshot.withArray symbol elements).answers =
    snapshot.answers.withArray symbol elements.size (Answers.fieldOf symbol elements) := by
  simp only [answers, Answers.withArray, Answers.mk.injEq]
  refine ⟨rfl, funext fun other => ?_, ?_⟩
  · rw [length, array_withArray, length]
    split <;> rfl
  · funext other index name
    rw [field_eq_bind, field_eq_bind, array_withArray]
    split
    next same =>
      subst same
      rfl
    next => rfl

theorem answers_withValues (values : List Int64) :
    (snapshot.withValues symbol values).answers = snapshot.answers.after (.setValues symbol values) := by
  have fields : Answers.fieldOf symbol
      (values.map fun value => Fields.ofNumbers [("value", value)]).toArray = Answers.valueOf symbol values :=
    funext fun _ => funext fun _ => Answers.fieldOf_ofNumbers values
  rw [withValues, answers_withArray, fields, List.size_toArray, List.length_map]
  rfl

section Held

variable (held : snapshot.array symbol = .ok elements)

include held

theorem length_of_array : snapshot.length symbol = .ok elements.size := by
  rw [length, held]
  rfl

theorem field_of_array : snapshot.field symbol index name = Answers.fieldOf symbol elements index name := by
  rw [field_eq_bind, held]
  rfl

theorem holds_of_array : snapshot.answers.holds symbol index = decide (index < elements.size) := by
  dsimp only [Answers.holds, answers]
  rw [length_of_array held]

end Held

/-- A field is set where there is an element for it, and nowhere else. -/
theorem setField?_cases (snapshot : Snapshot) (symbol : Symbol) (index : Nat) (name : String) (value : Int64) :
    (∃ elements fields, snapshot.array symbol = .ok elements ∧ elements[index]? = some fields ∧
      snapshot.answers.holds symbol index = true ∧ snapshot.setField? symbol index name value =
        some (snapshot.withArray symbol (elements.setIfInBounds index (fields.insert name (.int value))))) ∨
    snapshot.answers.holds symbol index = false ∧ snapshot.setField? symbol index name value = none := by
  unfold setField?
  cases found : snapshot.arrays[symbol]? with
  | none =>
    refine .inr ⟨?_, rfl⟩
    dsimp only [Answers.holds, answers, length, array]
    rw [found]
    -- Either error says that there is no array.
    by_cases scalar : symbol ∈ snapshot.scalars
    · rw [if_pos scalar]
      rfl
    · rw [if_neg scalar]
      rfl
  | some elements =>
    have held : snapshot.array symbol = .ok elements := by
      rw [array, found]
    rw [holds_of_array held]
    cases record : elements[index]? with
    | none =>
      refine .inr ⟨?_, by simp [record]⟩
      exact decide_eq_false (Nat.not_lt.2 (Array.getElem?_eq_none_iff.1 record))
    | some fields =>
      obtain ⟨inside, -⟩ := Array.getElem?_eq_some_iff.1 record
      exact .inl ⟨elements, fields, held, record, decide_eq_true inside, by simp [record]⟩

theorem answers_setField (snapshot : Snapshot) (symbol : Symbol) (index : Nat) (name : String) (value : Int64) :
    ((Edit.setField symbol index name value).apply snapshot).answers =
      snapshot.answers.after (.setField symbol index name value) := by
  dsimp only [Edit.apply, Answers.after]
  obtain ⟨elements, fields, held, record, holds, done⟩ | ⟨holds, undone⟩ :=
    setField?_cases snapshot symbol index name value
  · rw [done, Option.getD_some, answers_withArray, holds]
    simp only [Answers.withArray, answers, Answers.mk.injEq, true_and, and_true]
    constructor
    -- The array is as long as it was.
    · funext other
      rw [Array.size_setIfInBounds]
      split
      next same =>
        subst same
        exact (length_of_array held).symm
      next => rfl
    · funext other position key
      by_cases same : symbol = other
      · subst same
        rw [if_pos rfl, Answers.fieldOf_set record, field_of_array held]
        simp only [true_and]
      · rw [if_neg same, if_neg fun all => same all.1]
  · rw [undone, Option.getD_none, holds]
    simp only [Bool.false_eq_true, and_false, if_false]

theorem answers_apply (snapshot : Snapshot) (edit : Edit) :
    (edit.apply snapshot).answers = snapshot.answers.after edit := by
  cases edit with
  | setScalar symbol value => exact answers_withScalar
  | setArray symbol elements => exact answers_withArray
  | setValues symbol values => exact answers_withValues values
  | setField symbol index name value => exact answers_setField snapshot symbol index name value

-- By induction on the updates; `answers_apply` is the step, from whatever capture the earlier ones leave.
theorem answers_foldl_apply (snapshot : Snapshot) (edits : List Edit) :
    (edits.foldl Edit.apply snapshot).answers = edits.foldl Answers.after snapshot.answers := by
  induction edits generalizing snapshot with
  | nil => rfl
  | cons edit rest ih => rw [List.foldl_cons, List.foldl_cons, ih, answers_apply]

theorem isSome_setField?_iff (snapshot : Snapshot) (symbol : Symbol) (index : Nat) (name : String) (value : Int64) :
    (snapshot.setField? symbol index name value).isSome = true ↔
      ∃ size, snapshot.length symbol = .ok size ∧ index < size := by
  refine Iff.trans ?_ (@Answers.holds_iff snapshot.answers symbol index)
  obtain ⟨elements, fields, -, -, holds, done⟩ | ⟨holds, undone⟩ :=
    setField?_cases snapshot symbol index name value
  · rw [done, holds, Option.isSome_some]
  · rw [undone, holds, Option.isSome_none]

theorem element_withArray (inside : index < elements.size) :
    (snapshot.withArray symbol elements).element symbol index = .ok ⟨symbol, index, elements[index]⟩ := by
  rw [element, array_withArray, if_pos rfl]
  simp only [bind, Except.bind, Array.getElem?_eq_getElem inside]
  rfl

/-- Updates touch what they name: behind any number of them each read is answered as `Answers.after` says, by
what was written last under its name or as it was at first. An array that was set is read back element by
element. Setting a field succeeds exactly where there is an element for it, and changes nothing where it
fails. -/
theorem answers_after_edits (snapshot : Snapshot) :
    (∀ edits : List Edit,
      (edits.foldl Edit.apply snapshot).answers = edits.foldl Answers.after snapshot.answers) ∧
    (∀ symbol elements index (inside : index < elements.size),
      (snapshot.withArray symbol elements).element symbol index = .ok ⟨symbol, index, elements[index]⟩) ∧
    ∀ symbol index name value,
      ((snapshot.setField? symbol index name value).isSome = true ↔
        ∃ size, snapshot.length symbol = .ok size ∧ index < size) ∧
      (snapshot.setField? symbol index name value = none →
        (Edit.setField symbol index name value).apply snapshot = snapshot) := by
  refine ⟨answers_foldl_apply snapshot, fun symbol elements index inside => element_withArray inside, ?_⟩
  intro symbol index name value
  refine ⟨isSome_setField?_iff snapshot symbol index name value, fun undone => ?_⟩
  dsimp only [Edit.apply]
  rw [undone, Option.getD_none]

-- One symbol is an array's and becomes a scalar's too; another becomes a scalar's alone.
theorem answers_after_edits_shared :
    let start := Snapshot.empty.withValues "links" [1, 2]
    let edits : List Edit := [.setScalar "links" 7, .setField "links" 1 "value" 9,
      .setField "links" 2 "value" 3, .setScalar "next" 4]
    let answers := (edits.foldl Edit.apply start).answers
    answers.scalar "links" = .ok 7 ∧ answers.length "links" = .ok 2 ∧
      answers.field "links" 0 "value" = .ok 1 ∧ answers.field "links" 1 "value" = .ok 9 ∧
      start.answers.length "next" = .error (.unknownSymbol "next") ∧
      answers.length "next" = .error (.notAnArray "next") ∧
      start.setField? "links" 2 "value" 3 = none ∧
      (Edit.setField "links" 2 "value" 3).apply start = start ∧
      (start.withArray "next" #[∅]).element "next" 0 = .ok ⟨"next", 0, ∅⟩ := by
  intro start edits answers
  obtain ⟨behind, elements, fields⟩ := answers_after_edits start
  have known : answers = edits.foldl Answers.after start.answers := behind edits
  have missing : start.setField? "links" 2 "value" 3 = none := by decide +kernel
  rw [known]
  refine ⟨?_, ?_, ?_, ?_, ?_, ?_, missing, (fields "links" 2 "value" 3).2 missing,
    elements "next" #[∅] 0 (by decide)⟩
  all_goals decide +kernel

end Snapshot

end SchedProbe
