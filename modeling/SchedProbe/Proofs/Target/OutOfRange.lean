import SchedProbe.Proofs.Target.Exchange
import SchedProbe.Proofs.Target.RawFields
import SchedProbe.Target.Element

/-! Reports that a value is out of range. A report names a number and a kind of integer that does not hold it.
It is made in two places, on narrowing a number and on reading unsigned bytes that fill a word; the first is always
true, the second never, for it shows a number that is one turn of the word too low. -/

set_option autoImplicit false

namespace SchedProbe

variable {α : Type}

/-! ## Numbers denoted -/

/-- The number a field stands for; none for bytes of a width that is not read. -/
def Field.denoted? : Field → Option Int
  | int value => some value.toInt
  | bool value => some (if value then 1 else 0)
  | raw bytes signed order =>
    if bytes.length ∉ [1, 2, 4, 8] then none
    else if signed = true then some (twosComplement bytes.length (order.digits bytes))
    else some (order.digits bytes)

def Element.denoted? (element : Element) (name : String) : Option Int :=
  element.fields[name]?.bind Field.denoted?

def Snapshot.denoted? (snapshot : Snapshot) (symbol : Symbol) : Option Int :=
  snapshot.scalars[symbol]?.map Int64.toInt

def WithinWord (denoted : Option Int) : Prop :=
  ∀ n ∈ denoted, n < 2 ^ 63

/-- What the report of a value out of range says is so: that value is the number denoted, and the kind does not
hold it. -/
def AccessError.TrueOf (denoted : Option Int) : AccessError → Prop
  | valueOutOfRange _ value kind => denoted = some value.toInt ∧ ¬ kind.Holds value.toInt
  | _ => True

/-- The report a read ends with, if it does, is true. -/
def Truthful (denoted : Option Int) (read : Except AccessError α) : Prop :=
  ∀ source, read = .error source → source.TrueOf denoted

def Yields (denoted : Option Int) (kind : IntKind) (read : Except AccessError Int) : Prop :=
  ∀ n, read = .ok n → denoted = some n ∧ kind.Holds n

theorem truthful_ok {denoted : Option Int} {value : α} : Truthful denoted (.ok value) :=
  nofun

theorem truthful_error {denoted : Option Int} {source : AccessError} :
    Truthful denoted (.error source : Except AccessError α) ↔ source.TrueOf denoted :=
  ⟨fun truthful => truthful source rfl, fun true _ same => Except.error.inj same ▸ true⟩

theorem withinWord_toInt (value : Int64) : WithinWord (some value.toInt) := by
  rintro _ ⟨rfl⟩
  exact value.toInt_lt

/-! ## Fields -/

/-- A field that is read yields its number; one that is not has none, or one that no signed word holds. -/
inductive Field.Decoded (name : String) (field : Field) : Except AccessError Int64 → Prop where
  | read {value : Int64} (denotes : field.denoted? = some value.toInt) : Decoded name field (.ok value)
  | width {width : Nat} (denotes : field.denoted? = none) : Decoded name field (.error (.badWidth name width))
  | large {n : Nat} (denotes : field.denoted? = some n) (beyond : 2 ^ 63 ≤ n) :
      Decoded name field (.error (.valueOutOfRange name (Int64.ofNat n) .i64))

theorem exists_of_map_ok {β : Type} {read : Except AccessError α} {f : α → β} {value : β}
    (same : read.map f = .ok value) : ∃ number, read = .ok number ∧ f number = value := by
  cases read with
  | error source => cases same
  | ok number => exact ⟨number, rfl, Except.ok.inj same⟩

theorem eq_error_of_map {β : Type} {read : Except AccessError α} {f : α → β} {source : AccessError}
    (same : read.map f = .error source) : read = .error source := by
  cases read with
  | error source => exact congrArg Except.error (Except.error.inj same)
  | ok number => cases same

theorem Field.decoded (name : String) (field : Field) : field.Decoded name (field.decode name) := by
  cases field with
  | int value => exact .read rfl
  | bool value => cases value <;> exact .read rfl
  | raw bytes signed order =>
    have read := map_toInt_decode name bytes signed order
    by_cases unsupported : bytes.length ∉ [1, 2, 4, 8]
    · rw [if_pos unsupported] at read
      rw [eq_error_of_map read]
      exact .width (if_pos unsupported)
    have denotes {n : Int} (number : (if signed = true then some (twosComplement bytes.length (order.digits bytes))
        else some (order.digits bytes : Int)) = some n) : (raw bytes signed order).denoted? = some n :=
      (if_neg unsupported).trans number
    rw [if_neg unsupported] at read
    by_cases isSigned : signed = true
    · rw [if_pos isSigned] at read
      obtain ⟨value, result, number⟩ := exists_of_map_ok read
      rw [result]
      exact .read (denotes (by rw [if_pos isSigned, number]))
    rw [if_neg isSigned] at read
    by_cases short : order.digits bytes < 2 ^ 63
    · rw [if_pos short] at read
      obtain ⟨value, result, number⟩ := exists_of_map_ok read
      rw [result]
      exact .read (denotes (by rw [if_neg isSigned, number]))
    · rw [if_neg short] at read
      rw [eq_error_of_map read]
      exact .large (denotes (if_neg isSigned)) (Nat.le_of_not_lt short)

-- A number that no signed word holds is not the one shown, for what is shown is a signed word.
theorem Field.truthful_iff (name : String) (field : Field) :
    Truthful field.denoted? (field.decode name) ↔ WithinWord field.denoted? := by
  have decoded := field.decoded name
  generalize field.decode name = result at decoded ⊢
  cases decoded with
  | read denotes =>
    rw [denotes]
    exact ⟨fun _ => withinWord_toInt _, fun _ => truthful_ok⟩
  | width denotes =>
    rw [denotes]
    exact ⟨fun _ => nofun, fun _ => truthful_error.2 trivial⟩
  | @large n denotes beyond =>
    rw [denotes, truthful_error]
    constructor
    · rintro ⟨same, -⟩
      have small := (Int64.ofNat n).toInt_lt
      have shown := Option.some.inj same
      omega
    · intro within
      have small := within n rfl
      omega

/-! ## Elements -/

theorem truthful_map {β : Type} {denoted : Option Int} {read : Except AccessError α} {f : α → β} :
    Truthful denoted (read.map f) ↔ Truthful denoted read := by
  cases read with
  | error source => exact truthful_error.trans truthful_error.symm
  | ok value => exact ⟨fun _ => truthful_ok, fun _ => truthful_ok⟩

theorem narrow_truthful (kind : IntKind) (what : String) (value : Int64) :
    Truthful (some value.toInt) (narrow kind what value) ∧
      Yields (some value.toInt) kind (narrow kind what value) := by
  unfold narrow
  split
  next holds =>
    refine ⟨truthful_ok, ?_⟩
    rintro _ ⟨rfl⟩
    exact ⟨rfl, holds⟩
  next beyond => exact ⟨truthful_error.2 ⟨rfl, beyond⟩, nofun⟩

namespace Element

variable (element : Element) (name : String)

theorem denoted?_of_get {value : Int64} (got : element.get name = .ok value) :
    element.denoted? name = some value.toInt := by
  unfold get at got
  unfold denoted?
  split at got
  next field held =>
    rw [held, Option.bind_some]
    have decoded := field.decoded name
    rw [got] at decoded
    cases decoded with
    | read denotes => exact denotes
  next => cases got

theorem truthful_get : Truthful (element.denoted? name) (element.get name) ↔
    WithinWord (element.denoted? name) := by
  unfold get denoted?
  split
  next field held =>
    rw [held, Option.bind_some]
    exact field.truthful_iff name
  next held =>
    rw [held, Option.bind_none]
    exact ⟨fun _ => nofun, fun _ => truthful_error.2 trivial⟩

-- Narrowing adds no report that is not true.
theorem truthful_getAs (kind : IntKind) : Truthful (element.denoted? name) (element.getAs kind name) ↔
    WithinWord (element.denoted? name) := by
  rw [← truthful_get]
  unfold getAs
  cases got : element.get name with
  | error source => exact truthful_error.trans truthful_error.symm
  | ok value =>
    rw [element.denoted?_of_get name got]
    exact ⟨fun _ => truthful_ok, fun _ => (narrow_truthful kind _ value).1⟩

theorem yields_getAs (kind : IntKind) : Yields (element.denoted? name) kind (element.getAs kind name) := by
  unfold getAs
  cases got : element.get name with
  | error source => exact nofun
  | ok value =>
    rw [element.denoted?_of_get name got]
    exact (narrow_truthful kind _ value).2

end Element

/-! ## Scalars -/

theorem Inspection.result_scalarAs {σ : Type} (target : Target σ) (state : σ) (kind : IntKind) (symbol : Symbol) :
    (scalarAs kind symbol).run.result target state =
      ((target (.scalar symbol) state).1.bind (narrow kind symbol)).mapError .access := by
  rw [scalarAs_eq_ask]
  rfl

theorem Snapshot.scalarAs_truthful (snapshot : Snapshot) (kind : IntKind) (symbol : Symbol) :
    Truthful (snapshot.denoted? symbol) (snapshot.scalarAs kind symbol) ∧
      Yields (snapshot.denoted? symbol) kind (snapshot.scalarAs kind symbol) := by
  unfold scalarAs scalar denoted?
  cases held : snapshot.scalars[symbol]? with
  | none => exact ⟨truthful_error.2 trivial, nofun⟩
  | some value => exact narrow_truthful kind symbol value

/-- Every report that a number is out of range is true of a field exactly if no number from `2 ^ 63` on is in it,
and of any other number without exception. What narrowing yields is the number denoted, and its kind holds it. -/
theorem outOfRange_true_iff {σ : Type} (field : Field) (element : Element) (snapshot : Snapshot)
    (target : Target σ) (state : σ) (name : String) (symbol : Symbol) (kind : IntKind) (value : Int64) :
    (Truthful field.denoted? (field.decode name) ↔ WithinWord field.denoted?) ∧
      (Truthful (element.denoted? name) (element.get name) ↔ WithinWord (element.denoted? name)) ∧
      (Truthful (element.denoted? name) (element.getFlag name) ↔ WithinWord (element.denoted? name)) ∧
      ((Truthful (element.denoted? name) (element.getAs kind name) ↔ WithinWord (element.denoted? name)) ∧
        Yields (element.denoted? name) kind (element.getAs kind name)) ∧
      (Truthful (some value.toInt) (narrow kind name value) ∧
        Yields (some value.toInt) kind (narrow kind name value)) ∧
      (Truthful (snapshot.denoted? symbol) (snapshot.scalarAs kind symbol) ∧
        Yields (snapshot.denoted? symbol) kind (snapshot.scalarAs kind symbol)) ∧
      ((target (.scalar symbol) state).1 = .ok value →
        ∃ read, (Inspection.scalarAs kind symbol).run.result target state = read.mapError .access ∧
          Truthful (some value.toInt) read ∧ Yields (some value.toInt) kind read) := by
  refine ⟨field.truthful_iff name, element.truthful_get name, truthful_map.trans (element.truthful_get name),
    ⟨element.truthful_getAs name kind, element.yields_getAs name kind⟩, narrow_truthful kind name value,
    snapshot.scalarAs_truthful kind symbol, fun replied => ?_⟩
  refine ⟨narrow kind symbol value, ?_, narrow_truthful kind symbol value⟩
  rw [Inspection.result_scalarAs, replied]
  rfl

-- A number too large for a byte, and a negative one that was to be a size.
theorem outOfRange_true_narrow :
    let element : Element := ⟨"task_trace", 4, Fields.ofNumbers [("num", 300)]⟩
    let snapshot := Snapshot.empty.withScalar "nxt" (-1)
    WithinWord (element.denoted? "num") ∧
      element.getAs .u8 "num" = .error (.valueOutOfRange "task_trace[4].num" 300 .u8) ∧
      Truthful (element.denoted? "num") (element.getAs .u8 "num") ∧
      Yields (element.denoted? "num") .u16 (element.getAs .u16 "num") ∧
      (Snapshot.target (.scalar "nxt") snapshot).1 = .ok (-1) ∧
      ∃ read, (Inspection.scalarAs .size "nxt").run.result Snapshot.target snapshot = read.mapError .access ∧
        Truthful (some (-1)) read ∧ Yields (some (-1)) .size read := by
  intro element snapshot
  have reports := outOfRange_true_iff (.int 300) element snapshot Snapshot.target snapshot "num" "nxt"
  obtain ⟨-, -, -, ⟨narrowed, -⟩, -⟩ := reports .u8 300
  obtain ⟨-, -, -, ⟨-, yields⟩, -⟩ := reports .u16 300
  obtain ⟨-, -, -, -, -, -, scalar⟩ := reports .size (-1)
  have denoted : element.denoted? "num" = some 300 := by decide +kernel
  have within : WithinWord (element.denoted? "num") := by
    rw [denoted]
    exact withinWord_toInt 300
  have replied : (Snapshot.target (.scalar "nxt") snapshot).1 = .ok (-1) := by decide +kernel
  exact ⟨within, by decide +kernel, narrowed.2 within, yields, replied, scalar replied⟩

/-- Eight bytes of ones denote the greatest unsigned word; the report shows `-1`, which a signed word holds. -/
theorem outOfRange_shows_wrapped :
    let field := Field.raw (List.replicate 8 0xff) false .little
    field.denoted? = some 18446744073709551615 ∧
      field.decode "val" = .error (.valueOutOfRange "val" (-1) .i64) ∧
      IntKind.i64.Holds (-1) ∧ ¬ Truthful field.denoted? (field.decode "val") := by
  intro field
  have decoded : field.decode "val" = .error (.valueOutOfRange "val" (-1) .i64) := by decide +kernel
  refine ⟨by decide +kernel, decoded, by decide, fun truthful => ?_⟩
  have beyond := (truthful _ decoded).2
  exact beyond (by decide)

end SchedProbe
