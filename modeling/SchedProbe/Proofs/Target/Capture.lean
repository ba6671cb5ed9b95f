import SchedProbe.Snapshot.Basic
import SchedProbe.Target.Inspection

/-! Inspections of a capture. A capture does not change while it is read, so what an inspection makes of it is
put together from what its parts make of it. -/

set_option autoImplicit false

namespace SchedProbe

variable {α β : Type}

/-- Values taken one each from the first elements of a captured array. -/
def Snapshot.Gives (snapshot : Snapshot) (symbol : Symbol) (read : Element → Except AccessError α)
    (values : Array α) : Prop :=
  ∀ index (inside : index < values.size), (snapshot.element symbol index).bind read = .ok values[index]

namespace Snapshot.Gives

variable {snapshot : Snapshot} {symbol : Symbol} {read : Element → Except AccessError α}
  {values others : Array α} {value : α}

theorem empty : snapshot.Gives symbol read #[] :=
  fun index inside => absurd inside (Nat.not_lt_zero index)

theorem push (gives : snapshot.Gives symbol read values)
    (next : (snapshot.element symbol values.size).bind read = .ok value) :
    snapshot.Gives symbol read (values.push value) := by
  intro index inside
  rw [Array.size_push] at inside
  rw [Array.getElem_push]
  split
  next earlier => exact gives index earlier
  next last =>
    obtain rfl : index = values.size := by omega
    exact next

theorem unique (gives : snapshot.Gives symbol read values) (gives' : snapshot.Gives symbol read others)
    (size : values.size = others.size) : values = others := by
  refine Array.ext size fun index inside inside' => ?_
  have same := gives' index inside'
  rw [gives index inside] at same
  exact Except.ok.inj same

end Snapshot.Gives

theorem Probe.result_bind (snapshot : Snapshot) (probe : Probe α) (f : α → Probe β) :
    (probe.bind f).result Snapshot.target snapshot =
      (f (probe.result Snapshot.target snapshot)).result Snapshot.target snapshot := by
  induction probe with
  | done value => rfl
  | note entry next ih => exact ih
  | ask query next ih => exact ih (snapshot.reply query)

namespace Inspection

def on (inspection : Inspection α) (snapshot : Snapshot) : Except Failure α :=
  inspection.run.result Snapshot.target snapshot

variable (snapshot : Snapshot)

@[simp] theorem on_pure (value : α) : (pure value : Inspection α).on snapshot = .ok value :=
  rfl

@[simp] theorem on_throw (failure : Failure) :
    (throw failure : Inspection α).on snapshot = .error failure :=
  rfl

@[simp] theorem on_bind (inspection : Inspection α) (f : α → Inspection β) :
    (inspection >>= f).on snapshot = inspection.on snapshot >>= fun value => (f value).on snapshot := by
  refine (Probe.result_bind snapshot inspection.run (ExceptT.bindCont f)).trans ?_
  unfold on
  cases inspection.run.result Snapshot.target snapshot <;> rfl

@[simp] theorem on_ite {condition : Prop} [Decidable condition] (inspection other : Inspection α) :
    (if condition then inspection else other).on snapshot =
      if condition then inspection.on snapshot else other.on snapshot :=
  apply_ite (·.on snapshot) condition inspection other

@[simp] theorem on_log (level : Level) (text : String) : (log level text).on snapshot = .ok () :=
  rfl

@[simp] theorem on_scalar (symbol : Symbol) :
    (scalar symbol).on snapshot = (snapshot.scalar symbol).mapError .access :=
  rfl

@[simp] theorem on_length (symbol : Symbol) :
    (length symbol).on snapshot = (snapshot.length symbol).mapError .access :=
  rfl

@[simp] theorem on_scalarAs (kind : IntKind) (symbol : Symbol) :
    (scalarAs kind symbol).on snapshot = (snapshot.scalarAs kind symbol).mapError .access := by
  rw [scalarAs, on_bind, on_scalar, Snapshot.scalarAs]
  cases snapshot.scalar symbol <;> rfl

@[simp] theorem on_scalarId (symbol : Symbol) :
    (scalarId symbol).on snapshot =
      ((snapshot.scalarAs .u16 symbol).mapError .access).map fun value => UInt16.ofNat value.toNat := by
  rw [scalarId, on_bind, on_scalarAs]
  cases snapshot.scalarAs .u16 symbol <;> rfl

variable (symbol : Symbol) (index : Nat) (read : Element → Except AccessError α)

@[simp] theorem on_element? :
    (element? symbol index read).on snapshot = .ok ((snapshot.element symbol index).bind read) :=
  rfl

@[simp] theorem on_element :
    (element symbol index read).on snapshot = ((snapshot.element symbol index).bind read).mapError .access :=
  rfl

section Elements

variable {snapshot}

-- By induction on the elements still to be read; the invariant is that those before have been taken.
theorem on_elementsFrom_cases (count : Nat) {sofar : Array α} (taken : snapshot.Gives symbol read sofar) :
    (∃ values, values.size = sofar.size + count ∧ snapshot.Gives symbol read values ∧
      (elements symbol read count sofar.size sofar).on snapshot = .ok values) ∨
    ∃ index source, index < sofar.size + count ∧
      (snapshot.element symbol index).bind read = .error source ∧
      (elements symbol read count sofar.size sofar).on snapshot = .error (.access source) := by
  induction count generalizing sofar with
  | zero => exact .inl ⟨sofar, rfl, taken, rfl⟩
  | succ count ih =>
    rw [elements, on_bind, on_element]
    cases next : (snapshot.element symbol sofar.size).bind read with
    | error source => exact .inr ⟨sofar.size, source, by omega, next, rfl⟩
    | ok value =>
      have rest := ih (taken.push next)
      rw [Array.size_push, Nat.add_right_comm, Nat.add_assoc] at rest
      exact rest

theorem on_elements_cases (snapshot : Snapshot) (count : Nat) :
    (∃ values, values.size = count ∧ snapshot.Gives symbol read values ∧
      (elements symbol read count 0 #[]).on snapshot = .ok values) ∨
    ∃ index source, index < count ∧ (snapshot.element symbol index).bind read = .error source ∧
      (elements symbol read count 0 #[]).on snapshot = .error (.access source) := by
  have start : snapshot.Gives symbol read #[] := .empty
  simpa only [List.size_toArray, List.length_nil, Nat.zero_add] using on_elementsFrom_cases symbol read count start

-- By induction on the elements still to be read, up to the one at fault.
theorem on_elementsFrom_of_unread {stop : Nat} {source : AccessError}
    (unread : (snapshot.element symbol stop).bind read = .error source) (count : Nat) (sofar : Array α)
    (ahead : sofar.size ≤ stop) (inside : stop < sofar.size + count)
    (before : ∀ index, index < stop → ∃ value, (snapshot.element symbol index).bind read = .ok value) :
    (elements symbol read count sofar.size sofar).on snapshot = .error (.access source) := by
  induction count generalizing sofar with
  | zero => omega
  | succ count ih =>
    rw [elements, on_bind, on_element]
    obtain rfl | later := Nat.eq_or_lt_of_le ahead
    · rw [unread]
      rfl
    · obtain ⟨value, next⟩ := before _ later
      have size : (sofar.push value).size = sofar.size + 1 := Array.size_push value
      have rest := ih (sofar.push value) (by omega) (by omega)
      rw [size] at rest
      rw [next]
      exact rest

variable {symbol read}

/-- The first element that is not read ends the reading. -/
theorem on_elements_of_unread {count stop : Nat} {source : AccessError} (inside : stop < count)
    (before : ∀ index, index < stop → ∃ value, (snapshot.element symbol index).bind read = .ok value)
    (unread : (snapshot.element symbol stop).bind read = .error source) :
    (elements symbol read count 0 #[]).on snapshot = .error (.access source) :=
  on_elementsFrom_of_unread symbol read unread count #[] (Nat.zero_le stop)
    (by simpa only [List.size_toArray, List.length_nil, Nat.zero_add] using inside) before

theorem on_elements {values : Array α} (gives : snapshot.Gives symbol read values) :
    (elements symbol read values.size 0 #[]).on snapshot = .ok values := by
  obtain ⟨others, size, taken, done⟩ | ⟨index, source, inside, unread, -⟩ :=
    on_elements_cases symbol read snapshot values.size
  · obtain rfl := gives.unique taken size.symm
    exact done
  · rw [gives index inside] at unread
    cases unread

theorem gives_of_on_elements {count : Nat} {values : Array α}
    (taken : (elements symbol read count 0 #[]).on snapshot = .ok values) :
    values.size = count ∧ snapshot.Gives symbol read values := by
  obtain ⟨others, size, gives, done⟩ | ⟨_, _, -, -, failed⟩ :=
    on_elements_cases symbol read snapshot count
  · cases taken.symm.trans done
    exact ⟨size, gives⟩
  · cases taken.symm.trans failed

end Elements

def Unread (inspection : Inspection α) (snapshot : Snapshot) : Prop :=
  ∃ source, inspection.on snapshot = .error (.access source)

section Unread

variable {snapshot : Snapshot}

/-- An inspection comes to a read that fails unless each of its parts is read. -/
theorem or_unread_bind {first : Inspection β} {rest : β → Inspection α} {whole : Prop}
    (read : (∃ value, first.on snapshot = .ok value) ∨ first.Unread snapshot)
    (next : ∀ value, first.on snapshot = .ok value → whole ∨ (rest value).Unread snapshot) :
    whole ∨ (first >>= rest).Unread snapshot := by
  simp only [Unread, on_bind]
  obtain ⟨value, read⟩ | ⟨source, unread⟩ := read
  · rw [read]
    exact next value read
  · rw [unread]
    exact .inr ⟨source, rfl⟩

theorem mapError_or_unread {inspection : Inspection α} {reply : Except AccessError α}
    (same : inspection.on snapshot = reply.mapError .access) :
    (∃ value, inspection.on snapshot = .ok value) ∨ inspection.Unread snapshot := by
  rw [Unread, same]
  cases reply with
  | error source => exact .inr ⟨source, rfl⟩
  | ok value => exact .inl ⟨value, rfl⟩

theorem scalar_or_unread (symbol : Symbol) :
    (∃ value, (scalar symbol).on snapshot = .ok value) ∨ (scalar symbol).Unread snapshot :=
  mapError_or_unread (on_scalar snapshot symbol)

theorem scalarAs_or_unread (kind : IntKind) (symbol : Symbol) :
    (∃ value, (scalarAs kind symbol).on snapshot = .ok value) ∨ (scalarAs kind symbol).Unread snapshot :=
  mapError_or_unread (on_scalarAs snapshot kind symbol)

theorem scalarId_or_unread (symbol : Symbol) :
    (∃ id, (scalarId symbol).on snapshot = .ok id) ∨ (scalarId symbol).Unread snapshot :=
  or_unread_bind (scalarAs_or_unread .u16 symbol) fun value read =>
    .inl ⟨_, by rw [scalarId, on_bind, read]; rfl⟩

theorem length_or_unread (symbol : Symbol) :
    (∃ size, (length symbol).on snapshot = .ok size) ∨ (length symbol).Unread snapshot :=
  mapError_or_unread (on_length snapshot symbol)

theorem elements_or_unread (symbol : Symbol) (read : Element → Except AccessError α) (count : Nat) :
    (∃ values, (elements symbol read count 0 #[]).on snapshot = .ok values) ∨
      (elements symbol read count 0 #[]).Unread snapshot := by
  obtain ⟨values, -, -, done⟩ | ⟨_, source, -, -, failed⟩ :=
    on_elements_cases symbol read snapshot count
  · exact .inl ⟨values, done⟩
  · exact .inr ⟨source, failed⟩

theorem holds_of_on_scalarAs {kind : IntKind} {symbol : Symbol} {value : Int}
    (taken : (scalarAs kind symbol).on snapshot = .ok value) : kind.Holds value := by
  rw [on_scalarAs, Snapshot.scalarAs] at taken
  cases found : snapshot.scalar symbol with
  | error source =>
    rw [found] at taken
    cases taken
  | ok number =>
    rw [found] at taken
    simp only [bind, Except.bind, narrow] at taken
    split at taken
    next holds =>
      cases taken
      exact holds
    next => cases taken

end Unread

end Inspection

end SchedProbe
