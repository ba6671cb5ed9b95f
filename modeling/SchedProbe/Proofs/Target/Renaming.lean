import SchedProbe.Proofs.ReadyQueue.Captured
import SchedProbe.Proofs.Ring.Listing
import SchedProbe.TimerTable.Descriptor

/-! Two captures read under different symbols. A read takes nothing from a symbol but what stands under it,
and gives it away in errors alone; so where the same stands under two symbols, a read under one and the same
read under the other come to the same, be it a value or an error that differs in the symbol it names. -/

set_option autoImplicit false

namespace SchedProbe

variable {α β ε ε' : Type}

inductive SameOutcome (alike : ε → ε → Prop) : Except ε α → Except ε α → Prop
  | ok (value : α) : SameOutcome alike (.ok value) (.ok value)
  | error {first second : ε} (errors : alike first second) : SameOutcome alike (.error first) (.error second)

namespace SameOutcome

variable {alike : ε → ε → Prop} {first second : Except ε α}

theorem bind (same : SameOutcome alike first second) {f g : α → Except ε β}
    (rest : ∀ value, SameOutcome alike (f value) (g value)) :
    SameOutcome alike (first >>= f) (second >>= g) := by
  cases same with
  | ok value => exact rest value
  | error errors => exact .error errors

theorem map (same : SameOutcome alike first second) (f : α → β) :
    SameOutcome alike (first.map f) (second.map f) := by
  cases same with
  | ok value => exact .ok (f value)
  | error errors => exact .error errors

theorem mapError (same : SameOutcome alike first second) {alike' : ε' → ε' → Prop} {f : ε → ε'}
    (errors : ∀ {e e'}, alike e e' → alike' (f e) (f e')) :
    SameOutcome alike' (first.mapError f) (second.mapError f) := by
  cases same with
  | ok value => exact .ok value
  | error here => exact .error (errors here)

theorem mono (same : SameOutcome alike first second) {alike' : ε → ε → Prop}
    (errors : ∀ {e e'}, alike e e' → alike' e e') : SameOutcome alike' first second := by
  cases same with
  | ok value => exact .ok value
  | error here => exact .error (errors here)

theorem eq (same : SameOutcome (· = ·) first second) : first = second := by
  cases same with
  | ok value => rfl
  | error errors => rw [errors]

end SameOutcome

/-- Errors that differ at most in the symbols they name, the symbols at one place paired by `same`. -/
inductive AccessError.Renamed (same : Symbol → Symbol → Prop) : AccessError → AccessError → Prop
  | unknownSymbol {s t : Symbol} (paired : same s t) : Renamed same (.unknownSymbol s) (.unknownSymbol t)
  | notAnArray {s t : Symbol} (paired : same s t) : Renamed same (.notAnArray s) (.notAnArray t)
  | indexOutOfRange {s t : Symbol} (paired : same s t) (index length : Nat) :
    Renamed same (.indexOutOfRange s index length) (.indexOutOfRange t index length)
  | missingField {s t : Symbol} (paired : same s t) (index : Nat) (field : String) :
    Renamed same (.missingField s index field) (.missingField t index field)
  | badWidth (field : String) (width : Nat) : Renamed same (.badWidth field width) (.badWidth field width)
  | scalarOutOfRange {s t : Symbol} (paired : same s t) (value : Int64) (kind : IntKind) :
    Renamed same (.valueOutOfRange s value kind) (.valueOutOfRange t value kind)
  | elementOutOfRange {s t : Symbol} (paired : same s t) (index : Nat) (field : String) (value : Int64)
      (kind : IntKind) :
    Renamed same (.valueOutOfRange (elementName s index ++ "." ++ field) value kind)
      (.valueOutOfRange (elementName t index ++ "." ++ field) value kind)
  | fieldOutOfRange (field : String) (value : Int64) (kind : IntKind) :
    Renamed same (.valueOutOfRange field value kind) (.valueOutOfRange field value kind)
  | countExceedsArray {s t array array' : Symbol} (paired : same s t) (pairedArray : same array array')
      (value length : Nat) :
    Renamed same (.countExceedsArray s value array length) (.countExceedsArray t value array' length)
  | unavailable (reason : String) : Renamed same (.unavailable reason) (.unavailable reason)

inductive Failure.Renamed (same : Symbol → Symbol → Prop) : Failure → Failure → Prop
  | access {source source' : AccessError} (sources : source.Renamed same source') :
    Renamed same (.access source) (.access source')
  | corruptedQueue (source : ReadyQueue.Corrupted) :
    Renamed same (.corruptedQueue source) (.corruptedQueue source)
  | incomplete {source source' : AccessError} (sources : source.Renamed same source') (command : String)
      (decoded : List String) (total : Nat) :
    Renamed same (.incomplete command decoded total source) (.incomplete command decoded total source')
  | input (source : InputError) : Renamed same (.input source) (.input source)
  | unknownCommand (name : String) : Renamed same (.unknownCommand name) (.unknownCommand name)

section Renamed

variable {same same' : Symbol → Symbol → Prop}

theorem AccessError.Renamed.mono {first second : AccessError} (renamed : first.Renamed same second)
    (weaker : ∀ {s t}, same s t → same' s t) : first.Renamed same' second := by
  cases renamed with
  | unknownSymbol paired => exact .unknownSymbol (weaker paired)
  | notAnArray paired => exact .notAnArray (weaker paired)
  | indexOutOfRange paired index length => exact .indexOutOfRange (weaker paired) index length
  | missingField paired index field => exact .missingField (weaker paired) index field
  | badWidth field width => exact .badWidth field width
  | scalarOutOfRange paired value kind => exact .scalarOutOfRange (weaker paired) value kind
  | elementOutOfRange paired index field value kind =>
    exact .elementOutOfRange (weaker paired) index field value kind
  | fieldOutOfRange field value kind => exact .fieldOutOfRange field value kind
  | countExceedsArray paired pairedArray value length =>
    exact .countExceedsArray (weaker paired) (weaker pairedArray) value length
  | unavailable reason => exact .unavailable reason

theorem AccessError.Renamed.eq {first second : AccessError} (renamed : first.Renamed (· = ·) second) :
    first = second := by
  cases renamed <;> simp_all

theorem Failure.Renamed.mono {first second : Failure} (renamed : first.Renamed same second)
    (weaker : ∀ {s t}, same s t → same' s t) : first.Renamed same' second := by
  cases renamed with
  | access sources => exact .access (sources.mono weaker)
  | corruptedQueue source => exact .corruptedQueue source
  | incomplete sources command decoded total => exact .incomplete (sources.mono weaker) command decoded total
  | input source => exact .input source
  | unknownCommand name => exact .unknownCommand name

theorem Failure.Renamed.eq {first second : Failure} (renamed : first.Renamed (· = ·) second) :
    first = second := by
  cases renamed with
  | access sources => rw [sources.eq]
  | incomplete sources command decoded total => rw [sources.eq]
  | corruptedQueue source | input source | unknownCommand name => rfl

end Renamed

abbrev SameRead (same : Symbol → Symbol → Prop) : Except AccessError α → Except AccessError α → Prop :=
  SameOutcome (AccessError.Renamed same)

section Elements

variable {same : Symbol → Symbol → Prop} {s t : Symbol} (paired : same s t) (index : Nat) (fields : Fields)

theorem Field.decode_renamed (field : Field) (name : String) :
    SameRead same (field.decode name) (field.decode name) := by
  have outcome := field.outcome_decode name
  generalize field.decode name = result at outcome ⊢
  cases outcome with
  | read value => exact .ok value
  | width width => exact .error (.badWidth name width)
  | large value => exact .error (.fieldOutOfRange name value .i64)

theorem narrow_renamed (kind : IntKind) {what what' : String} (value : Int64)
    (alike : AccessError.Renamed same (.valueOutOfRange what value kind)
      (.valueOutOfRange what' value kind)) :
    SameRead same (narrow kind what value) (narrow kind what' value) := by
  unfold narrow
  split
  · exact .ok _
  · exact .error alike

namespace Element

include paired

theorem get_renamed (name : String) :
    SameRead same ((Element.mk s index fields).get name) ((Element.mk t index fields).get name) := by
  unfold get
  dsimp only
  cases fields[name]? with
  | some field => exact field.decode_renamed name
  | none => exact .error (.missingField paired index name)

theorem getAs_renamed (kind : IntKind) (name : String) :
    SameRead same ((Element.mk s index fields).getAs kind name)
      ((Element.mk t index fields).getAs kind name) :=
  .bind (get_renamed paired index fields name) fun value =>
    narrow_renamed kind value (.elementOutOfRange paired index name value kind)

theorem getId_renamed (name : String) :
    SameRead same ((Element.mk s index fields).getId name) ((Element.mk t index fields).getId name) :=
  .map (getAs_renamed paired index fields .u16 name) _

theorem getTicks_renamed (name : String) :
    SameRead same ((Element.mk s index fields).getTicks name) ((Element.mk t index fields).getTicks name) :=
  .map (getAs_renamed paired index fields .u32 name) _

theorem getFlag_renamed (name : String) :
    SameRead same ((Element.mk s index fields).getFlag name) ((Element.mk t index fields).getFlag name) :=
  .map (get_renamed paired index fields name) _

end Element

include paired

theorem TraceRecord.ofElement_renamed :
    SameRead same (ofElement ⟨s, index, fields⟩) (ofElement ⟨t, index, fields⟩) :=
  .bind (Element.getId_renamed paired index fields "num") fun _ =>
    .bind (Element.get_renamed paired index fields "ttype") fun _ =>
      .bind (Element.getTicks_renamed paired index fields "val") fun _ => .ok _

theorem TimerTable.Descriptor.ofElement_renamed :
    SameRead same (ofElement ⟨s, index, fields⟩) (ofElement ⟨t, index, fields⟩) :=
  .bind (Element.getTicks_renamed paired index fields "t0") fun _ =>
    .bind (Element.getTicks_renamed paired index fields "dt") fun _ =>
      .bind (Element.getTicks_renamed paired index fields "fired_max_us") fun _ =>
        .bind (Element.getFlag_renamed paired index fields "isoneshot") fun _ =>
          .bind (Element.getFlag_renamed paired index fields "isrunning") fun _ => .ok _

end Elements

/-- The same scalar under `s` in one capture as under `t` in another, or none in both. -/
def SameScalar (first : Snapshot) (s : Symbol) (second : Snapshot) (t : Symbol) : Prop :=
  first.scalars[s]? = second.scalars[t]?

/-- The same array under `s` in one capture as under `t` in another; or else nothing under either, or a scalar
under both. -/
structure SameArray (first : Snapshot) (s : Symbol) (second : Snapshot) (t : Symbol) : Prop where
  elements : first.arrays[s]? = second.arrays[t]?
  unheld : first.arrays[s]? = none → (s ∈ first.scalars ↔ t ∈ second.scalars)

namespace Snapshot

variable {same : Symbol → Symbol → Prop} {first second : Snapshot} {s t : Symbol} (paired : same s t)

include paired

theorem scalar_renamed (held : SameScalar first s second t) :
    SameRead same (first.scalar s) (second.scalar t) := by
  unfold scalar
  rw [held]
  cases second.scalars[t]? with
  | some value => exact .ok value
  | none => exact .error (.unknownSymbol paired)

theorem scalarAs_renamed (held : SameScalar first s second t) (kind : IntKind) :
    SameRead same (first.scalarAs kind s) (second.scalarAs kind t) :=
  .bind (scalar_renamed paired held) fun value =>
    narrow_renamed kind value (.scalarOutOfRange paired value kind)

variable (held : SameArray first s second t)

include held

theorem array_renamed : SameRead same (first.array s) (second.array t) := by
  have unheld := held.unheld
  unfold array
  rw [held.elements] at unheld ⊢
  generalize second.arrays[t]? = elements at unheld ⊢
  cases elements with
  | some elements => exact .ok elements
  | none =>
    dsimp only
    by_cases scalar : t ∈ second.scalars
    · rw [if_pos scalar, if_pos ((unheld rfl).2 scalar)]
      exact .error (.notAnArray paired)
    · rw [if_neg scalar, if_neg (mt (unheld rfl).1 scalar)]
      exact .error (.unknownSymbol paired)

theorem length_renamed : SameRead same (first.length s) (second.length t) :=
  (array_renamed paired held).map _

theorem element_renamed {take : Element → Except AccessError α}
    (blind : ∀ index fields, SameRead same (take ⟨s, index, fields⟩) (take ⟨t, index, fields⟩))
    (index : Nat) :
    SameRead same ((first.element s index).bind take) ((second.element t index).bind take) := by
  -- The two elements differ in their symbol, so they are compared by what is taken from them.
  have arrays := array_renamed paired held
  unfold element
  generalize first.array s = array at arrays ⊢
  generalize second.array t = array' at arrays ⊢
  cases arrays with
  | error errors => exact .error errors
  | ok elements =>
    simp only [bind, Except.bind]
    cases elements[index]? with
    | some fields => exact blind index fields
    | none => exact .error (.indexOutOfRange paired index elements.size)

end Snapshot

namespace Inspection

def Agree (same : Symbol → Symbol → Prop) (first second : Snapshot) (inspection other : Inspection α) :
    Prop :=
  SameOutcome (Failure.Renamed same) (inspection.on first) (other.on second)

variable {same : Symbol → Symbol → Prop} {first second : Snapshot} {s t : Symbol}

theorem agree_pure (value : α) : Agree same first second (pure value) (pure value) :=
  .ok value

theorem agree_log (level : Level) (text : String) :
    Agree same first second (log level text) (log level text) :=
  .ok ()

theorem agree_bind {inspection other : Inspection α} {f g : α → Inspection β}
    (agree : Agree same first second inspection other)
    (rest : ∀ value, Agree same first second (f value) (g value)) :
    Agree same first second (inspection >>= f) (other >>= g) := by
  simp only [Agree, on_bind]
  exact agree.bind rest

variable (paired : same s t)

include paired

theorem agree_scalar (held : SameScalar first s second t) : Agree same first second (scalar s) (scalar t) :=
  (Snapshot.scalar_renamed paired held).mapError .access

theorem agree_scalarAs (held : SameScalar first s second t) (kind : IntKind) :
    Agree same first second (scalarAs kind s) (scalarAs kind t) := by
  simp only [Agree, on_scalarAs]
  exact (Snapshot.scalarAs_renamed paired held kind).mapError .access

theorem agree_scalarId (held : SameScalar first s second t) :
    Agree same first second (scalarId s) (scalarId t) :=
  agree_bind (agree_scalarAs paired held .u16) fun _ => agree_pure _

variable (held : SameArray first s second t)

include held

theorem agree_length : Agree same first second (length s) (length t) :=
  (Snapshot.length_renamed paired held).mapError .access

theorem agree_elements {take : Element → Except AccessError α}
    (blind : ∀ index fields, SameRead same (take ⟨s, index, fields⟩) (take ⟨t, index, fields⟩))
    (count index : Nat) (sofar : Array α) :
    Agree same first second (elements s take count index sofar) (elements t take count index sofar) := by
  induction count generalizing index sofar with
  | zero => exact agree_pure sofar
  | succ count ih =>
    have here : Agree same first second (element s index take) (element t index take) :=
      (Snapshot.element_renamed paired held blind index).mapError .access
    exact agree_bind here fun value => ih (index + 1) (sofar.push value)

end Inspection

namespace Ring

variable {σ : Type} {same : Symbol → Symbol → Prop} {first second : Snapshot} {array array' : Symbol}
  {command : String} {render : σ → Nat → TraceRecord → String × σ} (paired : same array array')
  (held : SameArray first array second array')

include paired held

theorem agree_renderSlots {total : Nat} (slots : List UInt64) (state : σ) (lines : Array String) :
    Inspection.Agree same first second (renderSlots array command total render slots state lines)
      (renderSlots array' command total render slots state lines) := by
  induction slots generalizing state lines with
  | nil => exact Inspection.agree_pure _
  | cons slot rest ih =>
    have record : SameRead same (recordAt first array slot.toNat) (recordAt second array' slot.toNat) :=
      Snapshot.element_renamed paired held (TraceRecord.ofElement_renamed paired) slot.toNat
    rw [Inspection.Agree, on_renderSlots_cons, on_renderSlots_cons]
    -- The same record goes to the renderer in both, so the lines and the state behind it are the same.
    generalize recordAt first array slot.toNat = read at record ⊢
    generalize recordAt second array' slot.toNat = read' at record ⊢
    cases record with
    | ok record => exact ih _ _
    | error errors => exact .error (.incomplete errors command lines.toList total)

theorem agree_renderRing {next next' : Symbol} (pairedNext : same next next')
    (heldNext : SameScalar first next second next') (start : σ) :
    Inspection.Agree same first second (renderRing next array command render start)
      (renderRing next' array' command render start) := by
  rw [Inspection.Agree, on_renderRing, on_renderRing]
  exact .bind (Inspection.agree_length paired held) fun size =>
    .bind (Inspection.agree_scalar pairedNext heldNext) fun raw => agree_renderSlots paired held _ _ _

end Ring

theorem ReadyQueue.agree_report {same : Symbol → Symbol → Prop} {first second : Snapshot} (head tail : TaskId)
    (links : Array TaskId) (sentinel : TaskId) (maxSteps : Nat) :
    Inspection.Agree same first second (report head tail links sentinel maxSteps)
      (report head tail links sentinel maxSteps) := by
  rw [Inspection.Agree, on_report, on_report]
  cases walk head tail links sentinel maxSteps with
  | ok walked => exact .ok _
  | error queue => exact .error (.corruptedQueue queue)

end SchedProbe
