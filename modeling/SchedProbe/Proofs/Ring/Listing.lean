import SchedProbe.Proofs.Ring.Order
import SchedProbe.Proofs.Target.Capture
import SchedProbe.Proofs.Target.Exchange
import SchedProbe.Ring.Reading

/-! The listing of a ring. A listing keeps a line for each slot up to the first that cannot be read, so a
ring that is cut short shows the beginning of what it would show whole. -/

set_option autoImplicit false

namespace SchedProbe.Ring

variable {σ : Type}

def recordAt (snapshot : Snapshot) (array : Symbol) (slot : Nat) : Except AccessError TraceRecord :=
  (snapshot.element array slot).bind TraceRecord.ofElement

def readOrder (size : Nat) (raw : Int64) : List Nat :=
  (Cursor.ofRaw (UInt64.ofNat size) raw).slots.toList.map UInt64.toNat

/-- Records with the slots they were read from, in the order of the slots. -/
structure ReadFrom (snapshot : Snapshot) (array : Symbol) (slots : List Nat)
    (entries : List (Nat × TraceRecord)) : Prop where
  slots : entries.map Prod.fst = slots
  records : ∀ entry ∈ entries, recordAt snapshot array entry.1 = .ok entry.2

/-- A captured ring that can be read up to a slot: the entries of the slots before it, and why it cannot
be read. -/
def CutShort (snapshot : Snapshot) (next array : Symbol) (size : Nat) (entries : List (Nat × TraceRecord))
    (source : AccessError) : Prop :=
  ∃ raw k slot, snapshot.length array = .ok size ∧ snapshot.scalar next = .ok raw ∧
    (readOrder size raw)[k]? = some slot ∧ ReadFrom snapshot array ((readOrder size raw).take k) entries ∧
    recordAt snapshot array slot = .error source

def stateAfter (render : σ → Nat → TraceRecord → String × σ) (state : σ)
    (entries : List (Nat × TraceRecord)) : σ :=
  entries.foldl (fun state entry => (render state entry.1 entry.2).2) state

def listing (render : σ → Nat → TraceRecord → String × σ) :
    σ → List (Nat × TraceRecord) → List String
  | _, [] => []
  | state, (slot, record) :: rest =>
    let rendered := render state slot record
    rendered.1 :: listing render rendered.2 rest

section Listing

variable (render : σ → Nat → TraceRecord → String × σ) (state : σ) (entries : List (Nat × TraceRecord))

theorem length_listing : (listing render state entries).length = entries.length := by
  induction entries generalizing state with
  | nil => rfl
  | cons entry rest ih => exact congrArg (· + 1) (ih _)

theorem listing_take (k : Nat) :
    listing render state (entries.take k) = (listing render state entries).take k := by
  induction entries generalizing state k with
  | nil => rw [List.take_nil, listing, List.take_nil]
  | cons entry rest ih =>
    cases k with
    | zero => rfl
    | succ k => exact congrArg (_ :: ·) (ih _ k)

theorem listing_stateless (line : TraceRecord → String) (entries : List (Nat × TraceRecord)) :
    listing (fun _ _ record => (line record, ())) () entries = entries.map fun entry => line entry.2 := by
  induction entries with
  | nil => rfl
  | cons entry rest ih => exact congrArg (_ :: ·) ih

end Listing

section Reading

variable {snapshot : Snapshot} {array : Symbol} {slots : List Nat} {entries : List (Nat × TraceRecord)}

theorem readFrom_nil : ReadFrom snapshot array [] entries ↔ entries = [] := by
  constructor
  · intro read
    exact List.map_eq_nil_iff.1 read.slots
  · rintro rfl
    exact ⟨rfl, by simp⟩

theorem readFrom_cons {slot : Nat} : ReadFrom snapshot array (slot :: slots) entries ↔
    ∃ record rest, entries = (slot, record) :: rest ∧ recordAt snapshot array slot = .ok record ∧
      ReadFrom snapshot array slots rest := by
  constructor
  · intro ⟨same, records⟩
    obtain ⟨⟨_, record⟩, rest, rfl, rfl, behind⟩ := List.map_eq_cons_iff.1 same
    obtain ⟨first, others⟩ := List.forall_mem_cons.1 records
    exact ⟨record, rest, rfl, first, behind, others⟩
  · rintro ⟨record, rest, rfl, first, rfl, records⟩
    exact ⟨rfl, List.forall_mem_cons.2 ⟨first, records⟩⟩

theorem ReadFrom.length (read : ReadFrom snapshot array slots entries) : entries.length = slots.length := by
  rw [← read.slots, List.length_map]

theorem ReadFrom.take (read : ReadFrom snapshot array slots entries) (k : Nat) :
    ReadFrom snapshot array (slots.take k) (entries.take k) where
  slots := by rw [List.map_take, read.slots]
  records entry member := read.records entry (List.mem_of_mem_take member)

theorem exists_readFrom (readable : ∀ slot ∈ slots, ∃ record, recordAt snapshot array slot = .ok record) :
    ∃ entries, ReadFrom snapshot array slots entries := by
  induction slots with
  | nil => exact ⟨[], readFrom_nil.2 rfl⟩
  | cons slot slots ih =>
    obtain ⟨⟨record, first⟩, readable⟩ := List.forall_mem_cons.1 readable
    obtain ⟨rest, read⟩ := ih readable
    exact ⟨(slot, record) :: rest, readFrom_cons.2 ⟨record, rest, rfl, first, read⟩⟩

/-- Captures that agree on the records in some slots have the same entries there. -/
theorem ReadFrom.unique {other : Snapshot} {entries' : List (Nat × TraceRecord)}
    (read : ReadFrom snapshot array slots entries) (read' : ReadFrom other array slots entries')
    (agree : ∀ slot ∈ slots, recordAt other array slot = recordAt snapshot array slot) :
    entries' = entries := by
  induction slots generalizing entries entries' with
  | nil => rw [readFrom_nil.1 read, readFrom_nil.1 read']
  | cons slot slots ih =>
    obtain ⟨record, rest, rfl, first, behind⟩ := readFrom_cons.1 read
    obtain ⟨record', rest', rfl, first', behind'⟩ := readFrom_cons.1 read'
    obtain ⟨same, others⟩ := List.forall_mem_cons.1 agree
    rw [first, first'] at same
    cases same
    rw [ih behind behind' others]

theorem readFrom_or_unread (snapshot : Snapshot) (array : Symbol) (slots : List Nat) :
    (∃ entries, ReadFrom snapshot array slots entries) ∨
      ∃ k slot source entries, slots[k]? = some slot ∧ recordAt snapshot array slot = .error source ∧
        ReadFrom snapshot array (slots.take k) entries := by
  induction slots with
  | nil => exact .inl ⟨[], readFrom_nil.2 rfl⟩
  | cons slot slots ih =>
    cases here : recordAt snapshot array slot with
    | error source => exact .inr ⟨0, slot, source, [], rfl, here, readFrom_nil.2 rfl⟩
    | ok record =>
      obtain ⟨entries, read⟩ | ⟨k, other, source, entries, found, unread, read⟩ := ih
      · exact .inl ⟨_, readFrom_cons.2 ⟨record, entries, rfl, here, read⟩⟩
      · exact .inr ⟨k + 1, other, source, _, found, unread,
          readFrom_cons.2 ⟨record, entries, rfl, here, read⟩⟩

end Reading

section Slots

variable {render : σ → Nat → TraceRecord → String × σ} {array : Symbol} {command : String} {total : Nat}
  {snapshot : Snapshot}

/-- One slot of a listing is one read of its record, and one that cannot be read ends the listing. -/
theorem renderSlots_cons (slot : UInt64) (rest : List UInt64) (state : σ) (lines : Array String) :
    renderSlots array command total render (slot :: rest) state lines =
      Inspection.ask (.incomplete command lines.toList total) (.element array slot.toNat)
        TraceRecord.ofElement >>= fun record =>
          renderSlots array command total render rest (render state slot.toNat record).2
            (lines.push (render state slot.toNat record).1) := by
  refine congrArg (Probe.ask _) (funext fun reply => ?_)
  change ExceptT.bindCont _ (Except.ok (reply.bind TraceRecord.ofElement)) =
    ExceptT.bindCont _ ((reply.bind TraceRecord.ofElement).mapError _)
  cases reply.bind TraceRecord.ofElement <;> rfl

theorem on_renderSlots_cons (slot : UInt64) (rest : List UInt64) (state : σ) (lines : Array String) :
    (renderSlots array command total render (slot :: rest) state lines).on snapshot =
      match recordAt snapshot array slot.toNat with
      | .ok record =>
        (renderSlots array command total render rest (render state slot.toNat record).2
          (lines.push (render state slot.toNat record).1)).on snapshot
      | .error source => .error (.incomplete command lines.toList total source) := by
  rw [renderSlots, Inspection.on_bind, Inspection.on_element?, ← recordAt]
  cases recordAt snapshot array slot.toNat <;> rfl

/-- Slots that can be read add their lines and leave the rest to be listed. -/
theorem on_renderSlots_append {slots : List UInt64} {entries : List (Nat × TraceRecord)}
    (read : ReadFrom snapshot array (slots.map UInt64.toNat) entries) (rest : List UInt64) (state : σ)
    (lines : Array String) :
    (renderSlots array command total render (slots ++ rest) state lines).on snapshot =
      (renderSlots array command total render rest (stateAfter render state entries)
        (lines ++ listing render state entries)).on snapshot := by
  induction slots generalizing entries state lines with
  | nil =>
    rw [readFrom_nil.1 read, List.nil_append, listing, Array.appendList_nil]
    rfl
  | cons slot slots ih =>
    obtain ⟨record, entries, rfl, first, read⟩ := readFrom_cons.1 read
    rw [List.cons_append, on_renderSlots_cons, first, listing, Array.appendList_cons]
    exact ih read _ _

theorem on_renderSlots {slots : List UInt64} {entries : List (Nat × TraceRecord)}
    (read : ReadFrom snapshot array (slots.map UInt64.toNat) entries) (start : σ) :
    (renderSlots array command total render slots start #[]).on snapshot =
      .ok (listing render start entries) := by
  rw [← List.append_nil slots, on_renderSlots_append read, renderSlots, Inspection.on_pure,
    Array.toList_appendList, List.nil_append]

/-- The first slot that cannot be read ends the listing with the lines of the slots before it. -/
theorem on_renderSlots_of_unread {slots : List UInt64} {k slot : Nat} {entries : List (Nat × TraceRecord)}
    {source : AccessError} (read : ReadFrom snapshot array ((slots.map UInt64.toNat).take k) entries)
    (here : (slots.map UInt64.toNat)[k]? = some slot) (unread : recordAt snapshot array slot = .error source)
    (start : σ) :
    (renderSlots array command total render slots start #[]).on snapshot =
      .error (.incomplete command (listing render start entries) total source) := by
  obtain ⟨bound, rfl⟩ := List.getElem?_eq_some_iff.1 here
  rw [List.length_map] at bound
  rw [List.getElem_map] at unread
  rw [← List.map_take] at read
  have cut : slots.take k ++ slots[k] :: slots.drop (k + 1) = slots := by
    rw [List.getElem_cons_drop, List.take_append_drop]
  -- The slots before it are listed, and whatever is behind it is not.
  rw [← cut, on_renderSlots_append read, on_renderSlots_cons, unread]
  dsimp only
  rw [Array.toList_appendList, List.nil_append]

end Slots

section Outcome

variable (next array : Symbol) (command : String) (render : σ → Nat → TraceRecord → String × σ) (start : σ)

/-- The length is read first, then the index, and then the slots in the order of both. -/
theorem on_renderRing (snapshot : Snapshot) :
    (renderRing next array command render start).on snapshot = (do
      let size ← (snapshot.length array).mapError .access
      let raw ← (snapshot.scalar next).mapError .access
      (renderSlots array command size render (Cursor.ofRaw (UInt64.ofNat size) raw).slots.toList start
        #[]).on snapshot) := by
  simp only [renderRing, Inspection.on_bind, Inspection.on_length, Inspection.on_scalar, Inspection.on_log,
    Inspection.on_ite]
  -- The warning about an index that is no slot has no part in the outcome.
  simp only [bind, Except.bind, ite_self]

def outcome (snapshot : Snapshot) : Except Failure (List String) :=
  (renderRing next array command render start).on snapshot

variable {next array command render start} {snapshot : Snapshot}

theorem outcome_of_length_error {source : AccessError} (unread : snapshot.length array = .error source) :
    outcome next array command render start snapshot = .error (.access source) := by
  rw [outcome, on_renderRing, unread]
  rfl

theorem outcome_of_scalar_error {source : AccessError} {size : Nat}
    (sized : snapshot.length array = .ok size) (unread : snapshot.scalar next = .error source) :
    outcome next array command render start snapshot = .error (.access source) := by
  rw [outcome, on_renderRing, sized, unread]
  rfl

theorem outcome_of_ok {size : Nat} {raw : Int64} (sized : snapshot.length array = .ok size)
    (indexed : snapshot.scalar next = .ok raw) :
    outcome next array command render start snapshot =
      (renderSlots array command size render (Cursor.ofRaw (UInt64.ofNat size) raw).slots.toList start
        #[]).on snapshot := by
  rw [outcome, on_renderRing, sized, indexed]
  rfl

theorem outcome_of_readFrom {size : Nat} {raw : Int64} {entries : List (Nat × TraceRecord)}
    (sized : snapshot.length array = .ok size) (indexed : snapshot.scalar next = .ok raw)
    (small : size ≤ 2 ^ 63) (read : ReadFrom snapshot array (order size raw) entries) :
    outcome next array command render start snapshot = .ok (listing render start entries) := by
  rw [outcome_of_ok sized indexed]
  rw [← toNat_slots_ofRaw small] at read
  exact on_renderSlots read start

theorem outcome_of_unread {size k slot : Nat} {raw : Int64} {entries : List (Nat × TraceRecord)}
    {source : AccessError} (sized : snapshot.length array = .ok size)
    (indexed : snapshot.scalar next = .ok raw) (small : size ≤ 2 ^ 63)
    (read : ReadFrom snapshot array ((order size raw).take k) entries)
    (here : (order size raw)[k]? = some slot) (unread : recordAt snapshot array slot = .error source) :
    outcome next array command render start snapshot =
      .error (.incomplete command (listing render start entries) size source) := by
  rw [outcome_of_ok sized indexed]
  rw [← toNat_slots_ofRaw small] at read here
  exact on_renderSlots_of_unread read here unread start

/-- The listing of a captured ring: its length and its next-write index come first, and a ring without
them shows nothing. With both, a ring whose records can all be read shows a line for each, and one that has
a slot which cannot be read shows the lines up to the first such slot: those that any capture would show
first that has the same length, index and earlier records, and no such slot. -/
theorem renderRing_outcome (next array : Symbol) (command : String)
    (render : σ → Nat → TraceRecord → String × σ) (start : σ) (snapshot : Snapshot)
    (small : ∀ size, snapshot.length array = .ok size → size < 2 ^ 58) :
    (∀ source, snapshot.length array = .error source →
      outcome next array command render start snapshot = .error (.access source) ∧
        (Failure.access source).partialLines = []) ∧
    (∀ size source, snapshot.length array = .ok size → snapshot.scalar next = .error source →
      outcome next array command render start snapshot = .error (.access source) ∧
        (Failure.access source).partialLines = []) ∧
    ∀ size raw, snapshot.length array = .ok size → snapshot.scalar next = .ok raw →
      ((∀ slot ∈ order size raw, ∃ record, recordAt snapshot array slot = .ok record) →
        ∃ entries, ReadFrom snapshot array (order size raw) entries ∧
          outcome next array command render start snapshot = .ok (listing render start entries) ∧
          (listing render start entries).length = size) ∧
      ∀ k slot source, (order size raw)[k]? = some slot → recordAt snapshot array slot = .error source →
        (∀ earlier ∈ (order size raw).take k, ∃ record, recordAt snapshot array earlier = .ok record) →
        ∃ entries, ReadFrom snapshot array ((order size raw).take k) entries ∧
          outcome next array command render start snapshot =
            .error (.incomplete command (listing render start entries) size source) ∧
          (listing render start entries).length = k ∧ k < size ∧
          ∀ repaired : Snapshot, repaired.length array = .ok size → repaired.scalar next = .ok raw →
            (∀ earlier ∈ (order size raw).take k,
              recordAt repaired array earlier = recordAt snapshot array earlier) →
            (∀ slot ∈ order size raw, ∃ record, recordAt repaired array slot = .ok record) →
            ∃ lines, outcome next array command render start repaired = .ok lines ∧
              listing render start entries = lines.take k := by
  refine ⟨fun source unsized => ⟨outcome_of_length_error unsized, rfl⟩,
    fun size source sized unindexed => ⟨outcome_of_scalar_error sized unindexed, rfl⟩,
    fun size raw sized indexed => ?_⟩
  have bound : size ≤ 2 ^ 63 := by
    have := small size sized
    omega
  constructor
  · intro readable
    obtain ⟨entries, read⟩ := exists_readFrom readable
    refine ⟨entries, read, outcome_of_readFrom sized indexed bound read, ?_⟩
    rw [length_listing, read.length, length_order]
  · intro k slot source here unread readable
    obtain ⟨entries, read⟩ := exists_readFrom readable
    have inside : k < size := by
      have := (List.getElem?_eq_some_iff.1 here).1
      rwa [length_order] at this
    refine ⟨entries, read, outcome_of_unread sized indexed bound read here unread, ?_, inside, ?_⟩
    · rw [length_listing, read.length, List.length_take, length_order, Nat.min_eq_left (Nat.le_of_lt inside)]
    · intro repaired sized' indexed' agree readable'
      obtain ⟨whole, read'⟩ := exists_readFrom readable'
      refine ⟨_, outcome_of_readFrom sized' indexed' bound read', ?_⟩
      rw [← listing_take, read.unique (read'.take k) agree]

def tornRing : Snapshot :=
  (Snapshot.empty.withScalar "next" 1).withArray "trace"
    #[Fields.ofNumbers [("num", 1), ("ttype", 0), ("val", 10)],
      Fields.ofNumbers [("num", 2), ("ttype", 0), ("val", 20)],
      Fields.ofNumbers [("num", 3), ("ttype", 0)]]

def mendedRing : Snapshot :=
  (tornRing.setField? "trace" 2 "val" 30).getD tornRing

def showSum (sum : Nat) (_ : Nat) (record : TraceRecord) : String × Nat :=
  (Text.decimal sum, sum + record.id.toNat)

theorem renderRing_outcome_torn :
    (∀ size, tornRing.length "trace" = .ok size → size < 2 ^ 58) ∧
    ∃ decoded lines,
      outcome "next" "trace" "ring" showSum 0 tornRing =
          .error (.incomplete "ring" decoded 3 (.missingField "trace" 2 "val")) ∧
        decoded.length = 1 ∧ outcome "next" "trace" "ring" showSum 0 mendedRing = .ok lines ∧
        decoded = lines.take 1 := by
  have small : ∀ size, tornRing.length "trace" = .ok size → size < 2 ^ 58 := by
    intro size sized
    cases sized
    decide
  have torn : recordAt tornRing "trace" 1 = .ok ⟨2, 0, 20⟩ := by decide +kernel
  have oldest : recordAt mendedRing "trace" 1 = .ok ⟨2, 0, 20⟩ := by decide +kernel
  have middle : recordAt mendedRing "trace" 2 = .ok ⟨3, 0, 30⟩ := by decide +kernel
  have newest : recordAt mendedRing "trace" 0 = .ok ⟨1, 0, 10⟩ := by decide +kernel
  have readable : ∀ slot ∈ [1], ∃ record, recordAt tornRing "trace" slot = .ok record :=
    List.forall_mem_singleton.2 ⟨_, torn⟩
  have agree : ∀ slot ∈ [1], recordAt mendedRing "trace" slot = recordAt tornRing "trace" slot :=
    List.forall_mem_singleton.2 (oldest.trans torn.symm)
  have mended : ∀ slot ∈ [1, 2, 0], ∃ record, recordAt mendedRing "trace" slot = .ok record :=
    List.forall_mem_cons.2 ⟨⟨_, oldest⟩, List.forall_mem_cons.2 ⟨⟨_, middle⟩,
      List.forall_mem_singleton.2 ⟨_, newest⟩⟩⟩
  obtain ⟨-, -, listed⟩ := renderRing_outcome "next" "trace" "ring" showSum 0 tornRing small
  obtain ⟨-, cut⟩ := listed 3 1 rfl rfl
  obtain ⟨_, -, cut, length, -, whole⟩ := cut 1 2 _ rfl rfl readable
  obtain ⟨lines, shown, same⟩ := whole mendedRing rfl rfl agree mended
  exact ⟨small, _, lines, cut, length, shown, same⟩

end Outcome

/-- A ring is listed whole, or up to a slot that cannot be read, or a read before the slots fails. -/
theorem on_renderRing_cases (next array : Symbol) (command : String)
    (render : σ → Nat → TraceRecord → String × σ) (start : σ) (snapshot : Snapshot) :
    (∃ lines, (renderRing next array command render start).on snapshot = .ok lines) ∨
    (renderRing next array command render start).Unread snapshot ∨
    ∃ size entries source, CutShort snapshot next array size entries source ∧
      (renderRing next array command render start).on snapshot =
        .error (.incomplete command (listing render start entries) size source) := by
  rw [Inspection.Unread, on_renderRing]
  cases sized : snapshot.length array with
  | error source => exact .inr (.inl ⟨source, rfl⟩)
  | ok size =>
    cases indexed : snapshot.scalar next with
    | error source => exact .inr (.inl ⟨source, rfl⟩)
    | ok raw =>
      obtain ⟨entries, read⟩ | ⟨k, slot, source, entries, here, unread, read⟩ :=
        readFrom_or_unread snapshot array (readOrder size raw)
      · exact .inl ⟨_, on_renderSlots read start⟩
      · refine .inr (.inr ⟨size, entries, source, ⟨raw, k, slot, sized, indexed, here, read, unread⟩, ?_⟩)
        exact on_renderSlots_of_unread read here unread start

section Congruence

variable {τ : Type} {snapshot : Snapshot} {next array : Symbol} {command : String} {total : Nat}
  {render : σ → Nat → TraceRecord → String × σ} {render' : τ → Nat → TraceRecord → String × τ}
  {start : σ} {start' : τ}

/-- Renderers with the same lines for the records that can be read have the same outcome. -/
theorem on_renderSlots_congr (slots : List UInt64)
    (same : ∀ k entries, ReadFrom snapshot array ((slots.map UInt64.toNat).take k) entries →
      listing render start entries = listing render' start' entries) :
    (renderSlots array command total render slots start #[]).on snapshot =
      (renderSlots array command total render' slots start' #[]).on snapshot := by
  obtain ⟨entries, read⟩ | ⟨k, slot, source, entries, found, unread, read⟩ :=
    readFrom_or_unread snapshot array (slots.map UInt64.toNat)
  · have all := same slots.length entries (by rwa [List.take_of_length_le (by simp)])
    rw [on_renderSlots read, on_renderSlots read, all]
  · have early := same k entries read
    rw [on_renderSlots_of_unread read found unread, on_renderSlots_of_unread read found unread, early]

theorem on_renderRing_congr
    (same : ∀ size raw k entries, snapshot.length array = .ok size → snapshot.scalar next = .ok raw →
      ReadFrom snapshot array ((readOrder size raw).take k) entries →
        listing render start entries = listing render' start' entries) :
    (renderRing next array command render start).on snapshot =
      (renderRing next array command render' start').on snapshot := by
  rw [on_renderRing, on_renderRing]
  cases sized : snapshot.length array with
  | error source => rfl
  | ok size =>
    cases indexed : snapshot.scalar next with
    | error source => rfl
    | ok raw => exact on_renderSlots_congr _ fun k entries => same size raw k entries sized indexed

end Congruence

end SchedProbe.Ring
