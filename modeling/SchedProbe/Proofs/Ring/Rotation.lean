import SchedProbe.Proofs.Ring.Listing
import SchedProbe.Proofs.Snapshot.Updates

/-! Rings whose next-write index is not to be trusted. Whatever number is read for the index, the slots are
read in the order of the array up to a rotation, so a ring without state between its records shows the same
lines from another one on. -/

set_option autoImplicit false

namespace SchedProbe.Ring

theorem oldest_le (capacity : Nat) (raw : Int64) : oldest capacity raw ≤ capacity := by
  unfold oldest
  split
  · omega
  · exact Nat.zero_le capacity

theorem order_eq_rotate (capacity : Nat) (raw : Int64) :
    order capacity raw = (List.range capacity).rotate (oldest capacity raw) :=
  range_rotate capacity (oldest capacity raw)

theorem mem_order {capacity slot : Nat} {raw : Int64} : slot ∈ order capacity raw ↔ slot < capacity := by
  rw [order_eq_rotate, List.mem_rotate, List.mem_range]

section Reading

variable {snapshot : Snapshot} {next array : Symbol} {size : Nat} {raw : Int64}

theorem ReadFrom.rotate {slots : List Nat} {entries : List (Nat × TraceRecord)}
    (read : ReadFrom snapshot array slots entries) (n : Nat) :
    ReadFrom snapshot array (slots.rotate n) (entries.rotate n) where
  slots := by rw [List.map_rotate, read.slots]
  records entry member := read.records entry (List.mem_rotate.1 member)

theorem ReadFrom.recordAt {entries : List (Nat × TraceRecord)}
    (read : ReadFrom snapshot array (List.range size) entries) {slot : Nat} {entry : Nat × TraceRecord}
    (found : entries[slot]? = some entry) : recordAt snapshot array slot = .ok entry.2 := by
  have slots : (List.range size)[slot]? = some entry.1 := by
    rw [← read.slots, List.getElem?_map, found, Option.map_some]
  obtain ⟨inside, same⟩ := List.getElem?_eq_some_iff.1 slots
  rw [List.getElem_range] at same
  rw [same]
  exact read.records entry (List.mem_of_getElem? found)

theorem ReadFrom.withScalar {slots : List Nat} {entries : List (Nat × TraceRecord)}
    (read : ReadFrom snapshot array slots entries) (sized : snapshot.length array = .ok size)
    (symbol : Symbol) (value : Int64) :
    ReadFrom (snapshot.withScalar symbol value) array slots entries where
  slots := read.slots
  records entry member := by
    rw [Ring.recordAt, Snapshot.element_withScalar sized]
    exact read.records entry member

section Whole

variable {σ : Type} {command : String} {render : σ → Nat → TraceRecord → String × σ} {start : σ}
  {lines : List String} (shown : (renderRing next array command render start).on snapshot = .ok lines)

include shown

theorem read_of_renderRing :
    ∃ size raw, snapshot.length array = .ok size ∧ snapshot.scalar next = .ok raw := by
  rw [on_renderRing] at shown
  cases sized : snapshot.length array with
  | error source =>
    rw [sized] at shown
    cases shown
  | ok size =>
    cases indexed : snapshot.scalar next with
    | error source =>
      rw [sized, indexed] at shown
      cases shown
    | ok raw => exact ⟨size, raw, rfl, rfl⟩

/-- A ring that is listed whole has a record in every slot. -/
theorem exists_readFrom_range (sized : snapshot.length array = .ok size)
    (indexed : snapshot.scalar next = .ok raw) (small : size ≤ 2 ^ 63) :
    ∃ entries, ReadFrom snapshot array (List.range size) entries := by
  refine exists_readFrom fun slot member => ?_
  have listed : slot ∈ order size raw := mem_order.2 (List.mem_range.1 member)
  obtain ⟨entries, read⟩ | ⟨k, other, source, entries, found, unread, read⟩ :=
    readFrom_or_unread snapshot array (order size raw)
  · rw [← read.slots] at listed
    obtain ⟨entry, among, rfl⟩ := List.mem_map.1 listed
    exact ⟨entry.2, read.records entry among⟩
  · cases shown.symm.trans (outcome_of_unread sized indexed small read found unread)

end Whole

/-- Records that leave no state behind are shown in the order of the array, from the oldest slot on. -/
theorem on_renderRing_stateless {command : String} {line : TraceRecord → String}
    {entries : List (Nat × TraceRecord)} (sized : snapshot.length array = .ok size)
    (indexed : snapshot.scalar next = .ok raw) (small : size ≤ 2 ^ 63)
    (read : ReadFrom snapshot array (List.range size) entries) :
    (renderRing next array command (fun _ _ record => (line record, ())) ()).on snapshot =
      .ok ((entries.map fun entry => line entry.2).rotate (oldest size raw)) := by
  have rotated := read.rotate (oldest size raw)
  rw [← order_eq_rotate] at rotated
  rw [← List.map_rotate, ← listing_stateless]
  exact outcome_of_readFrom sized indexed small rotated

end Reading

end SchedProbe.Ring
