import SchedProbe.Proofs.Ring.Exactness

/-! The slots of a ring, call by call. Each call takes the first slot off those left until there are none. In a ring
of at most `2 ^ 63` slots they are those from the index on and then those before it, so a list read as a ring is cut
at the index and its parts come out the other way round. -/

set_option autoImplicit false

namespace SchedProbe.Ring

variable {α : Type}

namespace Slots

theorem head?_toList (slots : Slots) : slots.toList.head? = slots.head? := by
  rw [toList_eq, head?]
  cases slots.next? <;> rfl

theorem tail_toList (slots : Slots) : slots.toList.tail = slots.rest.toList := by
  unfold rest
  rw [toList_eq]
  cases ended : slots.next? with
  | none =>
    have empty : slots.toList = [] := by rw [toList_eq, ended]
    exact empty.symm
  | some visited => rfl

/-- By induction on the calls: the slots left after one call are the tail of those left before it. -/
theorem getElem?_toList (slots : Slots) (calls : Nat) : slots.toList[calls]? = (rest^[calls] slots).head? := by
  induction calls generalizing slots with
  | zero => rw [← List.head?_eq_getElem?, head?_toList, Function.iterate_zero_apply]
  | succ calls ih => rw [Function.iterate_succ_apply, ← ih, ← tail_toList, List.getElem?_tail]

end Slots

/-- What the calls for the slots of a cursor bring. Each call counts one slot off those left, down to none; the
calls bring the slots of the cursor one by one, and nothing from then on; the newest slot is the last of them. -/
structure Cursor.Visits (cursor : Cursor) : Prop where
  left : ∀ calls, (Slots.rest^[calls] cursor.slots).left.toNat =
    cursor.capacity.toNat - min calls cursor.capacity.toNat
  slots : ∀ calls, (Slots.rest^[calls] cursor.slots).head? = cursor.slots.toList[calls]?
  ended : ∀ calls, (Slots.rest^[calls] cursor.slots).next? = none ↔ cursor.capacity.toNat ≤ calls
  newest : cursor.newest? = cursor.slots.toList.getLast?
  newest_none : cursor.newest? = none ↔ cursor.capacity = 0

section Calls

variable (cursor : Cursor)

theorem toNat_left (calls : Nat) : (Slots.rest^[calls] cursor.slots).left.toNat =
    cursor.capacity.toNat - min calls cursor.capacity.toNat := by
  have emitted := toNat_emitted cursor calls
  rw [iterate_rest] at emitted ⊢
  have most : UInt64.ofNat (min calls cursor.capacity.toNat) ≤ cursor.capacity := by
    rw [UInt64.le_iff_toNat_le, emitted]
    exact Nat.min_le_right ..
  rw [Slots.left, UInt64.toNat_sub_of_le _ _ most, emitted]

theorem next?_eq_none_iff (calls : Nat) :
    (Slots.rest^[calls] cursor.slots).next? = none ↔ cursor.capacity.toNat ≤ calls := by
  have visited := head?_iterate_rest cursor calls
  rw [Slots.head?, Option.map_map] at visited
  constructor
  · intro ended
    rw [ended] at visited
    refine Nat.not_lt.1 fun going => ?_
    rw [if_pos going] at visited
    cases visited
  · intro ended
    rw [if_neg (Nat.not_lt.2 ended)] at visited
    exact Option.map_eq_none_iff.1 visited

theorem length_toList : cursor.slots.toList.length = cursor.capacity.toNat := by
  rw [toList_slots, List.length_map, List.length_range]

theorem newest?_eq_none_iff : cursor.newest? = none ↔ cursor.capacity = 0 := by
  unfold Cursor.newest?
  split
  next empty => exact iff_of_true rfl empty
  next filled => exact iff_of_false (Option.some_ne_none _) filled

-- Both sums wrap in the same way, so this needs no bound on the capacity.
theorem newest?_eq_getLast? : cursor.newest? = cursor.slots.toList.getLast? := by
  refine Option.map_injective (fun _ _ => UInt64.toNat_inj.1) ?_
  rw [newest?_eq, List.getLast?_eq_getElem?, length_toList, Slots.getElem?_toList, head?_iterate_rest]
  by_cases empty : cursor.capacity = 0
  · rw [if_pos empty, empty]
    rfl
  · have positive : 0 < cursor.capacity.toNat := UInt64.lt_iff_toNat_lt.1 (UInt64.pos_iff_ne_zero.2 empty)
    have sum : ((cursor.nextWrite.toNat + cursor.capacity.toNat) % 2 ^ 64 + (2 ^ 64 - 1)) % 2 ^ 64 =
        (cursor.nextWrite.toNat + (cursor.capacity.toNat - 1)) % 2 ^ 64 := by omega
    rw [if_neg empty, if_pos (by omega), sum]

theorem visits : cursor.Visits where
  left := toNat_left cursor
  slots calls := (Slots.getElem?_toList cursor.slots calls).symm
  ended := next?_eq_none_iff cursor
  newest := newest?_eq_getLast? cursor
  newest_none := newest?_eq_none_iff cursor

end Calls

/-! ## The order of the slots -/

section Order

variable {capacity : UInt64} {cursor : Cursor} (placed : cursor.Placed capacity) (small : capacity.toNat ≤ 2 ^ 63)

include placed small

theorem fits_of_small : cursor.nextWrite.toNat + capacity.toNat < 2 ^ 64 := by
  obtain inside | ⟨empty, start⟩ := placed.index
  · omega
  · rw [empty, start]
    decide

theorem toNat_slots_eq_rotate :
    cursor.slots.toList.map UInt64.toNat = (List.range capacity.toNat).rotate cursor.nextWrite.toNat := by
  obtain ⟨rfl, inside | ⟨empty, -⟩⟩ := placed
  · rw [toNat_slots ⟨inside, small⟩, range_rotate]
  · have none : cursor.slots.toList = [] := by
      rw [← List.length_eq_zero_iff, length_toList, empty]
      rfl
    rw [none, empty]
    rfl

theorem nodup_slots : cursor.slots.toList.Nodup := by
  refine List.Nodup.of_map UInt64.toNat ?_
  rw [toNat_slots_eq_rotate placed small, List.nodup_rotate]
  exact List.nodup_range

theorem mem_slots (slot : UInt64) : slot ∈ cursor.slots.toList ↔ slot < capacity := by
  have visited : slot ∈ cursor.slots.toList ↔ slot.toNat ∈ cursor.slots.toList.map UInt64.toNat :=
    (List.mem_map_of_injective fun _ _ => UInt64.toNat_inj.1).symm
  rw [visited, toNat_slots_eq_rotate placed small, List.mem_rotate, List.mem_range, UInt64.lt_iff_toNat_lt]

end Order

theorem ofIndex_of_outside {capacity index : UInt64} (outside : ¬ index < capacity) :
    Cursor.ofIndex capacity index = Cursor.ofIndex capacity 0 := by
  simp only [Cursor.ofIndex, Cursor.clamp, if_neg outside, ite_self]

/-- Whatever the index, a list read as a ring comes out cut at it, or whole if the index is outside. -/
theorem decode_eq_drop_append_take (items : List α) (index : UInt64) (small : items.length ≤ 2 ^ 63) :
    let n := if index.toNat < items.length then index.toNat else 0
    decode (UInt64.ofNat items.length) index (fun slot => items[slot.toNat]?) =
      (items.drop n ++ items.take n).map some := by
  intro n
  have word := toNat_ofNat_of_le small
  by_cases inside : index.toNat < items.length
  · have rotated := decode_eq_rotate items inside small
    rw [UInt64.ofNat_toNat, List.rotate_eq_drop_append_take (Nat.le_of_lt inside)] at rotated
    simp only [n, if_pos inside]
    exact rotated
  · have outside : ¬ index < UInt64.ofNat items.length := by rwa [UInt64.lt_iff_toNat_lt, word]
    simp only [n, if_neg inside, List.drop_zero, List.take_zero, List.append_nil]
    rw [decode, ofIndex_of_outside outside, ← decode]
    cases items with
    | nil => rfl
    | cons first rest =>
      have rotated := decode_eq_rotate (first :: rest) (Nat.succ_pos _) small
      rwa [List.rotate_zero] at rotated

/-- A ring in order. A list of at most `2 ^ 63` items is read from the next-write index on and then up to it, as a
whole if the index is outside. A captured number that is not negative stands for the same index, and any other for
slot zero. Whatever a cursor is made from, its calls visit its slots one by one and then bring nothing, the newest
slot is the last one visited, and in a ring of at most `2 ^ 63` slots no sum wraps and every slot is visited once. -/
theorem ring_in_order :
    (∀ {α : Type} (items : List α) (index : UInt64), items.length ≤ 2 ^ 63 →
      let n := if index.toNat < items.length then index.toNat else 0
      decode (UInt64.ofNat items.length) index (fun slot => items[slot.toNat]?) =
        (items.drop n ++ items.take n).map some) ∧
    (∀ capacity raw, 0 ≤ raw → Cursor.ofRaw capacity raw = Cursor.ofIndex capacity raw.toUInt64) ∧
    (∀ capacity raw, raw < 0 → Cursor.ofRaw capacity raw = ⟨capacity, 0⟩) ∧
    ∀ (capacity : UInt64) (cursor : Cursor), cursor.MadeFor capacity →
      cursor.capacity = capacity ∧ cursor.Visits ∧
        (capacity.toNat ≤ 2 ^ 63 → cursor.Exact ∧ cursor.slots.toList.Nodup ∧
          ∀ slot, slot ∈ cursor.slots.toList ↔ slot < capacity) := by
  refine ⟨decode_eq_drop_append_take, fun capacity raw natural => ?_, fun capacity raw negative => ?_,
    fun capacity cursor made => ?_⟩
  · rw [Cursor.ofRaw, Cursor.index?, if_neg (Int64.not_lt.2 natural), Cursor.ofIndex]
  · rw [Cursor.ofRaw, Cursor.index?, if_pos negative, Cursor.clamp]
  · have placed := placed_of_madeFor made
    exact ⟨placed.size, visits cursor, fun small =>
      ⟨(exact_iff placed).2 (fits_of_small placed small), nodup_slots placed small, mem_slots placed small⟩⟩

-- Five items from the fourth on, and from the first for an index behind the last; then the cursor of a captured
-- number, called twice and more often than it has slots.
theorem ring_in_order_wrapped :
    let items := ["a", "b", "c", "d", "e"]
    let cursor := Cursor.ofRaw 5 3
    items.length ≤ 2 ^ 63 ∧
      decode 5 3 (fun slot => items[slot.toNat]?) = ["d", "e", "a", "b", "c"].map some ∧
      decode 5 9 (fun slot => items[slot.toNat]?) = items.map some ∧
      (0 : Int64) ≤ 3 ∧ cursor = Cursor.ofIndex 5 3 ∧ (-3 : Int64) < 0 ∧ Cursor.ofRaw 5 (-3) = ⟨5, 0⟩ ∧
      cursor.MadeFor 5 ∧ cursor.slots.toList = [3, 4, 0, 1, 2] ∧ cursor.slots.toList.Nodup ∧
      (Slots.rest^[2] cursor.slots).left.toNat = 3 ∧ (Slots.rest^[2] cursor.slots).head? = some 0 ∧
      (Slots.rest^[7] cursor.slots).next? = none ∧ cursor.newest? = some 2 ∧ cursor.Exact := by
  intro items cursor
  have made : cursor.MadeFor 5 := .inr ⟨3, rfl⟩
  have slots : cursor.slots.toList = [3, 4, 0, 1, 2] := by decide
  obtain ⟨read, natural, negative, cursors⟩ := ring_in_order
  obtain ⟨-, visits, always⟩ := cursors 5 cursor made
  obtain ⟨exact, once, -⟩ := always (by decide)
  refine ⟨by decide, read items 3 (by decide), read items 9 (by decide), by decide, natural 5 3 (by decide), by decide,
    negative 5 (-3) (by decide), made, slots, once, visits.left 2, ?_, (visits.ended 7).2 (by decide), ?_, exact⟩
  · rw [visits.slots, slots]
    rfl
  · rw [visits.newest, slots]
    rfl

end SchedProbe.Ring
